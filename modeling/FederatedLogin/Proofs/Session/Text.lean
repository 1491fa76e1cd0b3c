import FederatedLogin.Proofs.Json.Written
import FederatedLogin.Proofs.Uuid
import FederatedLogin.Session.Cookie

/-!
# What sessions are written as

The values of a session are read back from the blob in which they are stored (`decode?_encode`), so
that the blob determines them (`encode_faithful`), different sessions have different keys
(`key_injective`), and with options that may stand in a header every session has a cookie
(`cookie_of_headerSafe`), which begins with its name and its value (`exists_cookieStart`).
-/

namespace FederatedLogin.Session

open Json

/-! ## Blobs -/

namespace Values

theorem parse_encode (v : Values) :
    parse v.encode = .ok (.object (("v", .string version) :: v.members)) := by
  refine parse_render (valueText_object fun m hm => ?_)
  simp only [members, List.mem_cons, List.not_mem_nil, or_false] at hm
  rcases hm with rfl | rfl | rfl | rfl
  · exact valueText_string _ _
  all_goals exact valueText_ofOption _ _

theorem optionalString?_ofOption (s : Option String) :
    (Value.ofOption s).optionalString? = some s := by
  cases s <;> rfl

theorem uuid?_ofOption (id : Option Uuid) :
    uuid? (.ofOption (id.map Uuid.render)) = some id := by
  cases id with
  | none => rfl
  | some id =>
    show (Uuid.parse? id.render).map some = _
    rw [Uuid.parse?_render]
    rfl

theorem ofMembers?_members (v : Values) (version : Value) :
    ofMembers? (("v", version) :: v.members) = some v := by
  have fields : ofFields? (.ofOption (v.userId.map Uuid.render)) (.ofOption v.issuer)
      (.ofOption v.accessToken) = some v := by
    unfold ofFields?
    rw [uuid?_ofOption, optionalString?_ofOption, optionalString?_ofOption]
    rfl
  exact fields

/-- Values are read back from the blob in which they are stored. -/
theorem decode?_encode (v : Values) : decode? v.encode = some v := by
  unfold decode?
  rw [parse_encode]
  exact ofMembers?_members v (.string version)

/-- Whatever the texts among the values are, the blob is an object with the version as its only
member `v`, reading it gives the values back, and no other values have the same blob. -/
theorem encode_faithful (v : Values) :
    decode? v.encode = some v ∧
      (∃ members, parse v.encode = .ok (.object members) ∧
        valuesOf "v" members = [.string "1"]) ∧
      ∀ w : Values, w.encode = v.encode → w = v := by
  refine ⟨decode?_encode v, ⟨_, parse_encode v, rfl⟩, fun w same => ?_⟩
  have read : decode? w.encode = some v := by
    rw [same]
    exact decode?_encode v
  rw [decode?_encode w] at read
  exact Option.some.inj read

-- Quotes, backslashes, controls, and a text that looks like a blob.
example :
    let v : Values := ⟨none, some "\x7b\"v\":\"2\"\x7d\\u0031", some "\x00\n\x7f\u2028😀"⟩
    decode? v.encode = some v := by
  decide +kernel

end Values

/-! ## Keys -/

theorem key_injective {config : Config} {id id' : Uuid} (h : key config id = key config id') :
    id = id' := by
  unfold key at h
  -- The keys share their prefix, so that the written identifiers agree.
  have texts := congrArg String.toList h
  rw [String.toList_append, String.toList_append] at texts
  exact Uuid.render_injective (String.toList_inj.1 (List.append_cancel_left texts))

/-! ## Cookies -/

/-- The name, the path and the domain of cookies may stand in a header. -/
structure Config.HeaderSafe (config : Config) : Prop where
  name : config.cookieName.toList.all isHeaderCharacter = true
  path : config.cookiePath.toList.all isHeaderCharacter = true
  domain : ∀ d, config.domain = some d → d.toList.all isHeaderCharacter = true

theorem isHeaderCharacter_of_mem_render {id : Uuid} {c : Char} (h : c ∈ id.render.toList) :
    isHeaderCharacter c = true := by
  have all : "-0123456789abcdef".toList.all isHeaderCharacter = true := by decide
  unfold Uuid.render at h
  rw [String.toList_ofList] at h
  exact List.all_eq_true.1 all c (Uuid.mem_of_mem_text h)

theorem isHeaderCharacter_of_isDigit {c : Char} (h : c.isDigit = true) :
    isHeaderCharacter c = true := by
  obtain ⟨low, high⟩ : 48 ≤ c.val.toNat ∧ c.val.toNat ≤ 57 := by
    simpa [Char.isDigit, UInt32.le_iff_toNat_le] using h
  have space : ' ' ≤ c := by
    show (32 : UInt32) ≤ c.val
    rw [UInt32.le_iff_toNat_le]
    exact Nat.le_trans (by decide) low
  have delete : c ≠ '\x7f' := by
    rintro rfl
    exact absurd high (by decide)
  unfold isHeaderCharacter
  simp [space, delete]

theorem isHeaderCharacter_of_mem_decimalInt {n : Int} {c : Char} (h : c ∈ Text.decimalInt n) :
    isHeaderCharacter c = true := by
  cases n with
  | ofNat n => exact isHeaderCharacter_of_isDigit (Text.isDigit_of_mem_decimal h)
  | negSucc n =>
    rcases List.mem_cons.1 h with rfl | h
    · decide
    · exact isHeaderCharacter_of_isDigit (Text.isDigit_of_mem_decimal h)

variable {config : Config}

theorem all_cookieStart (safe : config.HeaderSafe) (s : Session) :
    (cookieStart config s).toList.all isHeaderCharacter = true := by
  have id : s.id.render.toList.all isHeaderCharacter = true :=
    List.all_eq_true.2 fun _ => isHeaderCharacter_of_mem_render
  have age : (Text.decimalInt s.maxAge).all isHeaderCharacter = true :=
    List.all_eq_true.2 fun _ => isHeaderCharacter_of_mem_decimalInt
  unfold cookieStart
  split
  · simp only [String.toList_append, List.all_append, safe.name, safe.path]
    decide
  · split
    · simp only [String.toList_append, List.all_append, safe.name, safe.path, id,
        String.toList_ofList, age]
      decide
    · simp only [String.toList_append, List.all_append, safe.name, safe.path, id]
      decide

/-- With options that may stand in a header, every session has a cookie. -/
theorem cookie_of_headerSafe (safe : config.HeaderSafe) (s : Session) :
    cookie config s = .ok (cookieText config s) := by
  have start := all_cookieStart safe s
  have site : config.sameSite.name.toList.all isHeaderCharacter = true := by
    cases config.sameSite <;> decide
  unfold cookie
  refine if_pos ?_
  unfold cookieText
  cases hd : config.domain with
  | none =>
    simp only [String.toList_append, List.all_append, start, site]
    cases config.httpOnly <;> cases config.secure <;> decide
  | some d =>
    simp only [String.toList_append, List.all_append, start, site, safe.domain d hd]
    cases config.httpOnly <;> cases config.secure <;> decide

/-- What stands after the equals sign in the cookie of a session. -/
def cookieValue (s : Session) : String := if s.isEnded then "" else s.id.render

theorem cookieValue_of_live {s : Session} (live : s.isEnded = false) :
    s.cookieValue = s.id.render := by
  unfold cookieValue
  rw [live]
  rfl

theorem cookieValue_of_ended {s : Session} (ended : s.isEnded = true) : s.cookieValue = "" :=
  if_pos ended

/-- The cookie of a session begins with its name and its value. -/
theorem exists_cookieStart (config : Config) (s : Session) : ∃ attributes,
    cookieText config s = config.cookieName ++ "=" ++ s.cookieValue ++ "; Path=" ++ attributes := by
  unfold cookieText cookieStart cookieValue
  split
  · rw [show "=; Path=" = "=" ++ "" ++ "; Path=" from rfl]
    simp only [String.append_assoc]
    exact ⟨_, rfl⟩
  · simp only [String.append_assoc]
    exact ⟨_, rfl⟩

/-- The cookie of a session that has not ended begins with its name and the identifier. -/
theorem exists_cookieText {s : Session} (live : s.isEnded = false) :
    ∃ attributes, cookieText config s
      = config.cookieName ++ "=" ++ s.id.render ++ "; Path=" ++ attributes := by
  rw [← cookieValue_of_live live]
  exact exists_cookieStart config s

/-- The cookie of a session that has ended has no value, and no time left. -/
theorem exists_cookieText_of_ended {s : Session} (ended : s.isEnded = true) :
    ∃ attributes, cookieText config s
      = config.cookieName ++ "=; Path=" ++ config.cookiePath ++ "; Max-Age=0" ++ attributes := by
  unfold cookieText cookieStart
  rw [ended]
  simp only [if_true, String.append_assoc]
  exact ⟨_, rfl⟩

end FederatedLogin.Session
