import FederatedLogin.Proofs.Backend.Transcript
import FederatedLogin.Proofs.Session.Request
import FederatedLogin.Proofs.Session.Saving

/-!
# Lifetimes in the store and in the cookie

Saving a session gives one command to the store, and a cookie that says the same about its lifetime
(`save_lifetime`). The cookie is taken apart again at its semicolons (`cookies_cookieText`): with
options that are parts of a cookie (`Config.Plain`) its attributes are the ones that were put in.
-/

namespace FederatedLogin.Session

open Text

/-! ## Parts of a cookie -/

/-- The text stands in a cookie as one part: it has no semicolon, and no white space around it. -/
structure Part (text : String) : Prop where
  separate : ';' ∉ text.toList
  trimmed : trim text.toList = text.toList

/-- The options are parts of a cookie that a header can carry, and the name is followed by the first
equals sign. -/
structure Config.Plain (config : Config) : Prop where
  safe : config.HeaderSafe
  noEquals : '=' ∉ config.cookieName.toList
  name : Part config.cookieName
  path : Part config.cookiePath
  domain : ∀ d, config.domain = some d → Part d

/-- A name and a value with an equals sign between them are one part. -/
theorem Part.named {name value : String} (hn : Part name) (hv : Part value) :
    Part (name ++ "=" ++ value) := by
  have text : (name ++ "=" ++ value).toList = name.toList ++ '=' :: value.toList := by
    simp [String.toList_append]
  constructor
  · rw [text]
    simp only [List.mem_append, List.mem_cons, not_or]
    exact ⟨hn.separate, by decide, hv.separate⟩
  · rw [text, trim_append_cons (by decide), trimLeft_of_trim hn.trimmed,
      trimRight_of_trim hv.trimmed]

/-- A text without any white space or semicolon is one part. -/
theorem part_of_forall {text : String} (h : ∀ c ∈ text.toList, isBlank c = false ∧ c ≠ ';') :
    Part text where
  separate mem := (h _ mem).2 rfl
  trimmed := trim_of_forall fun c hc => (h c hc).1

/-- That a fixed text is one part may be looked up. -/
theorem part_of_all {text : String}
    (all : text.toList.all (fun c => decide (isBlank c = false ∧ c ≠ ';')) = true) : Part text :=
  part_of_forall (forall_mem_of_all all)

theorem part_render (id : Uuid) : Part id.render := by
  have all : ∀ c ∈ "-0123456789abcdef".toList, isBlank c = false ∧ c ≠ ';' :=
    forall_mem_of_all (by decide)
  refine part_of_forall fun c hc => all c ?_
  unfold Uuid.render at hc
  rw [String.toList_ofList] at hc
  exact Uuid.mem_of_mem_text hc

theorem part_decimal (n : Nat) : Part (String.ofList (decimal n)) := by
  refine part_of_forall fun c hc => ?_
  rw [String.toList_ofList] at hc
  have digit := isDigit_of_mem_decimal hc
  have ascii : c.toNat < 128 := by
    have high : c.val.toNat ≤ 57 := by
      simp only [Char.isDigit, Bool.and_eq_true, decide_eq_true_eq] at digit
      exact UInt32.le_iff_toNat_le.1 digit.2
    exact Nat.lt_of_le_of_lt high (by decide)
  exact forall_ascii (P := fun c => c.isDigit = true → isBlank c = false ∧ c ≠ ';')
    (by decide +kernel) ascii digit

/-! ## The attributes of the cookie -/

/-- What the cookie of a session says about its lifetime, if it says anything. -/
def cookieAge? (s : Session) : Option String :=
  if s.isEnded then some "0"
  else if 0 < s.maxAge then some (String.ofList (decimalInt s.maxAge))
  else none

/-- The attributes of a cookie with a lifetime. -/
def attributes (config : Config) (age? : Option String) : List String :=
  ["Path=" ++ config.cookiePath]
    ++ (age?.map ("Max-Age=" ++ ·)).toList
    ++ (config.domain.map ("Domain=" ++ ·)).toList
    ++ ["SameSite=" ++ config.sameSite.name]
    ++ (if config.httpOnly then ["HttpOnly"] else [])
    ++ (if config.secure then ["Secure"] else [])

variable {config : Config} {s : Session}

/-- The cookie is its name and its value, and each attribute behind a semicolon and a space. -/
theorem toList_cookieText (config : Config) (s : Session) :
    (cookieText config s).toList = join ';' ((config.cookieName ++ "=" ++ s.cookieValue).toList
      :: (attributes config s.cookieAge?).map fun a => ' ' :: a.toList) := by
  have start : (cookieStart config s).toList = (config.cookieName ++ "=" ++ s.cookieValue).toList
      ++ (["Path=" ++ config.cookiePath] ++ (s.cookieAge?.map ("Max-Age=" ++ ·)).toList).flatMap
        fun a => ';' :: ' ' :: a.toList := by
    unfold cookieStart cookieValue cookieAge?
    split
    · simp [String.toList_append]
    · split <;> simp [String.toList_append]
  rw [join_cons, List.flatMap_map]
  unfold cookieText attributes
  simp only [String.toList_append, start, List.flatMap_append, List.append_assoc]
  cases config.domain <;> cases config.httpOnly <;> cases config.secure <;>
    simp [String.toList_append]

theorem part_cookieValue (s : Session) : Part s.cookieValue := by
  unfold cookieValue
  split
  · exact part_of_forall nofun
  · exact part_render s.id

theorem part_cookieAge {age : String} (h : s.cookieAge? = some age) : Part age := by
  unfold cookieAge? at h
  split at h
  · cases h
    exact part_of_all (by decide)
  · split at h
    · next positive =>
      cases h
      obtain ⟨n, hn⟩ := Int.eq_ofNat_of_zero_le (Int.le_of_lt positive)
      rw [hn]
      exact part_decimal n
    · cases h

/-- The attributes are parts, if what is put into them is. -/
theorem part_attributes (plain : config.Plain) {age? : Option String}
    (hage : ∀ age, age? = some age → Part age) {a : String} (h : a ∈ attributes config age?) :
    Part a := by
  simp only [attributes, List.mem_append, List.mem_singleton, Option.mem_toList,
    Option.map_eq_some_iff] at h
  rcases h with ((((rfl | ⟨age, given, rfl⟩) | ⟨d, given, rfl⟩) | rfl) | flag) | flag
  · exact Part.named (part_of_all (by decide) : Part "Path") plain.path
  · exact Part.named (part_of_all (by decide) : Part "Max-Age") (hage age given)
  · exact Part.named (part_of_all (by decide) : Part "Domain") (plain.domain d given)
  · refine Part.named (part_of_all (by decide) : Part "SameSite") ?_
    cases config.sameSite <;> exact part_of_all (by decide)
  · split at flag
    · rw [List.mem_singleton.1 flag]
      exact part_of_all (by decide)
    · cases flag
  · split at flag
    · rw [List.mem_singleton.1 flag]
      exact part_of_all (by decide)
    · cases flag

/-- Between its semicolons the cookie has its name and its value, and then the attributes. -/
theorem cookies_cookieText (plain : config.Plain) (s : Session) :
    (cookies (cookieText config s)).map (fun piece => String.ofList (trim piece)) =
      (config.cookieName ++ "=" ++ s.cookieValue) :: attributes config s.cookieAge? := by
  have first : Part (config.cookieName ++ "=" ++ s.cookieValue) :=
    plain.name.named (part_cookieValue s)
  have rest : ∀ a ∈ attributes config s.cookieAge?, Part a := fun a ha =>
    part_attributes plain (fun _ => part_cookieAge) ha
  have separate : ∀ q ∈ (config.cookieName ++ "=" ++ s.cookieValue).toList
      :: (attributes config s.cookieAge?).map (fun a => ' ' :: a.toList), ';' ∉ q := by
    intro q hq
    rcases List.mem_cons.1 hq with rfl | hq
    · exact first.separate
    · obtain ⟨a, ha, rfl⟩ := List.mem_map.1 hq
      exact fun mem => (rest a ha).separate ((List.mem_cons.1 mem).resolve_left (by decide))
  unfold cookies
  rw [toList_cookieText, pieces_join_of_not_mem (List.cons_ne_nil _ _) separate, List.map_cons,
    List.map_map, first.trimmed, String.ofList_toList]
  refine congrArg (_ :: ·) ((List.map_congr_left fun a ha => ?_).trans (List.map_id _))
  -- The space behind the semicolon is cut off again.
  have space : Blank [' '] := forall_mem_of_all (by decide)
  have padded := trim_pad space blank_nil a.toList
  rw [List.append_nil] at padded
  show String.ofList (trim ([' '] ++ a.toList)) = a
  rw [padded, (rest a ha).trimmed, String.ofList_toList]

/-! ## The command to the store -/

/-- The command that saves a session with the lifetime under a key, with its answer: a session that
has ended is deleted, one without an end is stored for good, and any other one for its lifetime. -/
inductive SaveCommand (key blob : String) (answer : Except Error Unit) : Int → Answered → Prop where
  | delete {maxAge : Int} (ended : maxAge < 0) :
      SaveCommand key blob answer maxAge ⟨.deleteSession key, answer⟩
  | store : SaveCommand key blob answer 0 ⟨.storeSession key blob none, answer⟩
  | storeFor {seconds : Nat} (positive : 0 < seconds) :
      SaveCommand key blob answer seconds ⟨.storeSession key blob (some seconds), answer⟩

variable {key blob : String} {answer : Except Error Unit} {command : Answered}

theorem saveCommand_of_ended {maxAge : Int} (ended : maxAge < 0) :
    SaveCommand key blob answer maxAge command ↔ command = ⟨.deleteSession key, answer⟩ := by
  constructor
  · intro saved
    cases saved with
    | delete _ => rfl
    | store => exact absurd ended (by decide)
    | storeFor positive => omega
  · rintro rfl
    exact .delete ended

theorem saveCommand_of_live (live : ¬ s.maxAge < 0) :
    SaveCommand key blob answer s.maxAge command ↔
      command = ⟨.storeSession key blob (lifetime? s), answer⟩ := by
  constructor
  · generalize hm : s.maxAge = maxAge at live
    intro saved
    cases saved with
    | delete ended => exact absurd ended live
    | store => rw [show lifetime? s = none from if_neg (by omega)]
    | storeFor positive =>
      rw [show lifetime? s = some s.maxAge.toNat from if_pos (by omega), hm, Int.toNat_natCast]
  · rintro rfl
    by_cases positive : 0 < s.maxAge
    · rw [show lifetime? s = some s.maxAge.toNat from if_pos positive]
      obtain ⟨seconds, hs⟩ := Int.eq_ofNat_of_zero_le (Int.le_of_lt positive)
      rw [hs, Int.toNat_natCast]
      exact .storeFor (by omega)
    · have zero : s.maxAge = 0 := by omega
      rw [show lifetime? s = none from if_neg positive, zero]
      exact .store

/-- Writing a session is the one command. -/
theorem ends_write_iff {calls : List Answered} :
    (write config s).Ends calls answer ↔ ∃ command,
      SaveCommand (Session.key config s.id) s.values.encode answer s.maxAge command ∧
        calls = [command] := by
  by_cases ended : s.maxAge < 0
  · simp only [saveCommand_of_ended ended, exists_eq_left]
    rw [write_of_ended ended]
    exact Program.ends_call
  · simp only [saveCommand_of_live ended, exists_eq_left]
    rw [write_of_live ended]
    exact Program.ends_call

/-- Saving a session is the one command. If the store carries it out, the cookie is given. -/
theorem ends_save_iff (safe : config.HeaderSafe) {calls : List Answered}
    {r : Except Error String} :
    (save config s).Ends calls r ↔ ∃ answer command,
      SaveCommand (Session.key config s.id) s.values.encode answer s.maxAge command ∧
        calls = [command] ∧ r = answer.map fun _ => cookieText config s := by
  refine Program.ends_bind.trans ⟨?_, ?_⟩
  · rintro ⟨first, answer, second, rfl, written, rest⟩
    obtain ⟨command, saved, rfl⟩ := ends_write_iff.1 written
    refine ⟨answer, command, saved, ?_⟩
    cases answer with
    | error e =>
      obtain ⟨rfl, rfl⟩ := rest
      exact ⟨rfl, rfl⟩
    | ok _ =>
      obtain ⟨rfl, rfl⟩ := rest
      exact ⟨rfl, cookie_of_headerSafe safe s⟩
  · rintro ⟨answer, command, saved, rfl, rfl⟩
    refine ⟨[command], answer, [], rfl, ends_write_iff.2 ⟨command, saved, rfl⟩, ?_⟩
    cases answer with
    | error e => exact ⟨rfl, rfl⟩
    | ok _ => exact ⟨rfl, (cookie_of_headerSafe safe s).symm⟩

/-! ## What the cookie says about the lifetime -/

theorem cookieValue_eq_empty_iff : s.cookieValue = "" ↔ s.maxAge < 0 := by
  unfold cookieValue isEnded
  by_cases ended : s.maxAge < 0
  · simp [ended]
  · have written : s.id.render ≠ "" := by
      intro none
      have lengths := congrArg (fun t => t.toList.length) none
      simp [Uuid.render, Uuid.length_text] at lengths
    simp [ended, written]

theorem cookieAge?_of_ended (ended : s.maxAge < 0) : s.cookieAge? = some "0" :=
  if_pos (decide_eq_true ended)

theorem cookieAge?_of_zero (zero : s.maxAge = 0) : s.cookieAge? = none := by
  unfold cookieAge? isEnded
  rw [zero]
  rfl

theorem cookieAge?_of_positive (positive : 0 < s.maxAge) :
    s.cookieAge? = some (String.ofList (decimal s.maxAge.toNat)) := by
  have live : ¬ s.isEnded = true := fun ended => by
    have := of_decide_eq_true ended
    omega
  unfold cookieAge?
  rw [if_neg live, if_pos positive]
  obtain ⟨n, hn⟩ := Int.eq_ofNat_of_zero_le (Int.le_of_lt positive)
  rw [hn]
  rfl

/-- The numeral of a number that is not zero is not that of zero. -/
theorem decimal_ne_zero {n : Nat} (positive : 0 < n) : String.ofList (decimal n) ≠ "0" := by
  intro h
  have read := congrArg (fun t => natural? t.toList) h
  simp only [String.toList_ofList, natural?_decimal] at read
  obtain rfl : n = 0 := Option.some.inj read
  exact absurd positive (by decide)

theorem cookieAge?_eq_zero_iff : s.cookieAge? = some "0" ↔ s.maxAge < 0 := by
  refine ⟨fun h => ?_, cookieAge?_of_ended⟩
  rcases Int.lt_trichotomy s.maxAge 0 with ended | zero | positive
  · exact ended
  · rw [cookieAge?_of_zero zero] at h
    cases h
  · rw [cookieAge?_of_positive positive] at h
    exact absurd (Option.some.inj h) (decimal_ne_zero (by omega))

theorem cookieAge?_eq_none_iff : s.cookieAge? = none ↔ s.maxAge = 0 := by
  refine ⟨fun h => ?_, cookieAge?_of_zero⟩
  rcases Int.lt_trichotomy s.maxAge 0 with ended | zero | positive
  · rw [cookieAge?_of_ended ended] at h
    cases h
  · exact zero
  · rw [cookieAge?_of_positive positive] at h
    cases h

/-- The numeral in the cookie of a session that has not ended is that of its lifetime. -/
theorem natural?_of_cookieAge? (live : ¬ s.maxAge < 0) {age : String}
    (h : s.cookieAge? = some age) : natural? age.toList = some s.maxAge.toNat := by
  have positive : 0 < s.maxAge := by
    have other : s.maxAge ≠ 0 := fun zero => by
      rw [cookieAge?_of_zero zero] at h
      cases h
    omega
  rw [cookieAge?_of_positive positive] at h
  cases h
  rw [String.toList_ofList]
  exact natural?_decimal _

/-- The lifetime in the store and the one in the cookie are the same. Saving a session is one
command under its key: a session that has ended is deleted, one with the lifetime zero is stored for
good, and any other one for exactly its lifetime. If the store carries it out, the cookie that is
given has, between its semicolons, the name with a value and then the attributes that apply. The
value is empty and the lifetime zero exactly if the session has ended; otherwise the value stands
for its identifier, and the lifetime is left out exactly if it is zero, and else it is that of the
session. -/
theorem save_lifetime (plain : config.Plain) (s : Session) :
    ∃ text value age?,
      (∀ calls r, (save config s).Ends calls r ↔ ∃ answer command,
        SaveCommand (config.keyPrefix ++ s.id.render) s.values.encode answer s.maxAge command ∧
          calls = [command] ∧ r = answer.map fun _ => text) ∧
      (cookies text).map (fun piece => String.ofList (trim piece)) =
        (config.cookieName ++ "=" ++ value) :: attributes config age? ∧
      cut? '=' (config.cookieName ++ "=" ++ value).toList =
        some (config.cookieName.toList, value.toList) ∧
      (value = "" ↔ s.maxAge < 0) ∧ (age? = some "0" ↔ s.maxAge < 0) ∧
      (age? = none ↔ s.maxAge = 0) ∧
      (¬ s.maxAge < 0 → Uuid.parse? value = some s.id ∧
        ∀ age, age? = some age → natural? age.toList = some s.maxAge.toNat) := by
  refine ⟨cookieText config s, s.cookieValue, s.cookieAge?, fun _ _ => ends_save_iff plain.safe,
    cookies_cookieText plain s, ?_, cookieValue_eq_empty_iff, cookieAge?_eq_zero_iff,
    cookieAge?_eq_none_iff, fun live => ⟨?_, fun _ => natural?_of_cookieAge? live⟩⟩
  · refine cut?_eq_some_iff.2 ⟨?_, plain.noEquals⟩
    simp [String.toList_append]
  · rw [cookieValue_of_live (decide_eq_false live)]
    exact Uuid.parse?_render s.id

/-- A session of one minute is stored for a minute, and its cookie says so. -/
theorem save_lifetime_of_minute :
    let config : Config := { cookieName := "sid", domain := some "example.org" }
    let s : Session := ⟨.ofNat 7, {}, true, 60⟩
    config.Plain ∧ ∃ text,
      (save config s).Ends
        [⟨.storeSession (config.keyPrefix ++ s.id.render) s.values.encode (some 60), .ok ()⟩]
        (.ok text) ∧ (cookies text).length = 6 := by
  intro config s
  have plain : config.Plain :=
    { safe := { name := by decide, path := by decide, domain := by rintro _ ⟨⟩; decide }
      noEquals := by decide
      name := part_of_all (by decide)
      path := part_of_all (by decide)
      domain := by rintro _ ⟨⟩; exact part_of_all (by decide) }
  obtain ⟨text, value, age?, ends, parts, -, -, -, limited, -⟩ := save_lifetime plain s
  refine ⟨plain, text, (ends _ _).2 ⟨.ok (), _, .storeFor (by decide), rfl, rfl⟩, ?_⟩
  cases age? with
  | none => exact absurd (limited.1 rfl) (by decide)
  | some age =>
    have lengths := congrArg List.length parts
    rw [List.length_map] at lengths
    exact lengths

end FederatedLogin.Session
