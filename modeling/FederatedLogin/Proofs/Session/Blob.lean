import FederatedLogin.Proofs.Json.Written
import FederatedLogin.Session.Values

/-!
# The members of a stored blob

A blob is read by the names of its members (`decode?_by_name`). Which members an object text has is
said by a grammar (`BlobText`) that lets the members with a known name have any JSON value, while
the values of all others have to be readable. What is read from them is `Stored`: one member `v`
with the version, and each of the fields at most once. The key is that a value which the grammar of
kept texts refuses is neither `null` nor a string, so that it never is the value of a field
(`parse_of_plain`, `eq_object_of_parse`).
-/

namespace FederatedLogin.Session.Values

open Json

/-! ## Object texts -/

/-- The names of the members that are looked at. -/
def knownNames : List String := ["v", "user_id", "issuer", "access_token"]

/-- The member is looked at. -/
def isKnown (m : String × Value) : Bool := m.1 ∈ knownNames

/-- How the value of a member may be written: as any JSON if the member is looked at, and else as
JSON that may be kept. -/
def MemberValueText (name : String) : Grammar Value := fun v cs =>
  if name ∈ knownNames then ∃ depth, ValueText false depth v cs
  else ValueText true (maxDepth - 1) v cs

/-- The blob is the text of an object with the members in their order. -/
def BlobText (members : List (String × Value)) (blob : String) : Prop :=
  Padded (ObjectText MemberValueText) members blob.toList

variable {members members' : List (String × Value)} {blob name : String} {value v w : Value}

/-- The text of a blob is read by any grammar that allows its members. -/
theorem BlobText.map {g : Grammar Value} (written : BlobText members blob)
    (h : ∀ cs, ObjectText MemberValueText members cs → g (.object members) cs) :
    Padded g (.object members) blob.toList := by
  unfold BlobText at written
  generalize blob.toList = cs at written
  obtain ⟨before, object, after⟩ := written
  exact .intro before (h _ object) after

/-- The value of a member is read as it may be written. -/
theorem follows_memberValue (name : String) :
    Follows false (readValue .keep (maxDepth - 1)) (MemberValueText name) := by
  intro v space text rest hs h ends
  unfold MemberValueText at h
  split at h
  · obtain ⟨depth, h⟩ := h
    have loose : Follows false (readValue .keep (maxDepth - 1)) (ValueText false depth) :=
      follows_value nofun
    exact loose hs h ends
  · have strict : Follows true (readValue .keep (maxDepth - 1)) (ValueText true (maxDepth - 1)) :=
      follows_value fun _ => Nat.le_refl _
    exact strict.weaken hs h ends

/-- If the text of an object is read, it is read as the object. -/
theorem eq_object_of_parse (written : BlobText members blob) (read : parse blob = .ok v) :
    v = .object members := by
  have follows : Follows false (readValue .keep maxDepth) fun (v : Value) cs =>
      ∃ ms, v = .object ms ∧ ObjectText MemberValueText ms cs := by
    rintro _ space text rest hs ⟨ms, rfl, h⟩ -
    show Yields false (readNode .keep (some (readValue .keep (maxDepth - 1))) _) _
    rw [readNode_append hs]
    exact yields_object follows_memberValue h rest
  exact (yields_readAll follows (written.map fun cs h => ⟨members, rfl, h⟩)).unique read

/-- If the known members are `null` or strings, the text of an object is read. -/
theorem parse_of_plain (written : BlobText members blob)
    (plain : ∀ m ∈ members, isKnown m = true → m.2 = .null ∨ ∃ s, m.2 = .string s) :
    parse blob = .ok (.object members) := by
  refine parse_eq_ok_iff.2 (written.map fun cs h => ?_)
  refine NodeText.object rfl (h.mono fun m hm cs hv => ?_)
  unfold MemberValueText at hv
  split at hv
  · next known =>
    obtain ⟨depth, hv⟩ := hv
    exact hv.of_plain (plain m hm (decide_eq_true known)) _
  · exact hv

/-- The text of an object alone is a blob. -/
theorem blobText_of_object {cs : List Char} (h : ObjectText MemberValueText members cs)
    (whole : blob.toList = cs) : BlobText members blob := by
  have padded := Padded.intro space_nil h space_nil
  rw [List.nil_append, List.append_nil, ← whole] at padded
  exact padded

/-- Every value may be one that may be kept. -/
theorem memberValueText_of_kept {cs : List Char} (h : ValueText true (maxDepth - 1) v cs) :
    MemberValueText name v cs := by
  unfold MemberValueText
  split
  · exact ⟨_, h.loosen⟩
  · exact h

/-! ## Members by name -/

/-- One member has the name, and it has the value. -/
def Only (name : String) (value : Value) (members : List (String × Value)) : Prop :=
  ∃ before after, members = before ++ (name, value) :: after ∧ ∀ m ∈ before ++ after, m.1 ≠ name

/-- What the members say about a field. It is left out, it is `null`, or it is a string with a
meaning. -/
inductive Field {α : Type} (Means : α → String → Prop) (name : String)
    (members : List (String × Value)) : Option α → Prop where
  | absent (h : ∀ m ∈ members, m.1 ≠ name) : Field Means name members none
  | null (h : Only name .null members) : Field Means name members none
  | text {a : α} {s : String} (h : Only name (.string s) members) (means : Means a s) :
      Field Means name members (some a)

/-- The members are a stored form of the values. -/
structure Stored (members : List (String × Value)) (v : Values) : Prop where
  version : Only "v" (.string "1") members
  userId : Field (fun id s => id.Spelling s.toList) "user_id" members v.userId
  issuer : Field Eq "issuer" members v.issuer
  accessToken : Field Eq "access_token" members v.accessToken

/-- A name without values is the name of no member. -/
theorem valuesOf_eq_nil_iff : valuesOf name members = [] ↔ ∀ m ∈ members, m.1 ≠ name := by
  simp [valuesOf, List.filter_eq_nil_iff]

/-- The values of a name are those before a member of the name, its own, and those behind it. -/
theorem valuesOf_append_cons (name : String) (before after : List (String × Value)) (v : Value) :
    valuesOf name (before ++ (name, v) :: after) =
      valuesOf name before ++ v :: valuesOf name after := by
  simp [valuesOf]

/-- A name has one value just if one member has it. -/
theorem valuesOf_eq_singleton_iff : valuesOf name members = [value] ↔ Only name value members := by
  constructor
  · intro h
    obtain ⟨⟨name', value'⟩, filtered, rfl⟩ := List.map_eq_singleton_iff.1 h
    obtain ⟨before, after, rfl, others, named, rest⟩ := List.filter_eq_cons_iff.1 filtered
    cases of_decide_eq_true named
    refine ⟨before, after, rfl, fun m hm same => ?_⟩
    rcases List.mem_append.1 hm with hm | hm
    · exact others m hm (decide_eq_true same)
    · exact List.filter_eq_nil_iff.1 rest m hm (decide_eq_true same)
  · rintro ⟨before, after, rfl, others⟩
    rw [valuesOf_append_cons,
      valuesOf_eq_nil_iff.2 fun m hm => others m (List.mem_append_left after hm),
      valuesOf_eq_nil_iff.2 fun m hm => others m (List.mem_append_right before hm)]
    rfl

/-- Members with the same name have one value. -/
theorem Only.eq_of_mem (only : Only name value members) {m : String × Value} (hm : m ∈ members)
    (named : m.1 = name) : m.2 = value := by
  have mem : m.2 ∈ valuesOf name members :=
    List.mem_map.2 ⟨m, List.mem_filter.2 ⟨hm, decide_eq_true named⟩, rfl⟩
  rw [valuesOf_eq_singleton_iff.2 only] at mem
  exact List.mem_singleton.1 mem

/-- The value of a field is `null` or a string. -/
theorem Field.plain {α : Type} {Means : α → String → Prop} {a : Option α}
    (field : Field Means name members a) {m : String × Value} (hm : m ∈ members)
    (named : m.1 = name) : m.2 = .null ∨ ∃ s, m.2 = .string s := by
  cases field with
  | absent h => exact absurd named (h m hm)
  | null h => exact Or.inl (h.eq_of_mem hm named)
  | text h _ => exact Or.inr ⟨_, h.eq_of_mem hm named⟩

/-- In a stored form, the members that are looked at are strings or `null`. -/
theorem Stored.plain {v : Values} (stored : Stored members v) {m : String × Value}
    (hm : m ∈ members) (known : isKnown m = true) : m.2 = .null ∨ ∃ s, m.2 = .string s := by
  have names := of_decide_eq_true known
  simp only [knownNames, List.mem_cons, List.not_mem_nil, or_false] at names
  rcases names with named | named | named | named
  · exact Or.inr ⟨_, stored.version.eq_of_mem hm named⟩
  · exact stored.userId.plain hm named
  · exact stored.issuer.plain hm named
  · exact stored.accessToken.plain hm named

/-! ## Reading the members -/

/-- A field is read off the members if its value is read as `null` or by its meaning. -/
theorem bind_optional?_eq_some_iff {α : Type} {Means : α → String → Prop}
    {read : Value → Option (Option α)} (null : read .null = some none)
    (string : ∀ s a, read (.string s) = some a ↔ ∃ b, a = some b ∧ Means b s)
    (other : ∀ v a, read v = some a → v = .null ∨ ∃ s, v = .string s) {a : Option α} :
    (∃ v, optional? name members = some v ∧ read v = some a) ↔ Field Means name members a := by
  unfold optional?
  constructor
  · rintro ⟨v, found, value⟩
    split at found
    · next nothing =>
      cases found
      rw [null] at value
      cases value
      exact .absent (valuesOf_eq_nil_iff.1 nothing)
    · next one =>
      cases found
      have only := valuesOf_eq_singleton_iff.1 one
      rcases other v a value with rfl | ⟨s, rfl⟩
      · rw [null] at value
        cases value
        exact .null only
      · obtain ⟨b, rfl, means⟩ := (string s a).1 value
        exact .text only means
    · cases found
  · intro field
    cases field with
    | absent h => exact ⟨.null, by rw [valuesOf_eq_nil_iff.2 h], null⟩
    | null h => exact ⟨.null, by rw [valuesOf_eq_singleton_iff.2 h], null⟩
    | @text b s h means =>
      exact ⟨.string s, by rw [valuesOf_eq_singleton_iff.2 h], (string s _).2 ⟨b, rfl, means⟩⟩

/-- A string is taken for an identifier just if it spells one. -/
theorem uuid?_string (s : String) (a : Option Uuid) :
    uuid? (.string s) = some a ↔ ∃ id, a = some id ∧ id.Spelling s.toList := by
  unfold uuid?
  rw [Option.map_eq_some_iff]
  constructor
  · rintro ⟨id, read, rfl⟩
    exact ⟨id, rfl, Uuid.read?_eq_some_iff.1 read⟩
  · rintro ⟨id, rfl, spelling⟩
    exact ⟨id, Uuid.read?_eq_some_iff.2 spelling, rfl⟩

/-- What is taken for an optional identifier is a string or `null`. -/
theorem plain_of_uuid? (v : Value) (a : Option Uuid) (h : uuid? v = some a) :
    v = .null ∨ ∃ s, v = .string s := by
  cases v with
  | null => exact Or.inl rfl
  | string s => exact Or.inr ⟨s, rfl⟩
  | _ => cases h

/-- What is taken for an optional string is a string or `null`. -/
theorem plain_of_optionalString? (v : Value) (a : Option String)
    (h : v.optionalString? = some a) : v = .null ∨ ∃ s, v = .string s := by
  cases v with
  | null => exact Or.inl rfl
  | string s => exact Or.inr ⟨s, rfl⟩
  | _ => cases h

/-- The identifier of the user is read just if the members say so. -/
theorem field_userId_iff {id : Option Uuid} :
    (∃ v, optional? "user_id" members = some v ∧ uuid? v = some id) ↔
      Field (fun id s => id.Spelling s.toList) "user_id" members id :=
  bind_optional?_eq_some_iff rfl uuid?_string plain_of_uuid?

/-- An optional string is read just if the members say so. -/
theorem field_text_iff {s : Option String} :
    (∃ v, optional? name members = some v ∧ v.optionalString? = some s) ↔
      Field Eq name members s := by
  refine bind_optional?_eq_some_iff rfl (fun s a => ?_) plain_of_optionalString?
  constructor
  · rintro ⟨⟩
    exact ⟨s, rfl, rfl⟩
  · rintro ⟨_, rfl, rfl⟩
    rfl

/-- The fields of the members are read exactly if each of them says its value. -/
theorem ofMembers?_eq_some_iff {v : Values} :
    ofMembers? members = some v ↔
      Field (fun id s => id.Spelling s.toList) "user_id" members v.userId ∧
        Field Eq "issuer" members v.issuer ∧ Field Eq "access_token" members v.accessToken := by
  rw [← field_userId_iff, ← field_text_iff, ← field_text_iff]
  unfold ofMembers? ofFields?
  simp only [bind, Option.bind_eq_some_iff]
  constructor
  · rintro ⟨a, ha, b, hb, c, hc, id, hid, s, hs, s', hs', whole⟩
    cases whole
    exact ⟨⟨a, ha, hid⟩, ⟨b, hb, hs⟩, c, hc, hs'⟩
  · rintro ⟨⟨a, ha, hid⟩, ⟨b, hb, hs⟩, c, hc, hs'⟩
    exact ⟨a, ha, b, hb, c, hc, _, hid, _, hs, _, hs', rfl⟩

/-- An object is read as values exactly if its members are a stored form of them. -/
theorem ofStored?_object_iff {v : Values} :
    ofStored? (.object members) = some v ↔ Stored members v := by
  unfold ofStored?
  constructor
  · intro h
    dsimp only at h
    split at h
    · next s one =>
      split at h
      · next same =>
        cases same
        obtain ⟨userId, issuer, accessToken⟩ := ofMembers?_eq_some_iff.1 h
        exact ⟨valuesOf_eq_singleton_iff.1 one, userId, issuer, accessToken⟩
      · cases h
    · cases h
  · rintro ⟨only, userId, issuer, accessToken⟩
    dsimp only
    rw [valuesOf_eq_singleton_iff.2 only]
    exact ofMembers?_eq_some_iff.2 ⟨userId, issuer, accessToken⟩

/-! ## Reading a blob by names -/

/-- A blob is decoded to values just if its members are a stored form of them. -/
theorem decode?_eq_some_iff {v : Values} (written : BlobText members blob) :
    decode? blob = some v ↔ Stored members v := by
  unfold decode?
  constructor
  · intro h
    obtain ⟨w, read, h⟩ := Option.bind_eq_some_iff.1 h
    cases parsed : parse blob with
    | error fault =>
      rw [parsed] at read
      cases read
    | ok w' =>
      rw [parsed] at read
      cases read
      cases eq_object_of_parse written parsed
      exact ofStored?_object_iff.1 h
  · intro stored
    rw [parse_of_plain written fun m hm known => stored.plain hm known]
    exact ofStored?_object_iff.2 stored

/-- The other members do not change the values of a name that is looked at. -/
theorem valuesOf_filter_isKnown (known : name ∈ knownNames) :
    valuesOf name (members.filter isKnown) = valuesOf name members := by
  unfold valuesOf
  rw [List.filter_filter]
  congr 2
  funext m
  by_cases named : m.1 = name
  · simp [named, isKnown, known]
  · simp [named]

/-- Only the known members matter, in whatever order they come. -/
theorem valuesOf_of_perm (same : (members.filter isKnown).Perm (members'.filter isKnown))
    (known : name ∈ knownNames) : (valuesOf name members).Perm (valuesOf name members') := by
  have all (ms : List (String × Value)) : valuesOf name (ms.filter isKnown) = valuesOf name ms :=
    valuesOf_filter_isKnown known
  rw [← all members, ← all members']
  exact (same.filter _).map _

/-- Neither the order nor the other members matter to which member has a name. -/
theorem Only.perm (same : (members.filter isKnown).Perm (members'.filter isKnown))
    (known : name ∈ knownNames) (only : Only name value members) : Only name value members' := by
  have values := valuesOf_of_perm same known
  rw [valuesOf_eq_singleton_iff.2 only] at values
  exact valuesOf_eq_singleton_iff.1 (List.singleton_perm.1 values).symm

/-- Neither the order nor the other members matter to what the members say about a field. -/
theorem Field.perm {α : Type} {Means : α → String → Prop} {a : Option α}
    (same : (members.filter isKnown).Perm (members'.filter isKnown)) (known : name ∈ knownNames)
    (field : Field Means name members a) : Field Means name members' a := by
  cases field with
  | absent h =>
    have values := valuesOf_of_perm same known
    rw [valuesOf_eq_nil_iff.2 h] at values
    exact .absent (valuesOf_eq_nil_iff.1 (List.nil_perm.1 values))
  | null h => exact .null (h.perm same known)
  | text h means => exact .text (h.perm same known) means

/-- Neither the order nor the other members matter to whether members are a stored form. -/
theorem Stored.perm {v : Values} (same : (members.filter isKnown).Perm (members'.filter isKnown))
    (stored : Stored members v) : Stored members' v where
  version := stored.version.perm same (by decide)
  userId := stored.userId.perm same (by decide)
  issuer := stored.issuer.perm same (by decide)
  accessToken := stored.accessToken.perm same (by decide)

/-- A blob is read by the names of its members. Reading the text of any object gives values exactly
if one member `v` is the version and no field comes twice or is anything but `null` or a string
with a meaning, and it gives what the fields mean. So neither the order of the members nor those
with other names matter, and what is not of the version is refused. -/
theorem decode?_by_name (written : BlobText members blob) :
    (∀ v, decode? blob = some v ↔ Stored members v) ∧
      (∀ members' blob', BlobText members' blob' →
        (members.filter isKnown).Perm (members'.filter isKnown) →
          decode? blob' = decode? blob) ∧
      (¬ Only "v" (.string "1") members → decode? blob = none) := by
  refine ⟨fun v => decode?_eq_some_iff written, fun members' blob' written' same => ?_,
    fun refused => ?_⟩
  · refine Option.ext fun v => ?_
    rw [decode?_eq_some_iff written, decode?_eq_some_iff written']
    exact ⟨Stored.perm same.symm, Stored.perm same⟩
  · rw [Option.eq_none_iff_forall_ne_some]
    intro v h
    exact refused ((decode?_eq_some_iff written).1 h).version

/-- The version may be written with an escape, and stand behind a member that is not known. -/
theorem decode?_by_name_of_reordered :
    let blob := "\x7b\"issuer\":\"x\",\"n\":[],\"\\u0076\":\"1\"\x7d"
    BlobText [("issuer", .string "x"), ("n", .array []), ("v", .string "1")] blob ∧
      decode? blob = some ⟨none, some "x", none⟩ ∧
      decode? "\x7b\"v\": \"1\",\"issuer\":\"x\"\x7d" = decode? blob ∧
      decode? "\x7b\"v\":\"2\"\x7d" = none := by
  intro blob
  have text (name s : String) :
      MemberText MemberValueText (name, .string s) (memberText (name, .string s)) :=
    memberText_text (memberValueText_of_kept (valueText_string _ s))
  have array : MemberText MemberValueText ("n", .array []) (memberText ("n", .array [])) :=
    memberText_text (memberValueText_of_kept (.array rfl (.nil space_nil)))
  have value : MemberValueText "v" (.string "1") (Value.string "1").text :=
    memberValueText_of_kept (valueText_string _ "1")
  have unit : UnitText 'v'.toNat ['0', '0', '7', '6'] := ⟨by decide, by decide⟩
  have chars : CharactersText ['v'] ['\\', 'u', '0', '0', '7', '6'] := .cons (.unit unit) .nil
  have escaped : StringText "v" ['"', '\\', 'u', '0', '0', '7', '6', '"'] :=
    .quoted (s := "v") chars
  have space : Space [' '] := List.all_eq_true.1 (by decide)
  have written : BlobText [("issuer", .string "x"), ("n", .array []), ("v", .string "1")] blob :=
    blobText_of_object
      (.intro (.cons space_nil (text "issuer" "x") (.cons space_nil space_nil array
        (.cons space_nil space_nil (.intro escaped space_nil space_nil value) (.nil space_nil)))))
      (by decide +kernel)
  have written' : BlobText [("v", .string "1"), ("issuer", .string "x")]
      "\x7b\"v\": \"1\",\"issuer\":\"x\"\x7d" :=
    blobText_of_object
      (.intro (.cons space_nil (.intro (stringText_quote "v") space_nil space value)
        (.cons space_nil space_nil (text "issuer" "x") (.nil space_nil)))) (by decide +kernel)
  have later : BlobText [("v", .string "2")] "\x7b\"v\":\"2\"\x7d" :=
    blobText_of_object (.intro (.cons space_nil (text "v" "2") (.nil space_nil)))
      (by decide +kernel)
  obtain ⟨values, reordered, -⟩ := decode?_by_name written
  obtain ⟨-, -, refused⟩ := decode?_by_name later
  refine ⟨written, (values _).2 ?_, reordered _ _ written' (.swap _ _ _), refused fun only => ?_⟩
  · exact
      { version := valuesOf_eq_singleton_iff.1 rfl
        userId := .absent (valuesOf_eq_nil_iff.1 rfl)
        issuer := .text (valuesOf_eq_singleton_iff.1 rfl) rfl
        accessToken := .absent (valuesOf_eq_nil_iff.1 rfl) }
  · have same := only.eq_of_mem (m := ("v", .string "2")) List.mem_cons_self rfl
    exact absurd (Value.string.inj same) (by decide)

end FederatedLogin.Session.Values
