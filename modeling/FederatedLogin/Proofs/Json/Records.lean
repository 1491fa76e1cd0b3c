import FederatedLogin.Json.Shape
import FederatedLogin.Proofs.Json.Written

/-!
# Written records

A record is read back from the object of its fields, in order and each as it is written
(`readRecord_text`), if every field is (`Takes`) and no two fields share a name (`Filled`). A member
fills the slot of its field (`readSlot_text`), and so all members fill all slots
(`readMoreSlots_text`). A record that is read needs nothing to stand in for a field
(`completed?_slots`).
-/

namespace FederatedLogin.Json

variable {v : Value} {rest : List Char}

/-! ## Fields -/

/-- The reader takes the value, as it is written, off the front of every text that goes on behind
it. -/
def Takes (r : Reader Value) (v : Value) : Prop :=
  ∀ ⦃rest⦄, Delimited rest → r (v.text ++ rest) = .ok (v, rest)

theorem valueText_bool (depth : Nat) (b : Bool) :
    ValueText true depth (.bool b) (Value.bool b).text := by
  obtain ⟨inner, node⟩ := ValueText.eq_node true depth
  rw [node]
  cases b with
  | true => exact .yes
  | false => exact .no

/-- A scalar is read, if it begins as it has to. -/
theorem takes_scalar {expected : Char → Bool} (h : ValueText true 0 v v.text)
    (starts : ∀ c ∈ v.text.head?, expected c = true) :
    Takes (readScalar expected fun _ => true) v := by
  intro rest ends
  have read : readValue .keep 0 (v.text ++ rest) = .ok (v, rest) :=
    (follows_value (fun _ => Nat.le_refl 0) space_nil h ends).eq_ok
  obtain ⟨c, cs, text, notSpace, -⟩ := head_value h
  rw [text] at starts read ⊢
  rw [List.cons_append] at read ⊢
  unfold readScalar
  rw [skipSpace_cons notSpace]
  dsimp only
  rw [if_pos (starts c rfl), read]
  rfl

theorem takes_text (s : String) : Takes Shape.text.read (.string s) := by
  refine takes_scalar (valueText_string 0 s) ?_
  rintro _ ⟨⟩
  rfl

theorem takes_flag (b : Bool) : Takes Shape.flag.read (.bool b) := by
  refine takes_scalar (valueText_bool 0 b) ?_
  cases b <;> (rintro _ ⟨⟩; rfl)

theorem takes_nullable (s : Option String) :
    Takes (Shape.nullable .text).read (.ofOption s) := by
  intro rest ends
  cases s with
  | none => rfl
  | some s => exact takes_text s ends

/-! ## Slots -/

/-- Fields with values that are read by them. Every field has a name of its own. -/
structure Filled (ps : List (FieldReader × Value)) : Prop where
  takes : ∀ p ∈ ps, Takes p.1.read p.2
  named : ∀ p ∈ ps, p.1.names = [p.1.name]
  distinct : (ps.map fun p => p.1.name).Nodup

/-- A field with its value as a member of an object. -/
def entry (p : FieldReader × Value) : String × Value := (p.1.name, p.2)

/-- The slots of the fields when the first ones have been read. -/
def slots (done left : List (FieldReader × Value)) : List (Option Value) :=
  done.map (fun p => some p.2) ++ left.map fun _ => none

variable {done left : List (FieldReader × Value)} {p : FieldReader × Value}

/-- A field is found by its name. -/
theorem fieldIndex?_name (h : Filled (done ++ p :: left)) :
    fieldIndex? ((done ++ p :: left).map Prod.fst) p.1.name = some done.length := by
  have others : (done.map Prod.fst).findIdx? (fun f => f.names.contains p.1.name) = none := by
    rw [List.findIdx?_eq_none_iff]
    intro f hf
    obtain ⟨q, hq, rfl⟩ := List.mem_map.1 hf
    have distinct := h.distinct
    rw [List.map_append, List.map_cons, List.nodup_append] at distinct
    have other : p.1.name ≠ q.1.name := fun same =>
      distinct.2.2 _ (List.mem_map_of_mem hq) _ List.mem_cons_self same.symm
    rw [h.named q (List.mem_append_left _ hq)]
    simp [other]
  have own : p.1.names.contains p.1.name = true := by
    rw [h.named p (List.mem_append_right _ List.mem_cons_self)]
    simp
  unfold fieldIndex?
  rw [List.map_append, List.map_cons, List.findIdx?_append, others, List.findIdx?_cons, own,
    List.length_map]
  simp

/-- A member is read into the slot of its field. -/
theorem readSlot_text (done : List (FieldReader × Value)) (h : Filled (done ++ p :: left))
    (ends : Delimited rest) :
    readSlot ((done ++ p :: left).map Prod.fst) (slots done (p :: left))
      (memberText (entry p) ++ rest) = .ok (slots (done ++ [p]) left, rest) := by
  have text : memberText (entry p) ++ rest
      = '"' :: (p.1.name.toList.flatMap escape ++ '"' :: ':' :: (p.2.text ++ rest)) := by
    simp [memberText, entry, quote]
  have name := readString_text (charactersText_escape p.1.name.toList) (':' :: (p.2.text ++ rest))
  have colon : readColon (':' :: (p.2.text ++ rest)) = .ok ((), p.2.text ++ rest) :=
    readColon_text space_nil _
  have empty : (slots done (p :: left))[done.length]? = some none := by
    unfold slots
    rw [List.getElem?_append_right (by simp), List.length_map, Nat.sub_self]
    rfl
  have field : ((done ++ p :: left).map Prod.fst)[done.length]? = some p.1 := by
    rw [List.map_append, List.getElem?_append_right (by simp), List.length_map, Nat.sub_self]
    rfl
  have filled : (slots done (p :: left)).set done.length (some p.2) = slots (done ++ [p]) left := by
    unfold slots
    rw [List.set_append_right _ _ (by simp), List.length_map, Nat.sub_self]
    simp
  have value := h.takes p (List.mem_append_right _ List.mem_cons_self) ends
  rw [text]
  unfold readSlot
  rw [skipSpace_cons (by decide)]
  dsimp only
  simp only [name, fieldIndex?_name h, empty, field, colon, value, filled, bind, Except.bind,
    Option.getD_some, Option.isSome_none, Bool.false_eq_true, if_false]

/-- What is left of an object behind its first member. -/
def moreMembers (ps : List (FieldReader × Value)) : List Char :=
  (ps.map entry).flatMap fun m => ',' :: memberText m

theorem moreMembers_nil : moreMembers [] = [] := rfl

theorem moreMembers_cons (p : FieldReader × Value) (ps : List (FieldReader × Value)) :
    moreMembers (p :: ps) = ',' :: memberText (entry p) ++ moreMembers ps := rfl

theorem length_le_moreMembers (ps : List (FieldReader × Value)) :
    ps.length ≤ (moreMembers ps).length := by
  induction ps with
  | nil => exact Nat.le_refl 0
  | cons p ps ih =>
    rw [moreMembers_cons, List.length_append, List.length_cons, List.length_cons]
    omega

theorem delimited_moreMembers (ps : List (FieldReader × Value)) (rest : List Char) :
    Delimited (moreMembers ps ++ '\x7d' :: rest) := by
  cases ps with
  | nil => exact .cons (by simp) _
  | cons p ps => exact .cons (by simp) _

/-- The members that are left fill the slots that are left. -/
theorem readMoreSlots_text (done : List (FieldReader × Value)) (h : Filled (done ++ left))
    (extra : Nat) (rest : List Char) :
    readMoreSlots ((done ++ left).map Prod.fst) (left.length + 1 + extra) (slots done left)
      (moreMembers left ++ '\x7d' :: rest) = .ok (slots (done ++ left) [], rest) := by
  induction left generalizing done with
  | nil =>
    have bound : ([] : List (FieldReader × Value)).length + 1 + extra = extra + 1 :=
      Nat.add_comm 1 extra
    rw [bound, List.append_nil]
    unfold readMoreSlots
    rw [moreMembers_nil, List.nil_append, skipSpace_cons (by decide)]
    rfl
  | cons p left ih =>
    have bound : (p :: left).length + 1 + extra = left.length + 1 + extra + 1 := by
      rw [List.length_cons]
      omega
    have more : Filled ((done ++ [p]) ++ left) := by
      rwa [List.append_assoc, List.singleton_append]
    have next := ih (done ++ [p]) more
    rw [List.append_assoc, List.singleton_append] at next
    rw [bound, moreMembers_cons, List.append_assoc, List.cons_append]
    unfold readMoreSlots
    rw [skipSpace_cons (by decide)]
    simp only [readSlot_text done h (delimited_moreMembers left rest), bind, Except.bind]
    exact next

/-- The values found make the record. -/
theorem completed?_slots (ps : List (FieldReader × Value)) :
    completed? (ps.map Prod.fst) (slots ps []) = some (ps.map entry) := by
  induction ps with
  | nil => rfl
  | cons p ps ih =>
    rw [slots, List.map_nil, List.append_nil] at ih ⊢
    simp only [List.map_cons, completed?, List.headD_cons, List.tail_cons, ih]
    rfl

/-! ## Records -/

theorem readSlots_text {ps : List (FieldReader × Value)} (h : Filled ps) (rest : List Char) :
    readSlots (ps.map Prod.fst) (membersText (ps.map entry) ++ '\x7d' :: rest)
      = .ok (slots ps [], rest) := by
  have empty : (ps.map Prod.fst).map (fun _ => (none : Option Value)) = slots [] ps := by
    unfold slots
    rw [List.map_map]
    rfl
  unfold readSlots
  rw [empty]
  cases ps with
  | nil => rfl
  | cons p ps =>
    obtain ⟨extra, bound⟩ : ∃ extra, (moreMembers ps ++ '\x7d' :: rest).length + 1
        = ps.length + 1 + extra := by
      have le := length_le_moreMembers ps
      refine ⟨(moreMembers ps ++ '\x7d' :: rest).length - ps.length, ?_⟩
      rw [List.length_append]
      omega
    have first := readSlot_text [] h (delimited_moreMembers ps rest)
    have others := readMoreSlots_text [p] h extra rest
    obtain ⟨cs, quoted⟩ : ∃ cs, memberText (entry p) ++ (moreMembers ps ++ '\x7d' :: rest)
        = '"' :: cs := ⟨_, rfl⟩
    have whole : membersText ((p :: ps).map entry) ++ '\x7d' :: rest = '"' :: cs := by
      rw [← quoted, List.map_cons, membersText_cons, List.append_assoc]
      rfl
    rw [List.nil_append, quoted] at first
    rw [← bound] at others
    rw [whole, skipSpace_cons (by decide)]
    split
    · next h => exact absurd (List.cons.inj h).1 (by decide)
    · dsimp only
      rw [first]
      exact others

/-- A record is read from the object of its fields. -/
theorem takes_record {ps : List (FieldReader × Value)} (h : Filled ps) :
    Takes (readRecord (ps.map Prod.fst)) (.object (ps.map entry)) := by
  intro rest ends
  have text : (Value.object (ps.map entry)).text ++ rest
      = '\x7b' :: (membersText (ps.map entry) ++ '\x7d' :: rest) := by
    simp [Value.text]
  rw [text]
  unfold readRecord
  rw [skipSpace_cons (by decide)]
  simp only [readSlots_text h, completed?_slots, bind, Except.bind]

/-- A text that is one value is read as it. -/
theorem readAll_render {r : Reader Value} (h : Takes r v) : readAll r v.render = .ok v := by
  have ends : Delimited [] := nofun
  have read := h ends
  rw [List.append_nil] at read
  unfold readAll Value.render
  rw [String.toList_ofList, read]
  rfl

end FederatedLogin.Json
