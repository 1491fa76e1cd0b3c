import FederatedLogin.Json.Shape
import Mathlib.Data.List.Basic

/-!
# Leaves of a shape

A shape has a number of leaves: the scalars that a value of it holds, each with the path that leads
to it (`Shape.leaves`). A shape says as well which fields have to be there (`Shape.required`), where
nothing stands in for what is left out (`Shape.assumesNothing`), and which values are of it
(`Shape.holds`). Facts about all shapes go by `Shape.induction`.
-/

namespace FederatedLogin.Json

/-! ## Shapes and their leaves -/

/-- The value is `null`. -/
def Value.isNull : Value → Bool
  | .null => true
  | _ => false

/-- Only `null` is taken for `null`. -/
theorem Value.isNull_iff {v : Value} : v.isNull = true ↔ v = .null := by
  cases v <;> simp [isNull]

/-- What a value says at the end of a path of names. `null` says nothing. -/
def Value.at? : List String → Value → Option Value
  | [], .null => none
  | [], v => some v
  | name :: path, v => (v.member? name).bind (Value.at? path)

/-- Nothing stands inside of `null`. -/
theorem Value.at?_null (path : List String) : Value.null.at? path = none := by
  cases path <;> rfl

/-- Behind the first name of a path, the path goes on in the member of that name. -/
theorem Value.at?_cons_of_member? {name : String} {v w : Value} (member : v.member? name = some w)
    (path : List String) : v.at? (name :: path) = w.at? path := by
  rw [Value.at?, member]
  rfl

/-- A setting in a value of some shape: the path that leads to it, and its own shape. -/
structure Leaf where
  path : List String
  shape : Shape

mutual

/-- The settings that a value of the shape holds. -/
def Shape.leaves : Shape → List Leaf
  | .nullable inner => inner.leaves
  | .record fields => fieldLeaves fields
  | shape => [⟨[], shape⟩]

/-- The settings that the fields of a record hold. -/
def fieldLeaves : List (List String × Absence × Shape) → List Leaf
  | [] => []
  | (names, _, shape) :: fields =>
    shape.leaves.map (fun leaf => ⟨names.headD "" :: leaf.path, leaf.shape⟩) ++ fieldLeaves fields

end

mutual

/-- The fields that have to be there, each by the path to the record that needs it and its name. -/
def Shape.required : Shape → List (List String × String)
  | .nullable inner => inner.required
  | .record fields => requiredFields fields
  | _ => []

/-- The fields of a record that have to be there, and those inside its fields. -/
def requiredFields : List (List String × Absence × Shape) → List (List String × String)
  | [] => []
  | (names, absence, shape) :: fields =>
    (if absence.value?.isNone then [([], names.headD "")] else [])
      ++ shape.required.map (fun r => (names.headD "" :: r.1, r.2)) ++ requiredFields fields

end

mutual

/-- Each record has fields, and each of them has one name, which no other one has. -/
def Shape.isPlain : Shape → Bool
  | .nullable inner => inner.isPlain
  | .record fields => !fields.isEmpty && arePlain fields
  | _ => true

/-- Each field has one name, which no other one has, and so on inside the fields. -/
def arePlain : List (List String × Absence × Shape) → Bool
  | [] => true
  | (names, _, shape) :: fields =>
    names.length = 1 && fields.all (fun f => f.1.headD "" ≠ names.headD "") && shape.isPlain
      && arePlain fields

end

/-- The fields of a record, which may be `null`. -/
def Shape.fields : Shape → List (List String × Absence × Shape)
  | .nullable inner => inner.fields
  | .record fields => fields
  | _ => []

/-- Nothing stands for what is left out at the end of a path. -/
def Shape.assumesNothing : List String → Shape → Bool
  | [], _ => true
  | name :: path, shape =>
    (shape.fields.find? (·.1.headD "" = name)).all fun f =>
      (f.2.1.value?.bind (·.at? path)).isNone && f.2.2.assumesNothing path

mutual

/-- A value is of the shape, in normal form. -/
def Shape.holds : Shape → Value → Bool
  | .text, v => v.string?.isSome
  | .flag, v => v.bool?.isSome
  | .integer low high, v => v.integer?.any fun n => low ≤ n && n ≤ high
  | .choice names, v => v.string?.any (· ∈ names)
  | .nullable inner, v => v.isNull || inner.holds v
  | .record fields, v => fieldsHold fields v

/-- A value has members for the fields, each of the shape of its field. -/
def fieldsHold : List (List String × Absence × Shape) → Value → Bool
  | [], _ => true
  | (names, _, shape) :: fields, v =>
    (v.member? (names.headD "")).any shape.holds && fieldsHold fields v

end

mutual

/-- What is assumed for a field is of its shape, in every record. -/
def Shape.assumesWell : Shape → Bool
  | .nullable inner => inner.assumesWell
  | .record fields => assumeWell fields
  | _ => true

/-- What is assumed for a field is of its shape, and so on inside the fields. -/
def assumeWell : List (List String × Absence × Shape) → Bool
  | [] => true
  | (_, absence, shape) :: fields =>
    absence.value?.all shape.holds && shape.assumesWell && assumeWell fields

end

/-- The shape is neither that of a record, nor that of something which may be `null`. -/
def Shape.isScalar : Shape → Bool
  | .nullable _ => false
  | .record _ => false
  | _ => true

/-- A shape without parts is its only leaf. -/
theorem Shape.leaves_of_isScalar {shape : Shape} (scalar : shape.isScalar = true) :
    shape.leaves = [⟨[], shape⟩] := by
  cases shape with
  | nullable inner => cases scalar
  | record fields => cases scalar
  | _ => rfl

/-- A shape without parts requires nothing inside of it. -/
theorem Shape.required_of_isScalar {shape : Shape} (scalar : shape.isScalar = true) :
    shape.required = [] := by
  cases shape with
  | nullable inner => cases scalar
  | record fields => cases scalar
  | _ => rfl

/-- What holds of scalars, and of a record if it holds of its fields, holds of every shape. -/
theorem Shape.induction {motive : Shape → Prop}
    (scalar : ∀ shape : Shape, shape.isScalar = true → motive shape)
    (nullable : ∀ inner, motive inner → motive (.nullable inner))
    (record : ∀ fields, (∀ f ∈ fields, motive f.2.2) → motive (.record fields)) :
    ∀ shape, motive shape
  | .nullable inner => nullable inner (induction scalar nullable record inner)
  | .record fields => record fields fun f _ => induction scalar nullable record f.2.2
  | .text => scalar _ rfl
  | .flag => scalar _ rfl
  | .integer _ _ => scalar _ rfl
  | .choice _ => scalar _ rfl
termination_by shape => sizeOf shape
decreasing_by
  · decreasing_tactic
  · next mem =>
    have := List.sizeOf_lt_of_mem mem
    obtain ⟨names, absence, shape⟩ := f
    simp only [Shape.record.sizeOf_spec, Prod.mk.sizeOf_spec] at *
    omega

/-! ## Fields -/

variable {shape : Shape} {fs : List (List String × Absence × Shape)} {v : Value}

/-- The leaves of fields are those of each of them, behind its name. -/
theorem mem_fieldLeaves {leaf : Leaf} : leaf ∈ fieldLeaves fs ↔
    ∃ f ∈ fs, ∃ inner ∈ f.2.2.leaves, ⟨f.1.headD "" :: inner.path, inner.shape⟩ = leaf := by
  induction fs with
  | nil => simp [fieldLeaves]
  | cons f fs ih =>
    simp only [fieldLeaves, List.mem_append, List.mem_map, ih, List.exists_mem_cons_iff]

/-- What fields require is the fields themselves that may not be missing, and what each of them
requires. -/
theorem mem_requiredFields {r : List String × String} : r ∈ requiredFields fs ↔
    ∃ f ∈ fs, (f.2.1.value? = none ∧ ([], f.1.headD "") = r) ∨
      ∃ inner ∈ f.2.2.required, (f.1.headD "" :: inner.1, inner.2) = r := by
  induction fs with
  | nil => exact ⟨nofun, fun ⟨_, mem, _⟩ => nomatch mem⟩
  | cons f fs ih =>
    have here : r ∈ (if f.2.1.value?.isNone then [([], f.1.headD "")] else []) ↔
        f.2.1.value? = none ∧ ([], f.1.headD "") = r := by
      cases f.2.1.value? <;> simp [eq_comm]
    rw [requiredFields, List.mem_append, List.mem_append, here, ih, List.mem_map,
      List.exists_mem_cons_iff]

/-- Fields are plain if each has one name of its own and a plain shape. -/
theorem arePlain_iff : arePlain fs = true ↔
    (∀ f ∈ fs, f.1 = [f.1.headD ""] ∧ f.2.2.isPlain) ∧
      fs.Pairwise fun f g => g.1.headD "" ≠ f.1.headD "" := by
  induction fs with
  | nil => simp [arePlain]
  | cons f fs ih =>
    obtain ⟨names, absence, shape⟩ := f
    have single : names.length = 1 ↔ names = [names.headD ""] := by
      rcases names with _ | ⟨name, _ | ⟨second, rest⟩⟩ <;> simp
    simp only [arePlain, Bool.and_eq_true, decide_eq_true_eq, List.all_eq_true, ih,
      List.forall_mem_cons, List.pairwise_cons, single]
    tauto

/-- The fields of a plain record have plain shapes. -/
theorem isPlain_of_mem (plain : (Shape.record fs).isPlain = true)
    {f : List String × Absence × Shape} (hf : f ∈ fs) : f.2.2.isPlain = true :=
  ((arePlain_iff.1 (Bool.and_eq_true_iff.1 plain).2).1 f hf).2

/-- Where keys are distinct, an item is found under its key. -/
theorem find?_key {α : Type} {key : α → String} {items : List α} {item : α}
    (apart : items.Pairwise fun a b => key b ≠ key a) (mem : item ∈ items) :
    items.find? (key · = key item) = some item := by
  obtain ⟨before, after, rfl⟩ := List.append_of_mem mem
  refine List.find?_eq_some_iff_append.2
    ⟨decide_eq_true rfl, before, after, rfl, fun other earlier => ?_⟩
  have ne := (List.pairwise_append.1 apart).2.2 other earlier item List.mem_cons_self
  rw [decide_eq_false ne.symm, Bool.not_false]

/-- What may be `null` assumes as little as what it may be otherwise. -/
theorem assumesNothing_nullable (inner : Shape) (path : List String) :
    (Shape.nullable inner).assumesNothing path = inner.assumesNothing path := by
  cases path <;> rfl

/-- Nothing is assumed in a record where nothing is assumed for the field, nor inside of it. -/
theorem assumesNothing_record (plain : (Shape.record fs).isPlain = true)
    {f : List String × Absence × Shape} (hf : f ∈ fs) (path : List String) :
    (Shape.record fs).assumesNothing (f.1.headD "" :: path) = true ↔
      f.2.1.value?.bind (·.at? path) = none ∧ f.2.2.assumesNothing path = true := by
  have apart := (arePlain_iff.1 (Bool.and_eq_true_iff.1 plain).2).2
  rw [Shape.assumesNothing, Shape.fields, find?_key apart hf, Option.all_some, Bool.and_eq_true_iff,
    Option.isNone_iff_eq_none]

/-- A plain shape has leaves. -/
theorem leaves_ne_nil (plain : shape.isPlain = true) : shape.leaves ≠ [] := by
  induction shape using Shape.induction with
  | scalar shape scalar =>
    rw [Shape.leaves_of_isScalar scalar]
    exact List.cons_ne_nil _ _
  | nullable inner ih => exact ih plain
  | record fs ih =>
    obtain ⟨f, hf⟩ : ∃ f, f ∈ fs := by
      cases fs with
      | nil => cases plain
      | cons f rest => exact ⟨f, List.mem_cons_self⟩
    obtain ⟨leaf, mem⟩ := List.exists_mem_of_ne_nil _ (ih f hf (isPlain_of_mem plain hf))
    exact List.ne_nil_of_mem (mem_fieldLeaves.2 ⟨f, hf, leaf, mem, rfl⟩)

/-- Leaves are shapes without parts. -/
theorem isScalar_of_mem_leaves {leaf : Leaf} (mem : leaf ∈ shape.leaves) :
    leaf.shape.isScalar = true := by
  induction shape using Shape.induction generalizing leaf with
  | scalar shape scalar =>
    rw [Shape.leaves_of_isScalar scalar] at mem
    cases List.mem_singleton.1 mem
    exact scalar
  | nullable inner ih => exact ih mem
  | record fs ih =>
    obtain ⟨f, hf, inner, mem_inner, rfl⟩ := mem_fieldLeaves.1 mem
    show inner.shape.isScalar = true
    exact ih f hf mem_inner

/-! ## Values of a shape -/

/-- A value has the shape of a record if it has a member for each field, of the shape of the field.
-/
theorem fieldsHold_iff : fieldsHold fs v = true ↔
    ∀ f ∈ fs, ∃ w, v.member? (f.1.headD "") = some w ∧ f.2.2.holds w = true := by
  induction fs with
  | nil => simp [fieldsHold]
  | cons f fs ih =>
    rw [fieldsHold, Bool.and_eq_true_iff, Option.any_eq_true, ih, List.forall_mem_cons]

/-- What fields assume fits if it does for each of them. -/
theorem assumeWell_iff : assumeWell fs = true ↔
    ∀ f ∈ fs, (∀ w, f.2.1.value? = some w → f.2.2.holds w = true) ∧ f.2.2.assumesWell = true := by
  induction fs with
  | nil => simp [assumeWell]
  | cons f fs ih =>
    rw [assumeWell, Bool.and_eq_true_iff, Bool.and_eq_true_iff, Option.all_eq_true, ih,
      List.forall_mem_cons]

theorem holds_text_iff : Shape.text.holds v = true ↔ ∃ s, v = .string s := by
  rw [Shape.holds, Option.isSome_iff_exists]
  simp only [Value.string?_eq_some_iff]

theorem holds_flag_iff : Shape.flag.holds v = true ↔ ∃ b, v = .bool b := by
  rw [Shape.holds, Option.isSome_iff_exists]
  simp only [Value.bool?_eq_some_iff]

/-- The values of a bounded integer are the integers between the bounds. -/
theorem holds_integer_iff {low high : Int} :
    (Shape.integer low high).holds v = true ↔ ∃ n, v = .integer n ∧ low ≤ n ∧ n ≤ high := by
  rw [Shape.holds, Option.any_eq_true]
  simp only [Value.integer?_eq_some_iff, Bool.and_eq_true_iff, decide_eq_true_iff]

/-- The values of a choice are the strings that may be chosen. -/
theorem holds_choice_iff {names : List String} :
    (Shape.choice names).holds v = true ↔ ∃ name, v = .string name ∧ name ∈ names := by
  rw [Shape.holds, Option.any_eq_true]
  simp only [Value.string?_eq_some_iff, decide_eq_true_iff]

/-- What may be `null` is that, or has the shape that it has otherwise. -/
theorem holds_nullable_iff {inner : Shape} :
    (Shape.nullable inner).holds v = true ↔ v = .null ∨ inner.holds v = true := by
  rw [Shape.holds, Bool.or_eq_true_iff, Value.isNull_iff]

/-- The values of an unsigned word are the numbers that fit in it. -/
theorem holds_unsigned_iff {bits : Nat} :
    (Shape.unsigned bits).holds v = true ↔ ∃ n : Nat, v = .integer n ∧ n < twoPow bits := by
  rw [Shape.unsigned, holds_integer_iff]
  constructor
  · rintro ⟨n, rfl, nonneg, bound⟩
    obtain ⟨n, rfl⟩ := Int.eq_ofNat_of_zero_le nonneg
    exact ⟨n, rfl, by omega⟩
  · rintro ⟨n, rfl, bound⟩
    exact ⟨n, rfl, by omega, by omega⟩

/-- What may be `null` or a string is an optional string. -/
theorem holds_nullable_text_iff :
    (Shape.nullable .text).holds v = true ↔ ∃ s, v = .ofOption s := by
  rw [holds_nullable_iff, holds_text_iff]
  constructor
  · rintro (rfl | ⟨s, rfl⟩)
    · exact ⟨none, rfl⟩
    · exact ⟨some s, rfl⟩
  · rintro ⟨s, rfl⟩
    cases s with
    | none => exact .inl rfl
    | some s => exact .inr ⟨s, rfl⟩

end FederatedLogin.Json
