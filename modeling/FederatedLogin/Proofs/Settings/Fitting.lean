import FederatedLogin.Proofs.Json.Leaves
import FederatedLogin.Proofs.Json.Tokens
import FederatedLogin.Proofs.Settings.Layers
import FederatedLogin.Settings.Fit
import Mathlib.Data.List.Find

/-!
# Reading settings off entries

A record is read off a table field by field (`member?_of_fitRecord`, `fitRecord_of_gets`). So a
value that is read off an entry holds at each leaf of its shape what the entry says there, and
nothing where the entry says nothing, unless something is assumed (`at?_fit`). A value is read
whenever what the entry says at each leaf is of the shape of the leaf, and no table of the entry
lacks a field that has to be there (`fit_of_leaves`); the converse is `leaves_of_fit` and
`required_of_fit`.

All this needs that each field of a record has one name, which no other field has
(`Json.Shape.isPlain`).
-/

namespace FederatedLogin.Settings

open Json

/-! ## Records -/

variable {fields : List FieldFit} {members : List (String × Entry)} {v : Value}

/-- Each of the fields has one name, which no other one has. -/
structure Distinct (fields : List FieldFit) : Prop where
  single : ∀ f ∈ fields, f.names = [f.name]
  apart : fields.Pairwise fun f g => g.name ≠ f.name

/-- What a field gets from a table: what the table says under its name, or else what its absence
means. -/
def FieldFit.Gets (f : FieldFit) (members : List (String × Entry)) (w : Value) : Prop :=
  match members.lookup f.name with
  | some e => f.fit e = .ok w
  | none => f.absence.value? = some w

theorem mapError_eq_ok_iff {α : Type} {x : Fitted α} {f : Fault → Fault} {a : α} :
    x.mapError f = .ok a ↔ x = .ok a := by
  cases x <;> simp [Except.mapError]

theorem Distinct.contains_iff (distinct : Distinct fields) {f : FieldFit} (hf : f ∈ fields)
    (name : String) : f.names.contains name = true ↔ f.name = name := by
  rw [distinct.single f hf, List.contains_iff_mem, List.mem_singleton, eq_comm]

theorem Distinct.find?_contains (distinct : Distinct fields) {f : FieldFit} (hf : f ∈ fields) :
    fields.find? (·.names.contains f.name) = some f := by
  rw [← find?_key distinct.apart hf]
  refine List.find?_congr fun g hg => ?_
  rw [Bool.eq_iff_iff, distinct.contains_iff hg, decide_eq_true_iff]

/-- What is found for a field is read off what the table says under its name. -/
theorem lookup_of_fitMembers (distinct : Distinct fields) {found : List (String × Value)}
    (read : fitMembers fields members = .ok found) {f : FieldFit} (hf : f ∈ fields) :
    match members.lookup f.name with
    | some e => ∃ w, f.fit e = .ok w ∧ found.lookup f.name = some w
    | none => found.lookup f.name = none := by
  induction members generalizing found with
  | nil =>
    cases read
    rfl
  | cons head rest ih =>
    obtain ⟨name, e⟩ := head
    rw [fitMembers] at read
    rw [lookup_cons_eq_ite]
    split at read
    · next unknown =>
      have ne : f.name ≠ name := fun same =>
        List.find?_eq_none.1 unknown f hf ((distinct.contains_iff hf _).2 same)
      rw [if_neg ne]
      exact ih read
    · next g known =>
      -- The member is of the field `g`, which is `f` or has another name.
      obtain ⟨w, fits, more⟩ := bind_eq_ok_iff.1 read
      obtain ⟨others, later, done⟩ := bind_eq_ok_iff.1 more
      cases done
      rw [lookup_cons_eq_ite]
      have hg := List.mem_of_find?_eq_some known
      have same := (distinct.contains_iff hg name).1 (by simpa using List.find?_some known)
      by_cases here : f.name = name
      · subst here
        cases known.symm.trans (distinct.find?_contains hf)
        rw [if_pos rfl, if_pos rfl]
        exact ⟨w, mapError_eq_ok_iff.1 fits, rfl⟩
      · rw [if_neg here, if_neg (same.symm ▸ here)]
        exact ih later

theorem fitMembers_of_fit
    (fits : ∀ m ∈ members, ∀ f ∈ fields, f.names.contains m.1 → ∃ w, f.fit m.2 = .ok w) :
    ∃ found, fitMembers fields members = .ok found := by
  induction members with
  | nil => exact ⟨[], rfl⟩
  | cons head rest ih =>
    rw [List.forall_mem_cons] at fits
    obtain ⟨found, read⟩ := ih fits.2
    rw [fitMembers]
    split
    · exact ⟨found, read⟩
    · next f known =>
      obtain ⟨w, fit⟩ := fits.1 f (List.mem_of_find?_eq_some known)
        (by simpa using List.find?_some known)
      exact ⟨(f.name, w) :: found, by rw [fit, read]; rfl⟩

/-- A field with its value, which may not be missing. -/
def FieldFit.member (value? : FieldFit → Option Value) (f : FieldFit) : Fitted (String × Value) :=
  match value? f with
  | some w => .ok (f.name, w)
  | none => fault .missing

/-- Each field of a complete record has its value. -/
theorem lookup_of_mapM_member {value? : FieldFit → Option Value} {all : List (String × Value)}
    (apart : fields.Pairwise fun f g => g.name ≠ f.name)
    (complete : fields.mapM (FieldFit.member value?) = .ok all) :
    ∀ f ∈ fields, ∃ w, value? f = some w ∧ all.lookup f.name = some w := by
  induction fields generalizing all with
  | nil => exact nofun
  | cons f rest ih =>
    obtain ⟨other, apart⟩ := List.pairwise_cons.1 apart
    rw [List.mapM_cons] at complete
    obtain ⟨m, first, more⟩ := bind_eq_ok_iff.1 complete
    obtain ⟨ms, later, done⟩ := bind_eq_ok_iff.1 more
    cases done
    unfold FieldFit.member at first
    split at first
    · next w found =>
      cases first
      refine List.forall_mem_cons.2 ⟨⟨w, found, ?_⟩, fun g hg => ?_⟩
      · rw [lookup_cons_eq_ite, if_pos rfl]
      · rw [lookup_cons_eq_ite, if_neg (other g hg)]
        exact ih apart later g hg
    · cases first

theorem mapM_member_of_values {value? : FieldFit → Option Value}
    (values : ∀ f ∈ fields, ∃ w, value? f = some w) :
    ∃ all, fields.mapM (FieldFit.member value?) = .ok all := by
  induction fields with
  | nil => exact ⟨[], rfl⟩
  | cons f rest ih =>
    rw [List.forall_mem_cons] at values
    obtain ⟨w, first⟩ := values.1
    obtain ⟨all, complete⟩ := ih values.2
    exact ⟨(f.name, w) :: all, by rw [List.mapM_cons, FieldFit.member, first, complete]; rfl⟩

/-- Each field of a record that is read off a table has what it gets from the table. -/
theorem member?_of_fitRecord (distinct : Distinct fields)
    (read : fitRecord fields (.table members) = .ok v) {f : FieldFit} (hf : f ∈ fields) :
    ∃ w, f.Gets members w ∧ v.member? f.name = some w := by
  obtain ⟨found, members_read, read⟩ := bind_eq_ok_iff.1 read
  obtain ⟨all, complete, done⟩ := bind_eq_ok_iff.1 read
  cases done
  obtain ⟨w, value, lookup⟩ := lookup_of_mapM_member distinct.apart complete f hf
  have found_here := lookup_of_fitMembers distinct members_read hf
  refine ⟨w, ?_, lookup⟩
  unfold FieldFit.Gets
  cases h : members.lookup f.name with
  | some e =>
    rw [h] at found_here
    obtain ⟨w', fits, found_here⟩ := found_here
    rw [found_here] at value
    cases value
    exact fits
  | none =>
    rw [h] at found_here
    rwa [found_here] at value

/-- A record is read off a table from which each field gets something. -/
theorem fitRecord_of_gets (distinct : Distinct fields) (ascending : Ascending members)
    (gets : ∀ f ∈ fields, ∃ w, f.Gets members w) :
    ∃ v, fitRecord fields (.table members) = .ok v := by
  obtain ⟨found, read⟩ : ∃ found, fitMembers fields members = .ok found := by
    refine fitMembers_of_fit fun m hm f hf contains => ?_
    obtain ⟨w, get⟩ := gets f hf
    rw [FieldFit.Gets, (distinct.contains_iff hf _).1 contains, ascending.lookup_of_mem hm] at get
    exact ⟨w, get⟩
  obtain ⟨all, complete⟩ : ∃ all, fields.mapM
      (FieldFit.member fun f => (found.lookup f.name).or f.absence.value?) = .ok all := by
    refine mapM_member_of_values fun f hf => ?_
    obtain ⟨w, get⟩ := gets f hf
    have found_here := lookup_of_fitMembers distinct read hf
    unfold FieldFit.Gets at get
    cases h : members.lookup f.name with
    | some e =>
      rw [h] at found_here
      obtain ⟨w', -, found_here⟩ := found_here
      exact ⟨w', by rw [found_here]; rfl⟩
    | none =>
      rw [h] at found_here get
      exact ⟨w, by rw [found_here]; exact get⟩
  exact ⟨.object all, bind_eq_ok_iff.2 ⟨found, read, bind_eq_ok_iff.2 ⟨all, complete, rfl⟩⟩⟩

/-! ## Fields of a shape -/

variable {shape : Shape} {fs : List (List String × Absence × Shape)}

theorem fieldFits_eq_map (fs : List (List String × Absence × Shape)) :
    fieldFits fs = fs.map fun f => ⟨f.1, f.2.1, f.2.2.fit⟩ := by
  induction fs with
  | nil => rw [fieldFits]; rfl
  | cons f fs ih => rw [fieldFits, ih]; rfl

theorem distinct_fieldFits (plain : arePlain fs = true) : Distinct (fieldFits fs) := by
  obtain ⟨fields, apart⟩ := arePlain_iff.1 plain
  rw [fieldFits_eq_map]
  refine ⟨fun g hg => ?_, List.pairwise_map.2 apart⟩
  obtain ⟨f, hf, rfl⟩ := List.mem_map.1 hg
  exact (fields f hf).1

theorem mem_fieldFits {g : FieldFit} :
    g ∈ fieldFits fs ↔ ∃ f ∈ fs, ⟨f.1, f.2.1, f.2.2.fit⟩ = g := by
  rw [fieldFits_eq_map, List.mem_map]

/-- A field of a record that is read off a table has what the table says under its name, read as a
value of its shape, or else what its absence means. -/
theorem member?_of_fit (plain : (Shape.record fs).isPlain = true)
    (fits : (Shape.record fs).fit (.table members) = .ok v) {f : List String × Absence × Shape}
    (hf : f ∈ fs) :
    ∃ w, v.member? (f.1.headD "") = some w ∧
      match members.lookup (f.1.headD "") with
      | some e => f.2.2.fit e = .ok w
      | none => f.2.1.value? = some w := by
  have distinct := distinct_fieldFits (Bool.and_eq_true_iff.1 plain).2
  obtain ⟨w, gets, member⟩ := member?_of_fitRecord distinct fits (mem_fieldFits.2 ⟨f, hf, rfl⟩)
  exact ⟨w, member, gets⟩

/-! ## Leaves -/

/-- A choice is only read off a text. -/
theorem eq_of_fitChoice {names : List String} {e : Entry} (fits : fitChoice names e = .ok v) :
    ∃ name ∈ names, e = .text name ∧ v = .string name := by
  unfold fitChoice at fits
  split at fits
  · next name =>
    split at fits
    · next mem =>
      cases fits
      exact ⟨name, mem, rfl, rfl⟩
    · cases fits
  · split at fits <;> cases fits
  · cases fits

/-- What is read as a scalar is what the entry says. -/
theorem at?_fit_scalar {e : Entry} (scalar : shape.isScalar = true) (fits : shape.fit e = .ok v) :
    v.at? [] = some e.value := by
  cases shape with
  | nullable inner => cases scalar
  | record fields => cases scalar
  | text =>
    unfold Shape.fit at fits
    split at fits <;> cases fits <;> rfl
  | flag =>
    unfold Shape.fit at fits
    split at fits <;> cases fits
    rfl
  | integer low high =>
    cases e with
    | integer n =>
      unfold Shape.fit at fits
      dsimp only at fits
      split at fits <;> cases fits
      rfl
    | _ => cases fits
  | choice names =>
    obtain ⟨name, -, rfl, rfl⟩ := eq_of_fitChoice fits
    rfl

theorem fit_table_ne_ok (scalar : shape.isScalar = true) (members : List (String × Entry)) :
    shape.fit (.table members) ≠ .ok v := by
  intro fits
  cases shape with
  | nullable inner => cases scalar
  | record fields => cases scalar
  | choice names =>
    obtain ⟨name, -, text, -⟩ := eq_of_fitChoice fits
    cases text
  | _ => cases fits

/-- Whether a scalar is read does not depend on what is inside of tables. -/
theorem fit_emptied_iff (scalar : shape.isScalar = true) {e : Entry} :
    shape.fit e.emptied = .ok v ↔ shape.fit e = .ok v := by
  rcases e.single_or_table with single | ⟨members, rfl⟩
  · rw [emptied_of_single single]
  · exact iff_of_false (fit_table_ne_ok scalar []) (fit_table_ne_ok scalar members)

/-- A value that is read off an entry holds at each leaf what the entry says there. Where the entry
says nothing, it holds nothing, unless something is assumed. -/
theorem at?_fit (plain : shape.isPlain = true) {e : Entry} (fits : shape.fit e = .ok v)
    {leaf : Leaf} (mem : leaf ∈ shape.leaves) (tables : e.TablesOn leaf.path)
    (nothing : e.at? leaf.path = none → shape.assumesNothing leaf.path = true) :
    v.at? leaf.path = (e.at? leaf.path).map Entry.value := by
  induction shape using Shape.induction generalizing e v leaf with
  | scalar shape scalar =>
    rw [Shape.leaves_of_isScalar scalar] at mem
    cases List.mem_singleton.1 mem
    exact at?_fit_scalar scalar fits
  | nullable inner ih =>
    refine ih plain fits mem tables fun silent => ?_
    rw [← assumesNothing_nullable]
    exact nothing silent
  | record fs ih =>
    obtain ⟨f, hf, inner, mem_inner, rfl⟩ := mem_fieldLeaves.1 mem
    obtain ⟨members, rfl, within⟩ := tables
    obtain ⟨w, member, gets⟩ := member?_of_fit plain fits hf
    rw [assumesNothing_record plain hf] at nothing
    refine (Value.at?_cons_of_member? member _).trans ?_
    cases found : members.lookup (f.1.headD "") with
    | none =>
      -- The field has what its absence means, in which nothing is assumed for the leaf.
      rw [at?_cons_table, found] at nothing ⊢
      rw [found] at gets
      rw [gets] at nothing
      exact (nothing rfl).1
    | some x =>
      rw [at?_cons_of_lookup found] at nothing ⊢
      rw [found] at gets
      exact ih f hf (isPlain_of_mem plain hf) gets mem_inner (within x found)
        fun silent => (nothing silent).2

/-- Whatever gives tables on the way to the leaves of a record is a table. -/
theorem table_of_tablesOn (plain : (Shape.record fs).isPlain = true) {e : Entry}
    (tables : ∀ leaf ∈ (Shape.record fs).leaves, e.TablesOn leaf.path) :
    ∃ members, e = .table members := by
  obtain ⟨leaf, mem⟩ := List.exists_mem_of_ne_nil _ (leaves_ne_nil plain)
  have on_way := tables leaf mem
  obtain ⟨f, -, inner, -, rfl⟩ := mem_fieldLeaves.1 mem
  obtain ⟨members, table, -⟩ := on_way
  exact ⟨members, table⟩

/-- Where an entry gives tables on the way to the leaves of a shape, a value is read off it if what
it says at each leaf fits the leaf, and each table that it gives has the fields that have to be
there. -/
theorem fit_of_leaves (plain : shape.isPlain = true) {e : Entry} (ordered : e.Ordered)
    (tables : ∀ leaf ∈ shape.leaves, e.TablesOn leaf.path)
    (fits : ∀ leaf ∈ shape.leaves, ∀ x, e.at? leaf.path = some x → ∃ w, leaf.shape.fit x = .ok w)
    (required : ∀ r ∈ shape.required, (e.at? r.1).isSome → (e.at? (r.1 ++ [r.2])).isSome) :
    ∃ v, shape.fit e = .ok v := by
  induction shape using Shape.induction generalizing e with
  | scalar shape scalar =>
    rw [Shape.leaves_of_isScalar scalar] at fits
    exact fits _ (List.mem_singleton_self _) e rfl
  | nullable inner ih => exact ih plain ordered tables fits required
  | record fs ih =>
    obtain ⟨members, rfl⟩ := table_of_tablesOn plain tables
    obtain ⟨ascending, ordered⟩ := ordered.of_table
    have distinct := distinct_fieldFits (Bool.and_eq_true_iff.1 plain).2
    refine fitRecord_of_gets distinct ascending fun g hg => ?_
    obtain ⟨f, hf, rfl⟩ := mem_fieldFits.1 hg
    unfold FieldFit.Gets FieldFit.name
    cases found : members.lookup (f.1.headD "") with
    | none =>
      cases absent : f.2.1.value? with
      | some w => exact ⟨w, rfl⟩
      | none =>
        -- What has to be there is there, so the table does have the field.
        have here := required _ (mem_requiredFields.2 ⟨f, hf, .inl ⟨absent, rfl⟩⟩) rfl
        rw [List.nil_append, at?_cons_table, found] at here
        cases here
    | some x =>
      refine ih f hf (isPlain_of_mem plain hf) (ordered _ (mem_of_lookup found))
        (fun leaf mem => ?_) (fun leaf mem x' said => ?_) fun r hr said => ?_
      · exact tablesOn_of_lookup found (tables _ (mem_fieldLeaves.2 ⟨f, hf, leaf, mem, rfl⟩))
      · exact fits _ (mem_fieldLeaves.2 ⟨f, hf, leaf, mem, rfl⟩) x'
          ((at?_cons_of_lookup found _).trans said)
      · have here := required _ (mem_requiredFields.2 ⟨f, hf, .inr ⟨r, hr, rfl⟩⟩)
        rw [List.cons_append, at?_cons_of_lookup found, at?_cons_of_lookup found] at here
        exact here said

/-- What a value is read off says something of the right kind at each leaf, or nothing. -/
theorem leaves_of_fit (plain : shape.isPlain = true) {e : Entry} (fits : shape.fit e = .ok v)
    {leaf : Leaf} (mem : leaf ∈ shape.leaves) {x : Entry} (said : e.at? leaf.path = some x) :
    ∃ w, leaf.shape.fit x = .ok w := by
  induction shape using Shape.induction generalizing e v leaf with
  | scalar shape scalar =>
    rw [Shape.leaves_of_isScalar scalar] at mem
    cases List.mem_singleton.1 mem
    cases said
    exact ⟨v, fits⟩
  | nullable inner ih => exact ih plain fits mem said
  | record fs ih =>
    obtain ⟨f, hf, inner, mem_inner, rfl⟩ := mem_fieldLeaves.1 mem
    rcases e.single_or_table with single | ⟨members, rfl⟩
    · rw [at?_cons_of_single single] at said
      cases said
    · obtain ⟨w, -, gets⟩ := member?_of_fit plain fits hf
      rw [at?_cons_table] at said
      obtain ⟨e, found, said⟩ := Option.bind_eq_some_iff.1 said
      rw [found] at gets
      show ∃ w, inner.shape.fit x = .ok w
      exact ih f hf (isPlain_of_mem plain hf) gets mem_inner said

/-- A table that a value is read off has the fields that have to be there. -/
theorem required_of_fit (plain : shape.isPlain = true) {e : Entry} (fits : shape.fit e = .ok v)
    (tables : ∀ leaf ∈ shape.leaves, e.TablesOn leaf.path) {r : List String × String}
    (mem : r ∈ shape.required) (said : (e.at? r.1).isSome) : (e.at? (r.1 ++ [r.2])).isSome := by
  induction shape using Shape.induction generalizing e v r with
  | scalar shape scalar =>
    rw [Shape.required_of_isScalar scalar] at mem
    cases mem
  | nullable inner ih => exact ih plain fits tables mem said
  | record fs ih =>
    obtain ⟨members, rfl⟩ := table_of_tablesOn plain tables
    obtain ⟨f, hf, refused⟩ := mem_requiredFields.1 mem
    obtain ⟨w, -, gets⟩ := member?_of_fit plain fits hf
    rcases refused with ⟨absent, rfl⟩ | ⟨inner, mem_inner, rfl⟩
    · rw [List.nil_append, at?_cons_table]
      cases found : members.lookup (f.1.headD "") with
      | none =>
        rw [found] at gets
        cases absent.symm.trans gets
      | some x => rfl
    · cases found : members.lookup (f.1.headD "") with
      | none =>
        rw [at?_cons_table, found] at said
        cases said
      | some x =>
        rw [found] at gets
        rw [at?_cons_of_lookup found] at said
        rw [List.cons_append, at?_cons_of_lookup found]
        refine ih f hf (isPlain_of_mem plain hf) gets (fun leaf mem => ?_) mem_inner said
        exact tablesOn_of_lookup found (tables _ (mem_fieldLeaves.2 ⟨f, hf, leaf, mem, rfl⟩))

/-! ## Values of a shape -/

theorem holds_scalar_of_fit (scalar : shape.isScalar = true) {e : Entry}
    (fits : shape.fit e = .ok v) : shape.holds v = true := by
  cases shape with
  | nullable inner => cases scalar
  | record fields => cases scalar
  | text =>
    unfold Shape.fit at fits
    split at fits <;> cases fits <;> rfl
  | flag =>
    unfold Shape.fit at fits
    split at fits <;> cases fits
    rfl
  | integer low high =>
    unfold Shape.fit at fits
    split at fits
    · split at fits
      · next within =>
        cases fits
        exact holds_integer_iff.2 ⟨_, rfl, within⟩
      · cases fits
    · cases fits
  | choice names =>
    obtain ⟨name, mem, -, rfl⟩ := eq_of_fitChoice fits
    exact holds_choice_iff.2 ⟨name, rfl, mem⟩

/-- What is read off a table, or off an entry that is no record, is of the shape. -/
theorem holds_of_fit (plain : shape.isPlain = true) (well : shape.assumesWell = true) {e : Entry}
    (tables : ∀ leaf ∈ shape.leaves, e.TablesOn leaf.path) (fits : shape.fit e = .ok v) :
    shape.holds v = true := by
  induction shape using Shape.induction generalizing e v with
  | scalar shape scalar => exact holds_scalar_of_fit scalar fits
  | nullable inner ih => exact holds_nullable_iff.2 (.inr (ih plain well tables fits))
  | record fs ih =>
    obtain ⟨members, rfl⟩ := table_of_tablesOn plain tables
    refine fieldsHold_iff.2 fun f hf => ?_
    obtain ⟨assumed, well⟩ := assumeWell_iff.1 well f hf
    obtain ⟨w, member, gets⟩ := member?_of_fit plain fits hf
    refine ⟨w, member, ?_⟩
    cases found : members.lookup (f.1.headD "") with
    | none =>
      rw [found] at gets
      exact assumed w gets
    | some x =>
      rw [found] at gets
      refine ih f hf (isPlain_of_mem plain hf) well (fun leaf mem => ?_) gets
      exact tablesOn_of_lookup found (tables _ (mem_fieldLeaves.2 ⟨f, hf, leaf, mem, rfl⟩))

end FederatedLogin.Settings
