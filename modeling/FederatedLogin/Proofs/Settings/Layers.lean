import FederatedLogin.Settings.Entry
import FederatedLogin.Json.Value
import Mathlib.Data.List.Induction

/-!
# Layers of entries

What stands when entries are laid over one another is read off path by path. The tables of sources
have ascending names (`Entry.Ordered`), so that an entry laid over another one is looked up in both
(`lookup_overlayMembers`). Where every layer gives tables on the way, a path leads to what the
highest layer says there (`at?_layered`), and an entry laid over a second time changes nothing
(`overlay_overlay`).
-/

namespace FederatedLogin.Settings

open Json

/-! ## Ascending names -/

variable {α : Type} {name : String} {v : α} {members members' : List (String × α)}

/-- The names of the members ascend. -/
def Ascending (members : List (String × α)) : Prop := members.Pairwise fun m m' => m.1 < m'.1

/-- Of two different names one comes before the other. -/
theorem lt_of_not_lt {a b : String} (ne : a ≠ b) (not_lt : ¬ a < b) : b < a :=
  Decidable.byContradiction fun not_gt =>
    ne (String.le_antisymm (String.not_lt.1 not_gt) (String.not_lt.1 not_lt))

/-- A name before all others is not found. -/
theorem lookup_eq_none_of_forall_lt (h : ∀ m ∈ members, name < m.1) :
    members.lookup name = none := by
  rw [List.lookup_eq_none_iff]
  refine fun m hm => bne_iff_ne.2 fun same => ?_
  exact String.lt_irrefl name (same ▸ h m hm)

theorem mem_of_lookup (h : members.lookup name = some v) : (name, v) ∈ members := by
  obtain ⟨before, after, rfl, -⟩ := List.lookup_eq_some_iff.1 h
  simp

/-- After a name is put in, only its value is new. -/
theorem mem_put {m : String × α} (h : m ∈ put name v members) : m = (name, v) ∨ m ∈ members := by
  induction members with
  | nil => exact .inl (List.mem_singleton.1 h)
  | cons head rest ih =>
    rw [put] at h
    split at h
    · rcases List.mem_cons.1 h with rfl | h
      · exact .inl rfl
      · exact .inr (List.mem_cons_of_mem _ h)
    · split at h
      · exact List.mem_cons.1 h
      · rcases List.mem_cons.1 h with rfl | h
        · exact .inr List.mem_cons_self
        · exact (ih h).imp_right (List.mem_cons_of_mem _)

/-- Putting a name in keeps the names in order. -/
theorem Ascending.put (ascending : Ascending members) (name : String) (v : α) :
    Ascending (put name v members) := by
  induction members with
  | nil => exact List.pairwise_singleton ..
  | cons head rest ih =>
    obtain ⟨n, w⟩ := head
    obtain ⟨first, rest_ascending⟩ := List.pairwise_cons.1 ascending
    rw [Settings.put]
    split
    · next same =>
      subst same
      exact List.pairwise_cons.2 ⟨first, rest_ascending⟩
    · next ne =>
      split
      · next lt =>
        refine List.pairwise_cons.2 ⟨fun m hm => ?_, ascending⟩
        rcases List.mem_cons.1 hm with rfl | hm
        · exact lt
        · exact String.lt_trans lt (first m hm)
      · next not_lt =>
        refine List.pairwise_cons.2 ⟨fun m hm => ?_, ih rest_ascending⟩
        rcases mem_put hm with rfl | hm
        · exact lt_of_not_lt ne not_lt
        · exact first m hm

/-- Where names are in order, each is found with its own value. -/
theorem Ascending.lookup_of_mem (ascending : Ascending members) {m : String × α}
    (hm : m ∈ members) : members.lookup m.1 = some m.2 := by
  induction members with
  | nil => cases hm
  | cons head rest ih =>
    obtain ⟨first, rest_ascending⟩ := List.pairwise_cons.1 ascending
    rw [lookup_cons_eq_ite]
    rcases List.mem_cons.1 hm with rfl | hm
    · rw [if_pos rfl]
    · rw [if_neg fun same => String.lt_irrefl m.1 (by simpa [same] using first m hm)]
      exact ih rest_ascending hm

/-- Members with ascending names are determined by what is found under each name. -/
theorem Ascending.ext (ascending : Ascending members) (ascending' : Ascending members')
    (same : ∀ name, members.lookup name = members'.lookup name) : members = members' := by
  induction members generalizing members' with
  | nil =>
    cases members' with
    | nil => rfl
    | cons head rest =>
      obtain ⟨n, w⟩ := head
      simpa [lookup_cons_eq_ite] using same n
  | cons head rest ih =>
    obtain ⟨n, w⟩ := head
    obtain ⟨first, rest_ascending⟩ := List.pairwise_cons.1 ascending
    cases members' with
    | nil => simpa [lookup_cons_eq_ite] using same n
    | cons head' rest' =>
      obtain ⟨n', w'⟩ := head'
      obtain ⟨first', rest_ascending'⟩ := List.pairwise_cons.1 ascending'
      have at_n := same n
      have at_n' := same n'
      simp only [lookup_cons_eq_ite] at at_n at_n' same
      -- The first names are the same, as each is in the other list.
      obtain rfl : n = n' := by
        by_contra ne
        rw [if_pos trivial, if_neg ne] at at_n
        rw [if_neg (Ne.symm ne), if_pos trivial] at at_n'
        exact String.lt_irrefl n (String.lt_trans (first _ (mem_of_lookup at_n'))
          (first' _ (mem_of_lookup at_n.symm)))
      simp only [if_true, Option.some_inj] at at_n
      subst at_n
      refine congrArg _ (ih rest_ascending rest_ascending' fun name => ?_)
      have here := same name
      by_cases h : name = n
      · subst h
        rw [lookup_eq_none_of_forall_lt first, lookup_eq_none_of_forall_lt first']
      · rwa [if_neg h, if_neg h] at here

/-! ## Ordered entries -/

/-- The entry is no table. -/
def Entry.Single (e : Entry) : Prop := ∀ members, e ≠ .table members

/-- An entry is a single value or a table. -/
theorem Entry.single_or_table (e : Entry) : e.Single ∨ ∃ members, e = .table members := by
  cases e with
  | table members => exact .inr ⟨members, rfl⟩
  | _ => exact .inl fun members h => nomatch h

/-- The tables that are not in a list have ascending names. -/
inductive Entry.Ordered : Entry → Prop where
  | single {e : Entry} (h : e.Single) : e.Ordered
  | table {members : List (String × Entry)} (ascending : Ascending members)
    (inner : ∀ m ∈ members, m.2.Ordered) : (Entry.table members).Ordered

/-- In an ordered table the names are in order, and so are all values. -/
theorem Entry.Ordered.of_table {members : List (String × Entry)}
    (h : (Entry.table members).Ordered) : Ascending members ∧ ∀ m ∈ members, m.2.Ordered := by
  cases h with
  | single single => exact absurd rfl (single members)
  | table ascending inner => exact ⟨ascending, inner⟩

variable {e below above : Entry} {path : List String}

/-- An ordered table stays ordered when an ordered value is put in. -/
theorem Entry.Ordered.put {members : List (String × Entry)} (h : (Entry.table members).Ordered)
    (name : String) (he : e.Ordered) : (Entry.table (put name e members)).Ordered := by
  obtain ⟨ascending, inner⟩ := h.of_table
  refine .table (ascending.put name e) fun m hm => ?_
  rcases mem_put hm with rfl | hm
  · exact he
  · exact inner m hm

theorem ordered_empty : (Entry.table []).Ordered := .table List.Pairwise.nil nofun

/-- An ordered value stays ordered at the end of a path. -/
theorem ordered_nest (h : e.Ordered) (path : List String) : (nest path e).Ordered := by
  induction path with
  | nil => exact h
  | cons name path ih => exact ordered_empty.put name ih

/-! ## One entry over another -/

/-- A single value hides what is below it. -/
theorem overlay_of_single (h : above.Single) (below : Entry) : below.overlay above = above := by
  cases above with
  | table members => exact absurd rfl (h members)
  | _ => rfl

/-- A table hides a single value below it. -/
theorem overlay_table_of_single (h : below.Single) (above : List (String × Entry)) :
    below.overlay (.table above) = .table above := by
  cases below with
  | table members => exact absurd rfl (h members)
  | _ => rfl

/-- A table is laid over a table member by member. -/
theorem overlay_table (below above : List (String × Entry)) :
    (Entry.table below).overlay (.table above) = .table (overlayMembers below above) := rfl

/-- Under each name, the upper table is laid over the lower one. -/
theorem lookup_overlayMembers {above : List (String × Entry)} (ascending : Ascending above)
    (below : List (String × Entry)) (name : String) :
    (overlayMembers below above).lookup name =
      match above.lookup name with
      | none => below.lookup name
      | some e => some ((below.lookup name).elim e (·.overlay e)) := by
  induction above generalizing below with
  | nil => rfl
  | cons head rest ih =>
    obtain ⟨n, e⟩ := head
    obtain ⟨first, ascending⟩ := List.pairwise_cons.1 ascending
    rw [overlayMembers, ih ascending, lookup_cons_eq_ite, lookup_put]
    by_cases h : name = n
    · subst h
      rw [lookup_eq_none_of_forall_lt first, if_pos rfl, if_pos rfl]
    · rw [if_neg h, if_neg h]

/-- Ordered members laid over an ordered table leave it ordered. -/
theorem ordered_overlayMembers {members above : List (String × Entry)}
    (h : ∀ m ∈ above, m.2.Ordered ∧ ∀ below : Entry, below.Ordered → (below.overlay m.2).Ordered)
    (ordered : (Entry.table members).Ordered) :
    (Entry.table (overlayMembers members above)).Ordered := by
  induction above generalizing members with
  | nil => exact ordered
  | cons head rest ih =>
    obtain ⟨n, e⟩ := head
    obtain ⟨he, overlay⟩ := h _ List.mem_cons_self
    rw [overlayMembers]
    refine ih (fun m hm => h m (List.mem_cons_of_mem _ hm)) (ordered.put n ?_)
    cases found : members.lookup n with
    | none => exact he
    | some old => exact overlay old (ordered.of_table.2 _ (mem_of_lookup found))

/-- An ordered entry laid over an ordered one leaves it ordered. -/
theorem Entry.Ordered.overlay (ordered : above.Ordered) (h : below.Ordered) :
    (below.overlay above).Ordered := by
  induction ordered generalizing below with
  | single single =>
    rw [overlay_of_single single]
    exact .single single
  | @table above ascending inner ih =>
    cases h with
    | single single =>
      rw [overlay_table_of_single single]
      exact .table ascending inner
    | @table members ascending' inner' =>
      exact ordered_overlayMembers (fun m hm => ⟨inner m hm, fun below => ih m hm⟩)
        (.table ascending' inner')

/-- What is laid over a second time changes nothing. -/
theorem Entry.Ordered.overlay_overlay (ordered : above.Ordered) :
    above.overlay above = above ∧
      ∀ below : Entry, below.Ordered →
        (below.overlay above).overlay above = below.overlay above := by
  -- Both go together: a name that only the upper table has is laid over itself.
  induction ordered with
  | single single =>
    refine ⟨overlay_of_single single _, fun below _ => ?_⟩
    rw [overlay_of_single single, overlay_of_single single]
  | @table above ascending inner ih =>
    have whole : (Entry.table above).Ordered := .table ascending inner
    have itself : (Entry.table above).overlay (.table above) = .table above := by
      rw [overlay_table]
      refine congrArg _ (Ascending.ext ?_ ascending fun name => ?_)
      · exact (whole.overlay whole).of_table.1
      · rw [lookup_overlayMembers ascending]
        cases found : above.lookup name with
        | none => rfl
        | some e => exact congrArg some (ih _ (mem_of_lookup found)).1
    refine ⟨itself, fun below hb => ?_⟩
    cases hb with
    | single single => rw [overlay_table_of_single single, itself]
    | @table members ascending' inner' =>
      have lower : (Entry.table members).Ordered := .table ascending' inner'
      rw [overlay_table, overlay_table]
      refine congrArg _ (Ascending.ext ?_ (whole.overlay lower).of_table.1 fun name => ?_)
      · exact (whole.overlay (whole.overlay lower)).of_table.1
      · rw [lookup_overlayMembers ascending, lookup_overlayMembers ascending]
        cases found : above.lookup name with
        | none => rfl
        | some e =>
          obtain ⟨once, twice⟩ := ih _ (mem_of_lookup found)
          refine congrArg some ?_
          cases under : members.lookup name with
          | none => exact once
          | some old => exact twice old (inner' _ (mem_of_lookup under))

/-! ## Many layers -/

/-- The last layer is laid over all others. -/
theorem layered_concat (layers : List Entry) (top : Entry) :
    layered (layers ++ [top]) = (layered layers).overlay top :=
  List.foldl_append

/-- Ordered layers make an ordered whole. -/
theorem ordered_layered {layers : List Entry} (h : ∀ e ∈ layers, e.Ordered) :
    (layered layers).Ordered := by
  induction layers using List.reverseRecOn with
  | nil => exact ordered_empty
  | append_singleton layers top ih =>
    rw [layered_concat]
    rw [List.forall_mem_append] at h
    exact (h.2 top (List.mem_singleton_self top)).overlay (ih h.1)

/-- A layer that comes many times in a row counts once. -/
theorem layered_replicate {layers : List Entry} (h : ∀ e ∈ layers, e.Ordered) (ordered : e.Ordered)
    (n : Nat) :
    layered (layers ++ List.replicate (n + 1) e) = layered (layers ++ [e]) := by
  induction n with
  | zero => rfl
  | succ n ih =>
    rw [List.replicate_succ', ← List.append_assoc, layered_concat, ih, layered_concat]
    exact ordered.overlay_overlay.2 _ (ordered_layered h)

/-! ## Paths -/

/-- What an entry says at the end of a path of names. -/
def Entry.at? : List String → Entry → Option Entry
  | [], e => some e
  | name :: path, .table members => (members.lookup name).bind (Entry.at? path)
  | _ :: _, _ => none

/-- Wherever the entry says something on the way to the end of a path, it gives a table. -/
def Entry.TablesOn : List String → Entry → Prop
  | [], _ => True
  | name :: path, e =>
    ∃ members, e = .table members ∧ ∀ inner, members.lookup name = some inner → inner.TablesOn path

/-- The value of an entry that is no list and no table. -/
def Entry.value : Entry → Value
  | .flag b => .bool b
  | .integer n => .integer n
  | .character c => .string c.toString
  | .text s => .string s
  | _ => .null

/-- A path goes into a table by its first name. -/
theorem at?_cons_table (name : String) (path : List String) (members : List (String × Entry)) :
    (Entry.table members).at? (name :: path) = (members.lookup name).bind (·.at? path) := rfl

/-- Behind the first name of a path, the path goes on in what is found there. -/
theorem at?_cons_of_lookup {members : List (String × Entry)} {x : Entry}
    (found : members.lookup name = some x) (path : List String) :
    (Entry.table members).at? (name :: path) = x.at? path := by
  rw [at?_cons_table, found]
  rfl

/-- If there are tables on the way, there are tables on the rest of the way. -/
theorem tablesOn_of_lookup {members : List (String × Entry)} {x : Entry}
    (found : members.lookup name = some x)
    (tables : (Entry.table members).TablesOn (name :: path)) : x.TablesOn path := by
  obtain ⟨_, same, within⟩ := tables
  cases same
  exact within x found

/-- If there are tables on the way, there are tables on the first part of it. -/
theorem Entry.TablesOn.of_append {rest : List String} (tables : e.TablesOn (path ++ rest)) :
    e.TablesOn path := by
  induction path generalizing e with
  | nil => trivial
  | cons name path ih =>
    obtain ⟨members, rfl, within⟩ := tables
    exact ⟨members, rfl, fun inner found => ih (within inner found)⟩

instance Entry.decidableTablesOn : (path : List String) → (e : Entry) → Decidable (e.TablesOn path)
  | [], _ => .isTrue trivial
  | name :: path, .table members =>
    match found : members.lookup name with
    | none => .isTrue ⟨members, rfl, fun _ h => nomatch found.symm.trans h⟩
    | some inner =>
      haveI := decidableTablesOn path inner
      decidable_of_iff (inner.TablesOn path)
        ⟨fun tables => ⟨members, rfl, fun _ h => Option.some.inj (found.symm.trans h) ▸ tables⟩,
          tablesOn_of_lookup found⟩
  | _ :: _, .flag _ => .isFalse fun ⟨_, h, _⟩ => nomatch h
  | _ :: _, .integer _ => .isFalse fun ⟨_, h, _⟩ => nomatch h
  | _ :: _, .fraction => .isFalse fun ⟨_, h, _⟩ => nomatch h
  | _ :: _, .character _ => .isFalse fun ⟨_, h, _⟩ => nomatch h
  | _ :: _, .text _ => .isFalse fun ⟨_, h, _⟩ => nomatch h
  | _ :: _, .list _ => .isFalse fun ⟨_, h, _⟩ => nomatch h

theorem at?_cons_of_single (h : e.Single) (name : String) (path : List String) :
    e.at? (name :: path) = none := by
  cases e with
  | table members => exact absurd rfl (h members)
  | _ => rfl

/-- An entry with nothing inside, if it is a table. -/
def Entry.emptied : Entry → Entry
  | .table _ => .table []
  | e => e

/-- Nothing is taken out of a single value. -/
theorem emptied_of_single (h : e.Single) : e.emptied = e := by
  cases e with
  | table members => exact absurd rfl (h members)
  | _ => rfl

/-- As a value a table counts the same with its members and without. -/
theorem value_emptied (e : Entry) : e.emptied.value = e.value := by
  cases e <;> rfl

/-- Only what is inside of a table changes when it is laid over something. -/
theorem emptied_overlay (below above : Entry) : (below.overlay above).emptied = above.emptied := by
  rcases above.single_or_table with single | ⟨members, rfl⟩
  · rw [overlay_of_single single]
  · cases below <;> rfl

/-- A path leads to what the upper entry says, laid over what the lower one says. -/
theorem at?_overlay (ordered : above.Ordered) (tables : above.TablesOn path) :
    (below.overlay above).at? path =
      match above.at? path with
      | none => below.at? path
      | some e => some ((below.at? path).elim e (·.overlay e)) := by
  induction path generalizing below above with
  | nil => rfl
  | cons name path ih =>
    obtain ⟨members, rfl, inner⟩ := tables
    obtain ⟨ascending, ordered⟩ := ordered.of_table
    rcases below.single_or_table with single | ⟨lower, rfl⟩
    · rw [overlay_table_of_single single, at?_cons_of_single single]
      cases (Entry.table members).at? (name :: path) <;> rfl
    · simp only [overlay_table, at?_cons_table, lookup_overlayMembers ascending]
      cases found : members.lookup name with
      | none => rfl
      | some e =>
        cases under : lower.lookup name with
        | none =>
          -- Nothing is below, so what the upper table says stands as it is.
          show e.at? path = match e.at? path with | none => none | some e => some e
          cases e.at? path <;> rfl
        | some old => exact ih (ordered _ (mem_of_lookup found)) (inner e found)

/-- Tables laid over tables are tables on the way. -/
theorem tablesOn_overlay (ordered : above.Ordered) (tables : above.TablesOn path)
    (h : below.TablesOn path) : (below.overlay above).TablesOn path := by
  induction path generalizing below above with
  | nil => trivial
  | cons name path ih =>
    obtain ⟨members, rfl, inner⟩ := tables
    obtain ⟨lower, rfl, inner'⟩ := h
    obtain ⟨ascending, ordered⟩ := ordered.of_table
    refine ⟨overlayMembers lower members, overlay_table lower members, fun e he => ?_⟩
    rw [lookup_overlayMembers ascending] at he
    cases found : members.lookup name with
    | none =>
      rw [found] at he
      exact inner' e he
    | some top =>
      rw [found] at he
      cases under : lower.lookup name with
      | none =>
        rw [under] at he
        cases he
        exact inner top found
      | some old =>
        rw [under] at he
        cases he
        exact ih (ordered _ (mem_of_lookup found)) (inner top found) (inner' old under)

/-- If all layers give tables on the way, so does the whole. -/
theorem tablesOn_layered {layers : List Entry} (h : ∀ e ∈ layers, e.Ordered ∧ e.TablesOn path) :
    (layered layers).TablesOn path := by
  induction layers using List.reverseRecOn with
  | nil =>
    cases path with
    | nil => trivial
    | cons name path => exact ⟨[], rfl, nofun⟩
  | append_singleton layers top ih =>
    rw [layered_concat]
    rw [List.forall_mem_append] at h
    obtain ⟨ordered, tables⟩ := h.2 top (List.mem_singleton_self top)
    exact tablesOn_overlay ordered tables (ih h.1)

/-- A path leads to what the highest layer says which says anything there, but for what is inside of
tables. -/
theorem at?_layered {layers : List Entry} (h : ∀ e ∈ layers, e.Ordered ∧ e.TablesOn path)
    (inside : path ≠ []) :
    ((layered layers).at? path).map Entry.emptied =
      (layers.reverse.findSome? (·.at? path)).map Entry.emptied := by
  induction layers using List.reverseRecOn with
  | nil =>
    cases path with
    | nil => exact absurd rfl inside
    | cons name path => rfl
  | append_singleton layers top ih =>
    rw [List.forall_mem_append] at h
    obtain ⟨ordered, tables⟩ := h.2 top (List.mem_singleton_self top)
    rw [layered_concat, at?_overlay ordered tables, List.reverse_concat, List.findSome?_cons]
    cases top.at? path with
    | none => exact ih h.1
    | some e =>
      cases (layered layers).at? path with
      | none => rfl
      | some under => exact congrArg some (emptied_overlay under e)

end FederatedLogin.Settings
