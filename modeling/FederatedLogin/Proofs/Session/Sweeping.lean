import FederatedLogin.Proofs.Session.Store
import Mathlib.Data.List.Induction

/-!
# Entries that are swept away

A session store throws out an entry that has ended when it is looked up, and all of them when a
value is stored. Nobody can tell: the replies to operations at times that do not go back are those
of a map from which nothing goes by itself, and in which an entry does not count from its end on.
What such a map holds under a key depends on the operations on this key only (`held`), and can be
read off the last one that writes there (`Present`). The invariant is that the store has the entries
of the map that have not ended, each under a key of its own (`Agrees`). It is kept by each operation
(`agrees_perform`), and so by all of them one after the other (`run_agrees`). All this is
`sweeping_unobservable`.
-/

namespace FederatedLogin.Session.Store

variable {s s' : Store} {e : Entry} {now t : Nat} {key k value : String}

/-! ## Operations -/

/-- An operation on a store. -/
inductive Operation where
  | load (key : String)
  | store (key value : String) (lifetime : Option Nat)
  | delete (key : String)
  | size
  | isEmpty
  deriving DecidableEq, Repr

/-- What comes back from an operation. -/
inductive Reply where
  | found (value : Option String)
  | done
  | count (n : Nat)
  | answer (empty : Bool)
  deriving DecidableEq, Repr

/-- The operation is on a key. -/
def Operation.isOn (key : String) : Operation → Bool
  | load k => k = key
  | store k _ _ => k = key
  | delete k => k = key
  | size => false
  | isEmpty => false

/-- The operation writes under a key: it stores a value there or deletes what is there. -/
def Operation.writes (key : String) : Operation → Bool
  | store k _ _ => k = key
  | delete k => k = key
  | _ => false

/-- The reply to an operation, and the store after it. There is none if a value is stored with an
end that does not exist. -/
def perform (s : Store) (now : Nat) : Operation → Option (Reply × Store)
  | .load key => some (.found (s.load now key).1, (s.load now key).2)
  | .store key value lifetime => (s.store? now key value lifetime).map fun s => (.done, s)
  | .delete key => some (.done, s.erase key)
  | .size => some (.count (s.size now), s)
  | .isEmpty => some (.answer (s.isEmpty now), s)

/-- Operations with the time of each, the first one first. -/
abbrev Timeline := List (Nat × Operation)

/-- The replies to operations one after the other, and the store after them. -/
def run (s : Store) : Timeline → Option (List Reply × Store)
  | [] => some ([], s)
  | (now, op) :: ops => do
    let (reply, s) ← s.perform now op
    let (replies, s) ← s.run ops
    some (reply :: replies, s)

/-- The times do not go back, and each value that is stored has an end that exists, or none. -/
structure Timely (ops : Timeline) : Prop where
  ordered : ops.Pairwise fun o o' => o.1 ≤ o'.1
  exists_end : ∀ now key value n, (now, .store key value (some n)) ∈ ops → now + n ≤ latest

/-! ## The map -/

/-- A value is present under a key at a time: the last operation that writes there has stored it,
and it has not ended. -/
def Present (ops : Timeline) (t : Nat) (key value : String) : Prop :=
  ∃ before now lifetime after, ops = before ++ (now, .store key value lifetime) :: after ∧
    (∀ o ∈ after, o.2.writes key = false) ∧ ∀ n, lifetime = some n → t < now + n

/-- What an operation makes of the entry under a key. -/
def Operation.change (key : String) (now : Nat) (e : Option Entry) : Operation → Option Entry
  | store k value lifetime => if k = key then some ⟨value, lifetime.map (now + ·)⟩ else e
  | delete k => if k = key then none else e
  | _ => e

/-- The entry under a key in a map from which nothing goes by itself. -/
def held (ops : Timeline) (key : String) : Option Entry :=
  ops.foldl (fun e o => o.2.change key o.1 e) none

/-- The map after one more operation is the map before, with what the operation changes. -/
theorem held_concat (ops : Timeline) (now : Nat) (op : Operation) (key : String) :
    held (ops ++ [(now, op)]) key = op.change key now (held ops key) := by
  unfold held
  rw [List.foldl_append]
  rfl

/-- An operation that does not write under a key leaves what is there. -/
theorem Operation.change_of_not_writes {op : Operation} (h : op.writes key = false) (now : Nat)
    (e : Option Entry) : op.change key now e = e := by
  cases op with
  | store k value lifetime => exact if_neg (of_decide_eq_false h)
  | delete k => exact if_neg (of_decide_eq_false h)
  | load | size | isEmpty => rfl

/-- Operations that do not write under a key leave what is there. -/
theorem held_append_of_not_writes {after : Timeline} (h : ∀ o ∈ after, o.2.writes key = false)
    (before : Timeline) : held (before ++ after) key = held before key := by
  induction after generalizing before with
  | nil => rw [List.append_nil]
  | cons o after ih =>
    obtain ⟨now, op⟩ := o
    have same := ih (fun o ho => h o (List.mem_cons_of_mem _ ho)) (before ++ [(now, op)])
    rw [List.append_assoc, List.singleton_append] at same
    rw [same, held_concat]
    exact Operation.change_of_not_writes (h (now, op) List.mem_cons_self) now _

/-- An entry is held if it was put there by the last operation that writes under the key. -/
theorem held_eq_some_iff {ops : Timeline} : held ops key = some e ↔
    ∃ before now lifetime after, ops = before ++ (now, .store key e.value lifetime) :: after ∧
      (∀ o ∈ after, o.2.writes key = false) ∧ e.ends = lifetime.map (now + ·) := by
  constructor
  · intro h
    induction ops using List.reverseRecOn with
    | nil => cases h
    | append_singleton ops o ih =>
      obtain ⟨now, op⟩ := o
      rw [held_concat] at h
      by_cases writes : op.writes key = true
      · cases op with
        | store k value lifetime =>
          have same : k = key := of_decide_eq_true writes
          subst same
          rw [Operation.change, if_pos rfl] at h
          cases h
          exact ⟨ops, now, lifetime, [], rfl, nofun, rfl⟩
        | delete k =>
          rw [Operation.change, if_pos (of_decide_eq_true writes)] at h
          cases h
        | load | size | isEmpty => cases writes
      · have quiet : op.writes key = false := Bool.eq_false_iff.2 writes
        rw [Operation.change_of_not_writes quiet] at h
        obtain ⟨before, u, lifetime, after, rfl, last, ends⟩ := ih h
        refine ⟨before, u, lifetime, after ++ [(now, op)], ?_, ?_, ends⟩
        · rw [List.append_assoc, List.cons_append]
        · intro o ho
          rcases List.mem_append.1 ho with old | new
          · exact last o old
          · rw [List.mem_singleton.1 new]
            exact quiet
  · rintro ⟨before, now, lifetime, after, rfl, last, ends⟩
    rw [← List.singleton_append, ← List.append_assoc, held_append_of_not_writes last, held_concat,
      Operation.change, if_pos rfl, ← ends]

/-- An entry has not ended before its end, if it has one. -/
theorem isLive_iff : e.isLive t = true ↔ ∀ u, e.ends = some u → t < u := by
  unfold Entry.isLive
  rw [Option.all_eq_true]
  exact forall₂_congr fun u _ => decide_eq_true_iff

/-- A value is present if it is that of the entry that is held, and this has not ended. -/
theorem present_iff {ops : Timeline} : Present ops t key value ↔
    ∃ e, held ops key = some e ∧ e.isLive t = true ∧ e.value = value := by
  constructor
  · rintro ⟨before, now, lifetime, after, split, last, live⟩
    refine ⟨⟨value, lifetime.map (now + ·)⟩,
      held_eq_some_iff.2 ⟨before, now, lifetime, after, split, last, rfl⟩, isLive_iff.2 ?_, rfl⟩
    intro u ends
    obtain ⟨n, given, rfl⟩ := Option.map_eq_some_iff.1 ends
    exact live n given
  · rintro ⟨e, held, live, rfl⟩
    obtain ⟨before, now, lifetime, after, split, last, ends⟩ := held_eq_some_iff.1 held
    refine ⟨before, now, lifetime, after, split, last, ?_⟩
    intro n given
    apply isLive_iff.1 live
    rw [ends, given, Option.map_some]

/-- What is held under a key depends on the operations on this key only. -/
theorem held_filter (ops : Timeline) (key : String) :
    held (ops.filter fun o => o.2.isOn key) key = held ops key := by
  induction ops using List.reverseRecOn with
  | nil => rfl
  | append_singleton ops o ih =>
    obtain ⟨now, op⟩ := o
    rw [List.filter_append, held_concat]
    by_cases on : op.isOn key = true
    · have kept : [(now, op)].filter (fun o => o.2.isOn key) = [(now, op)] := by simp [on]
      rw [kept, held_concat, ih]
    · have quiet : op.writes key = false := by
        cases op with
        | store | delete => exact Bool.eq_false_iff.2 on
        | load | size | isEmpty => rfl
      have dropped : [(now, op)].filter (fun o => o.2.isOn key) = [] := by simp [on]
      rw [dropped, List.append_nil, ih, Operation.change_of_not_writes quiet]

/-! ## The store and the map -/

/-- An entry of the store that has not ended. -/
def Has (s : Store) (t : Nat) (key : String) (e : Entry) : Prop :=
  (key, e) ∈ s.entries ∧ e.isLive t = true

/-- No two entries have the same key. -/
def Distinct (s : Store) : Prop := (s.entries.map Prod.fst).Nodup

/-- From a time on, the store has the entries that the map holds and that have not ended. -/
structure Agrees (ops : Timeline) (now : Nat) (s : Store) : Prop where
  distinct : s.Distinct
  has_iff : ∀ t, now ≤ t → ∀ key e, s.Has t key e ↔ held ops key = some e ∧ e.isLive t = true

/-- A store that agrees with the map from a time on does so from any later time on. -/
theorem Agrees.mono {ops : Timeline} (h : s.Agrees ops now) (later : now ≤ t) : s.Agrees ops t :=
  ⟨h.distinct, fun u hu => h.has_iff u (Nat.le_trans later hu)⟩

theorem isLive_of_le (live : e.isLive t = true) (le : now ≤ t) : e.isLive now = true := by
  rw [isLive_iff] at live ⊢
  intro u ends
  have := live u ends
  omega

/-- Under distinct keys, what is found under a key is what the store has there. -/
theorem get?_eq_some_iff (distinct : s.Distinct) :
    s.get? key = some e ↔ (key, e) ∈ s.entries := by
  unfold get?
  rw [List.lookup_eq_some_iff]
  constructor
  · rintro ⟨before, after, split, -⟩
    rw [split]
    exact List.mem_append_right _ List.mem_cons_self
  · intro he
    obtain ⟨before, after, split⟩ := List.append_of_mem he
    refine ⟨before, after, split, ?_⟩
    intro o ho
    -- An entry before it under the same key would be a second one.
    rw [Distinct, split, List.map_append, List.map_cons, List.nodup_append] at distinct
    have other := distinct.2.2 o.1 (List.mem_map_of_mem ho) key List.mem_cons_self
    simpa using other.symm

theorem Distinct.filter (distinct : s.Distinct) (p : String × Entry → Bool) :
    Distinct ⟨s.entries.filter p⟩ :=
  List.Nodup.sublist (List.filter_sublist.map Prod.fst) distinct

/-- After a key is erased, the store has the entries of the other keys. -/
theorem has_erase_iff : (s.erase key).Has t k e ↔ k ≠ key ∧ s.Has t k e := by
  unfold Has erase
  rw [List.mem_filter, decide_eq_true_iff, and_assoc, and_left_comm]

/-- From the time of a sweep on, the store has the entries that it had. -/
theorem has_sweep_iff (le : now ≤ t) : (s.sweep now).Has t k e ↔ s.Has t k e := by
  unfold Has sweep
  rw [List.mem_filter]
  constructor
  · rintro ⟨⟨he, -⟩, live⟩
    exact ⟨he, live⟩
  · rintro ⟨he, live⟩
    exact ⟨⟨he, isLive_of_le live le⟩, live⟩

/-- A look finds the value of the entry that has not ended. -/
theorem load_eq_some_iff_has (distinct : s.Distinct) :
    (s.load now key).1 = some value ↔ ∃ e, s.Has now key e ∧ e.value = value := by
  rw [load_eq_some_iff]
  refine exists_congr fun e => ?_
  rw [get?_eq_some_iff distinct, ← and_assoc]
  rfl

/-- A look for a value keeps the keys distinct. -/
theorem distinct_load (distinct : s.Distinct) (now : Nat) (key : String) :
    (s.load now key).2.Distinct := by
  unfold load
  split
  · exact distinct
  · split
    · exact distinct
    · exact distinct.filter _

/-- A look leaves the entries that have not ended as they are. -/
theorem has_load_iff (distinct : s.Distinct) (le : now ≤ t) :
    (s.load now key).2.Has t k e ↔ s.Has t k e := by
  unfold load
  cases found : s.get? key with
  | none => exact Iff.rfl
  | some e' =>
    by_cases live : e'.isLive now = true
    · simp only [live, if_true]
    · simp only [if_neg live]
      rw [has_erase_iff]
      refine ⟨And.right, ?_⟩
      intro has
      refine ⟨?_, has⟩
      rintro rfl
      -- The only entry under the key has ended, and stays so.
      cases found.symm.trans ((get?_eq_some_iff distinct).2 has.1)
      exact live (isLive_of_le has.2 le)

/-- The entries that have not ended are the new one and those under other keys. -/
theorem has_iff_of_store? {lifetime : Option Nat} (h : s.store? now key value lifetime = some s')
    (le : now ≤ t) : s'.Has t k e ↔
      if key = k then e = ⟨value, lifetime.map (now + ·)⟩ ∧ e.isLive t = true else s.Has t k e := by
  unfold store? at h
  dsimp only at h
  split at h
  · cases h
    have rest : ((s.sweep now).erase key).Has t k e ↔ k ≠ key ∧ s.Has t k e := by
      rw [has_erase_iff, has_sweep_iff le]
    unfold Has at rest ⊢
    rw [List.mem_cons, or_and_right, rest, Prod.mk.injEq]
    by_cases same : key = k
    · rw [if_pos same]
      simp [same]
    · rw [if_neg same]
      simp [Ne.symm same]
  · cases h

/-- Storing a value keeps the keys distinct. -/
theorem distinct_of_store? {lifetime : Option Nat} (distinct : s.Distinct)
    (h : s.store? now key value lifetime = some s') : s'.Distinct := by
  unfold store? at h
  dsimp only at h
  split at h
  · cases h
    unfold Distinct
    rw [List.map_cons, List.nodup_cons]
    refine ⟨?_, (distinct.filter _).filter _⟩
    intro again
    obtain ⟨o, ho, same⟩ := List.mem_map.1 again
    exact of_decide_eq_true (List.mem_filter.1 ho).2 same
  · cases h

/-! ## Replies -/

/-- The reply is that of a map from which nothing goes by itself, after the given operations. -/
inductive Right (ops : Timeline) (now : Nat) : Operation → Reply → Prop
  | load {key : String} {found : Option String} :
      (∀ value, found = some value ↔ Present ops now key value) →
      Right ops now (.load key) (.found found)
  | store {key value : String} {lifetime : Option Nat} :
      Right ops now (.store key value lifetime) .done
  | delete {key : String} : Right ops now (.delete key) .done
  | size (keys : List String) :
      keys.Nodup → (∀ key, key ∈ keys ↔ ∃ value, Present ops now key value) →
      Right ops now .size (.count keys.length)
  | isEmpty {empty : Bool} :
      (empty = true ↔ ∀ key value, ¬ Present ops now key value) →
      Right ops now .isEmpty (.answer empty)

/-- The store has just the values that are present. -/
theorem Agrees.present_iff {ops : Timeline} (h : s.Agrees ops now) (le : now ≤ t) :
    Present ops t key value ↔ ∃ e, s.Has t key e ∧ e.value = value := by
  rw [Store.present_iff]
  refine exists_congr fun e => ?_
  rw [h.has_iff t le, and_assoc]

/-- The keys of the entries that have not ended. -/
def liveKeys (s : Store) (now : Nat) : List String :=
  (s.entries.filter fun e => e.2.isLive now).map Prod.fst

/-- The size of a store is the number of keys whose entries have not ended. -/
theorem length_liveKeys (s : Store) (now : Nat) : (s.liveKeys now).length = s.size now :=
  List.length_map _

/-- The keys that have not ended are those with a present value. -/
theorem Agrees.mem_liveKeys_iff {ops : Timeline} (h : s.Agrees ops now) :
    key ∈ s.liveKeys now ↔ ∃ value, Present ops now key value := by
  unfold liveKeys
  rw [List.mem_map]
  constructor
  · rintro ⟨⟨k, e⟩, ho, rfl⟩
    exact ⟨e.value, h.present_iff (Nat.le_refl _) |>.2 ⟨e, List.mem_filter.1 ho, rfl⟩⟩
  · rintro ⟨value, present⟩
    obtain ⟨e, has, -⟩ := (h.present_iff (Nat.le_refl _)).1 present
    exact ⟨(key, e), List.mem_filter.2 has, rfl⟩

/-- An operation at a later time comes to an end, its reply is right, and the store agrees with the
map as before. -/
theorem agrees_perform {ops : Timeline} (op : Operation) (h : s.Agrees ops now)
    (inTime : ∀ key value n, op = .store key value (some n) → now + n ≤ latest) :
    ∃ reply s', s.perform now op = some (reply, s') ∧ Right ops now op reply ∧
      s'.Agrees (ops ++ [(now, op)]) now := by
  cases op with
  | load key =>
    refine ⟨_, _, rfl, .load ?_, distinct_load h.distinct now key, ?_⟩
    · intro value
      rw [load_eq_some_iff_has h.distinct, h.present_iff (Nat.le_refl _)]
    · intro t le k e
      rw [has_load_iff h.distinct le, h.has_iff t le, held_concat]
      rfl
  | store key value lifetime =>
    cases stored : s.store? now key value lifetime with
    | none =>
      obtain ⟨n, given, late⟩ := store?_eq_none_iff.1 stored
      subst given
      exact absurd (inTime key value n rfl) late
    | some s' =>
      refine ⟨.done, s', ?_, .store, distinct_of_store? h.distinct stored, ?_⟩
      · show (s.store? now key value lifetime).map _ = _
        rw [stored]
        rfl
      · intro t le k e
        rw [has_iff_of_store? stored le, held_concat, Operation.change]
        by_cases same : key = k
        · rw [if_pos same, if_pos same, Option.some.injEq, eq_comm]
        · rw [if_neg same, if_neg same, h.has_iff t le]
  | delete key =>
    refine ⟨_, _, rfl, .delete, h.distinct.filter _, ?_⟩
    intro t le k e
    rw [has_erase_iff, h.has_iff t le, held_concat, Operation.change]
    by_cases same : key = k
    · rw [if_pos same]
      simp [same]
    · rw [if_neg same]
      simp [Ne.symm same]
  | size =>
    refine ⟨_, _, rfl, ?_, h.distinct, ?_⟩
    · rw [← length_liveKeys]
      exact .size _ (h.distinct.filter _) fun key => h.mem_liveKeys_iff
    · intro t le k e
      rw [h.has_iff t le, held_concat]
      rfl
  | isEmpty =>
    refine ⟨_, _, rfl, .isEmpty ?_, h.distinct, ?_⟩
    · rw [isEmpty, decide_eq_true_iff, ← length_liveKeys, List.length_eq_zero_iff,
        List.eq_nil_iff_forall_not_mem]
      refine forall_congr' fun key => ?_
      rw [h.mem_liveKeys_iff, not_exists]
    · intro t le k e
      rw [h.has_iff t le, held_concat]
      rfl

/-- All operations come to an end, each reply is right, and the store agrees with the map after them
all. -/
theorem run_agrees {past ops : Timeline} (h : s.Agrees past now) (timely : Timely ops)
    (later : ∀ o ∈ ops, now ≤ o.1) :
    ∃ replies s', s.run ops = some (replies, s') ∧ replies.length = ops.length ∧
      (∀ before t op after, ops = before ++ (t, op) :: after →
        ∃ reply, replies[before.length]? = some reply ∧ Right (past ++ before) t op reply) ∧
      ∀ t, now ≤ t → (∀ o ∈ ops, o.1 ≤ t) → s'.Agrees (past ++ ops) t := by
  induction ops generalizing s past now with
  | nil =>
    refine ⟨[], s, rfl, rfl, ?_, ?_⟩
    · intro before t op after split
      cases before <;> cases split
    · intro t le _
      rw [List.append_nil]
      exact h.mono le
  | cons o ops ih =>
    obtain ⟨u, op⟩ := o
    have first := List.pairwise_cons.1 timely.ordered
    have there : now ≤ u := later (u, op) List.mem_cons_self
    obtain ⟨reply, s₁, performed, right, agrees⟩ := agrees_perform op (h.mono there) (by
      rintro key value n rfl
      exact timely.exists_end u key value n List.mem_cons_self)
    obtain ⟨replies, s', ran, length, rights, agrees'⟩ := ih agrees
      ⟨first.2, fun now key value n ho => timely.exists_end now key value n
        (List.mem_cons_of_mem _ ho)⟩ first.1
    refine ⟨reply :: replies, s', ?_, congrArg Nat.succ length, ?_, ?_⟩
    · show ((s.perform u op).bind fun r => (r.2.run ops).bind fun r' =>
        some (r.1 :: r'.1, r'.2)) = _
      rw [performed, Option.bind_some, ran]
      rfl
    · intro before t op' after split
      cases before with
      | nil =>
        cases split
        refine ⟨reply, rfl, ?_⟩
        rw [List.append_nil]
        exact right
      | cons o before =>
        cases split
        obtain ⟨reply', there, right'⟩ := rights before t op' after rfl
        refine ⟨reply', there, ?_⟩
        rw [List.append_assoc, List.singleton_append] at right'
        exact right'
    · intro t le upTo
      have last := agrees' t (upTo (u, op) List.mem_cons_self) fun o ho =>
        upTo o (List.mem_cons_of_mem _ ho)
      rw [List.append_assoc, List.singleton_append] at last
      exact last

/-- Before any operation the store and the map are empty. -/
theorem agrees_empty : Agrees [] 0 {} where
  distinct := List.nodup_nil
  has_iff := by
    intro t _ key e
    constructor
    · rintro ⟨he, -⟩
      cases he
    · rintro ⟨⟨⟩, -⟩

theorem Timely.filter {ops : Timeline} (timely : Timely ops) (p : Nat × Operation → Bool) :
    Timely (ops.filter p) where
  ordered := timely.ordered.filter p
  exists_end now key value n ho := timely.exists_end now key value n (List.mem_filter.1 ho).1

/-- On an empty store, operations at times that do not go back come to an end. Each reply is that of
a map from which nothing goes by itself. And what is found under a key afterwards is the same as if
only the operations on this key had been there. -/
theorem sweeping_unobservable (ops : Timeline) (timely : Timely ops) :
    ∃ replies s, run {} ops = some (replies, s) ∧ replies.length = ops.length ∧
      (∀ before now op after, ops = before ++ (now, op) :: after →
        ∃ reply, replies[before.length]? = some reply ∧ Right before now op reply) ∧
      ∀ key, ∃ replies' s', run {} (ops.filter fun o => o.2.isOn key) = some (replies', s') ∧
        ∀ now, (∀ o ∈ ops, o.1 ≤ now) → (s.load now key).1 = (s'.load now key).1 := by
  obtain ⟨replies, s, ran, length, rights, agrees⟩ :=
    run_agrees agrees_empty timely fun _ _ => Nat.zero_le _
  refine ⟨replies, s, ran, length, rights, ?_⟩
  intro key
  obtain ⟨replies', s', ran', -, -, agrees'⟩ :=
    run_agrees agrees_empty (timely.filter fun o => o.2.isOn key) fun _ _ => Nat.zero_le _
  refine ⟨replies', s', ran', ?_⟩
  intro now upTo
  have all := agrees now (Nat.zero_le _) upTo
  have some := agrees' now (Nat.zero_le _) fun o ho => upTo o (List.mem_filter.1 ho).1
  apply Option.ext
  intro value
  rw [load_eq_some_iff_has all.distinct, load_eq_some_iff_has some.distinct]
  refine exists_congr fun e => and_congr_left fun _ => ?_
  rw [all.has_iff now (Nat.le_refl _), some.has_iff now (Nat.le_refl _)]
  show held ops key = _ ∧ _ ↔ held (ops.filter fun o => o.2.isOn key) key = _ ∧ _
  rw [held_filter]

/-- A value is overwritten by one with a shorter lifetime, and looked for just before that ends and
right then. -/
def overwriting : Timeline :=
  [(0, .store "a" "long" (some 50)), (0, .store "b" "other" none), (3, .store "a" "short" (some 2)),
   (4, .load "a"), (5, .load "a"), (5, .size), (6, .delete "b"), (6, .isEmpty)]

/-- At its end the shorter value is gone, and the longer one does not come back. -/
theorem sweeping_unobservable_overwriting :
    Timely overwriting ∧ ∃ s, run {} overwriting = some
        ([.done, .done, .done, .found (some "short"), .found none, .count 1, .done, .answer true],
          s) ∧
      Present (overwriting.take 3) 4 "a" "short" ∧
      ∀ value, ¬ Present (overwriting.take 4) 5 "a" value := by
  have timely : Timely overwriting := by
    refine ⟨by decide, ?_⟩
    intro now key value n there
    simp only [overwriting, List.mem_cons, Prod.mk.injEq, Operation.store.injEq] at there
    unfold latest
    rcases there with ⟨rfl, -, -, ⟨⟩⟩ | ⟨-, -, -, ⟨⟩⟩ | ⟨rfl, -, -, ⟨⟩⟩ | there
    · decide
    · decide
    · simp at there
  obtain ⟨replies, s, ran, -, rights, -⟩ := sweeping_unobservable overwriting timely
  have evaluated : (run {} overwriting).map Prod.fst = some
      [.done, .done, .done, .found (some "short"), .found none, .count 1, .done, .answer true] := by
    decide
  rw [ran] at evaluated
  cases evaluated
  obtain ⟨_, ⟨⟩, ⟨before⟩⟩ := rights (overwriting.take 3) 4 (.load "a") (overwriting.drop 4) rfl
  obtain ⟨_, ⟨⟩, ⟨ended⟩⟩ := rights (overwriting.take 4) 5 (.load "a") (overwriting.drop 5) rfl
  refine ⟨timely, s, ran, (before "short").1 rfl, ?_⟩
  intro value present
  cases (ended value).2 present

end FederatedLogin.Session.Store
