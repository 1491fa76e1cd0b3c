import FederatedLogin.Lookup
import FederatedLogin.Session.Store

/-!
# What a session store holds

Looking a value up removes entries, and storing one adds a single entry. A value that is found was
held under its key (`exists_of_load`), and after a key is removed nothing is held under it
(`not_mem_erase`). While no entry has ended (`Store.Live`), a store is a map that looking up leaves
as it is (`load_of_live`), and that storing and removing change under one key only
(`store?_of_live`, `get?_erase`).
-/

namespace FederatedLogin.Session.Store

variable {s s' : Store} {now : Nat} {key k value : String} {e : Entry}

theorem mem_of_mem_erase (h : (k, e) ∈ (s.erase key).entries) : (k, e) ∈ s.entries :=
  (List.mem_filter.1 h).1

theorem not_mem_erase (s : Store) (key : String) (e : Entry) :
    (key, e) ∉ (s.erase key).entries := by
  intro h
  have other := (List.mem_filter.1 h).2
  simp at other

theorem mem_of_mem_load (h : (k, e) ∈ (s.load now key).2.entries) : (k, e) ∈ s.entries := by
  unfold load at h
  split at h
  · exact h
  · split at h
    · exact h
    · exact mem_of_mem_erase h

/-- A value that is found was held under its key. -/
theorem exists_of_load (h : (s.load now key).1 = some value) :
    ∃ e, (key, e) ∈ s.entries ∧ e.value = value := by
  unfold load at h
  split at h
  · cases h
  · next e he =>
    obtain ⟨before, after, held, -⟩ := List.lookup_eq_some_iff.1 he
    split at h
    · refine ⟨e, ?_, Option.some.inj h⟩
      rw [held]
      exact List.mem_append_right _ List.mem_cons_self
    · cases h

/-- An entry after a value was stored is the new one, or was there before. -/
theorem mem_of_store? {lifetime : Option Nat} (h : s.store? now key value lifetime = some s')
    (he : (k, e) ∈ s'.entries) : (k, e) ∈ s.entries ∨ (k = key ∧ e.value = value) := by
  simp only [store?] at h
  split at h
  · cases h
    -- The new entry stands in front, and those that have ended are gone.
    rcases List.mem_cons.1 he with new | old
    · cases new
      exact .inr ⟨rfl, rfl⟩
    · exact .inl (List.mem_filter.1 (mem_of_mem_erase old)).1
  · cases h

/-! ## Stores without ended entries -/

/-- No entry has ended at the given time. -/
def Live (s : Store) (now : Nat) : Prop := ∀ e ∈ s.entries, e.2.isLive now = true

theorem get?_cons (s : Store) (key k : String) (e : Entry) :
    get? ⟨(key, e) :: s.entries⟩ k = if k = key then some e else s.get? k :=
  lookup_cons_eq_ite k key e s.entries

theorem get?_erase (s : Store) (key k : String) :
    get? (s.erase key) k = if k = key then none else s.get? k :=
  lookup_filter_ne k key s.entries

/-- A value that has not ended is found. -/
theorem load_of_entry (held : s.get? key = some e) (live : e.isLive now = true) :
    s.load now key = (some e.value, s) := by
  unfold load
  rw [held]
  exact if_pos live

theorem load_of_none (absent : s.get? key = none) : s.load now key = (none, s) := by
  unfold load
  rw [absent]

/-- A value that was stored is held under its key. -/
theorem get?_of_store? {lifetime : Option Nat}
    (h : s.store? now key value lifetime = some s') :
    s'.get? key = some ⟨value, lifetime.map (now + ·)⟩ := by
  unfold store? at h
  dsimp only at h
  split at h
  · cases h
    rw [get?_cons, if_pos rfl]
  · cases h

/-- A look finds the values that have not ended. -/
theorem load_eq_some_iff : (s.load now key).1 = some value ↔
    ∃ e, s.get? key = some e ∧ e.isLive now = true ∧ e.value = value := by
  unfold load
  cases s.get? key with
  | none => exact ⟨nofun, nofun⟩
  | some e =>
    by_cases live : e.isLive now = true
    · simp [live]
    · simp [live]

/-- A look leaves the entries that have not ended as they are. -/
theorem live_load (s : Store) (now : Nat) (key k : String) :
    (get? (s.load now key).2 k).filter (·.isLive now)
      = (s.get? k).filter (·.isLive now) := by
  unfold load
  cases found : s.get? key with
  | none => rfl
  | some e =>
    by_cases live : e.isLive now = true
    · simp only [live, if_true]
    · simp only [if_neg live]
      rw [get?_erase]
      by_cases same : k = key
      · subst same
        rw [if_pos rfl, found, Option.filter_none, Option.filter_some, if_neg live]
      · rw [if_neg same]

theorem load_of_live (live : s.Live now) (key : String) :
    s.load now key = ((s.get? key).map Entry.value, s) := by
  unfold load
  cases found : s.get? key with
  | none => rfl
  | some e =>
    obtain ⟨before, after, held, -⟩ := List.lookup_eq_some_iff.1 found
    have isLive : e.isLive now = true := live (key, e) (by rw [held]; simp)
    simp only [isLive, if_true, Option.map_some]

theorem store?_of_live (live : s.Live now) {lifetime : Option Nat}
    (exists_end : ∀ n, lifetime = some n → now + n ≤ latest) (key value : String) :
    s.store? now key value lifetime
      = some ⟨(key, ⟨value, lifetime.map (now + ·)⟩) :: (s.erase key).entries⟩ := by
  have swept : s.sweep now = s := congrArg Store.mk (List.filter_eq_self.2 live)
  have ends : (lifetime.map (now + ·)).all (· ≤ latest) = true := by
    cases lifetime with
    | none => rfl
    | some n => simpa using exists_end n rfl
  unfold store?
  rw [swept]
  exact if_pos ends

theorem Live.erase (live : s.Live now) (key : String) : (s.erase key).Live now := fun e he =>
  live e (mem_of_mem_erase he)

/-- A value that is stored for some time has not ended. -/
theorem Live.store (live : s.Live now) {lifetime : Option Nat} (positive : ∀ n ∈ lifetime, 0 < n)
    (h : s.store? now key value lifetime = some s') : s'.Live now := by
  intro e he
  simp only [store?] at h
  split at h
  · cases h
    rcases List.mem_cons.1 he with rfl | old
    · show (lifetime.map (now + ·)).all (now < ·) = true
      cases lifetime with
      | none => rfl
      | some n => exact decide_eq_true (Nat.lt_add_of_pos_right (positive n rfl))
    · exact live e (List.mem_filter.1 (mem_of_mem_erase old)).1
  · cases h

/-- A value cannot be stored exactly if it has an end that does not exist. -/
theorem store?_eq_none_iff {lifetime : Option Nat} :
    s.store? now key value lifetime = none ↔ ∃ n, lifetime = some n ∧ ¬ now + n ≤ latest := by
  unfold store?
  dsimp only
  cases lifetime with
  | none =>
    rw [Option.map_none, Option.all_none, if_pos rfl]
    exact ⟨nofun, nofun⟩
  | some n =>
    rw [Option.map_some, Option.all_some]
    by_cases inTime : now + n ≤ latest
    · rw [decide_eq_true inTime, if_pos rfl]
      refine ⟨nofun, ?_⟩
      rintro ⟨m, ⟨⟩, late⟩
      exact absurd inTime late
    · rw [decide_eq_false inTime, if_neg (by decide)]
      exact ⟨fun _ => ⟨n, rfl, inTime⟩, fun _ => rfl⟩

end FederatedLogin.Session.Store
