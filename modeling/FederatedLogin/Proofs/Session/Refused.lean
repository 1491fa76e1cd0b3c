import FederatedLogin.Proofs.Session.Lifetime
import FederatedLogin.Proofs.Session.Sweeping

/-!
# Sessions that are not saved

What a refused save leaves of the session store (`save_refused`). If the store refuses the command,
nothing changes. The cookie is made after the command, and fails exactly if the options put a
character into it that a header cannot carry (`exists_cookie_iff`); the session is stored or deleted
by then (`has_iff_of_run_write`), so that a refused save may leave another store behind
(`stored_of_refused`).
-/

namespace FederatedLogin.Session

open Backend

variable {config : Config} {s : Session} {b b' : Backend}

/-! ## The cookie -/

/-- A session has a cookie exactly if its options may stand in a header. -/
theorem exists_cookie_iff (config : Config) (s : Session) :
    (∃ text, cookie config s = .ok text) ↔ config.HeaderSafe := by
  constructor
  · rintro ⟨text, made⟩
    unfold cookie at made
    dsimp only at made
    split at made
    · next all =>
      rw [toList_cookieText, Text.all_join (by decide), List.forall_mem_cons] at all
      obtain ⟨start, rest⟩ := all
      -- What stands in an attribute stands in the cookie.
      have inside {a : String} (ha : a ∈ attributes config s.cookieAge?) {c : Char}
          (hc : c ∈ a.toList) : isHeaderCharacter c = true :=
        List.all_eq_true.1 (rest _ (List.mem_map_of_mem ha)) c (List.mem_cons_of_mem _ hc)
      constructor
      · refine List.all_eq_true.2 fun c hc => List.all_eq_true.1 start c ?_
        simp [String.toList_append, hc]
      · refine List.all_eq_true.2 fun c hc => ?_
        have path : "Path=" ++ config.cookiePath ∈ attributes config s.cookieAge? := by
          simp [attributes]
        exact inside path (by simp [String.toList_append, hc])
      · intro d hd
        refine List.all_eq_true.2 fun c hc => ?_
        have domain : "Domain=" ++ d ∈ attributes config s.cookieAge? := by
          simp [attributes, hd]
        exact inside domain (by simp [String.toList_append, hc])
    · cases made
  · exact fun safe => ⟨_, cookie_of_headerSafe safe s⟩

theorem cookie_error {e : Error} (h : cookie config s = .error e) : ∃ cause, e = .cookie cause := by
  unfold cookie at h
  dsimp only at h
  split at h
  · cases h
  · cases h
    exact ⟨_, rfl⟩

/-- Without such options it is refused. -/
theorem exists_cookie_error (carried : ¬ config.HeaderSafe) (s : Session) :
    ∃ cause, cookie config s = .error (.cookie cause) := by
  cases made : cookie config s with
  | ok text => exact absurd ((exists_cookie_iff config s).1 ⟨text, made⟩) carried
  | error e =>
    obtain ⟨cause, rfl⟩ := cookie_error made
    exact ⟨cause, rfl⟩

/-! ## The command -/

/-- After a session is written, its own entry is there or gone, and the others that have not ended
are as before. -/
theorem has_iff_of_run_write (h : b.run (write config s) = (.ok (.ok ()), b')) {t : Nat}
    (le : b.uptime ≤ t) (k : String) (e : Entry) : b'.sessions.Has t k e ↔
      if key config s.id = k then
        ¬ s.maxAge < 0 ∧ e = ⟨s.values.encode,
          (lifetime? s).map fun seconds => b.uptime + seconds * 1000000000⟩ ∧ e.isLive t = true
      else b.sessions.Has t k e := by
  by_cases ended : s.maxAge < 0
  · rw [write_of_ended ended] at h
    rw [erase_of_answer (answer_of_run_call h), Store.has_erase_iff]
    by_cases same : key config s.id = k
    · rw [if_pos same]
      simp [ended, same]
    · rw [if_neg same]
      simp [Ne.symm same]
  · rw [write_of_live ended] at h
    rw [Store.has_iff_of_store? (store?_of_answer (answer_of_run_call h)) le, Option.map_map]
    simp only [ended, not_false_iff, true_and]
    rfl

/-- The store refuses a session exactly with its failure, and then keeps what it has. -/
theorem of_run_write_error {e : Error} (h : b.run (write config s) = (.ok (.error e), b')) :
    (∃ cause, e = .store cause) ∧ SameStores b b' := by
  cases fault : saveFault? b s.maxAge with
  | some cause =>
    have refused : b.Gives (write config s) _ := gives_write_of_fault fault
    obtain ⟨_, _, run, rfl, same⟩ := refused
    rw [run] at h
    cases h
    exact ⟨⟨cause, rfl⟩, same⟩
  | none =>
    by_cases ends : EndExists b s.maxAge
    · have accepted : b.Gives (write config s) _ := gives_write_of_endExists fault ends
      obtain ⟨_, _, run, rfl, -⟩ := accepted
      rw [run] at h
      cases h
    · obtain ⟨_, run, -⟩ := run_write_of_not_endExists config fault ends
      rw [run] at h
      cases h

/-- The store carries the command out exactly if it has no failure for it and the end of the
lifetime exists. -/
theorem exists_run_write_iff (b : Backend) (config : Config) (s : Session) :
    (∃ b', b.run (write config s) = (.ok (.ok ()), b')) ↔
      saveFault? b s.maxAge = none ∧ EndExists b s.maxAge := by
  constructor
  · rintro ⟨b', ran⟩
    have works : saveFault? b s.maxAge = none := by
      cases fault : saveFault? b s.maxAge with
      | none => rfl
      | some cause =>
        have refused : b.Gives (write config s) _ := gives_write_of_fault fault
        obtain ⟨_, _, run, rfl, -⟩ := refused
        rw [run] at ran
        cases ran
    refine ⟨works, Classical.byContradiction fun late => ?_⟩
    obtain ⟨_, run, -⟩ := run_write_of_not_endExists config works late
    rw [run] at ran
    cases ran
  · rintro ⟨works, ends⟩
    have accepted : b.Gives (write config s) _ := gives_write_of_endExists works ends
    obtain ⟨_, b', run, rfl, -⟩ := accepted
    exact ⟨b', run⟩

/-! ## Refused saves -/

/-- A save is refused by the store, or after the command because there is no cookie. -/
theorem run_save_error {e : Error} (h : b.run (save config s) = (.ok (.error e), b')) :
    ((∃ cause, e = .store cause) ∧ SameStores b b') ∨
      ((∃ cause, e = .cookie cause) ∧ b.run (write config s) = (.ok (.ok ()), b') ∧
        ¬ config.HeaderSafe) := by
  obtain ⟨written, b₁, ran, rest⟩ := exists_of_run_bind h
  cases written with
  | error e' =>
    cases rest
    exact Or.inl (of_run_write_error ran)
  | ok _ =>
    have made : cookie config s = .error e ∧ b₁ = b' := by
      injection rest with result same
      exact ⟨Except.ok.inj result, same⟩
    obtain ⟨refused, rfl⟩ := made
    refine Or.inr ⟨cookie_error refused, ran, fun safe => ?_⟩
    rw [cookie_of_headerSafe safe s] at refused
    cases refused

theorem run_save_of_cookie_error {e : Error} (written : b.run (write config s) = (.ok (.ok ()), b'))
    (refused : cookie config s = .error e) : b.run (save config s) = (.ok (.error e), b') := by
  refine (run_bind written).trans ?_
  show (Except.ok (cookie config s), b') = _
  rw [refused]

/-- A save that is refused for another reason than its cookie leaves the entries that have not ended
as they are. It is refused for its cookie exactly if the store has carried out the command, and the
name, the path or the domain of cookies has a character that a header cannot carry; then the entries
that have not ended are those after the command: the session has the one that was stored, or none if
it has ended, and all others are as before. -/
theorem save_refused (config : Config) (s : Session) (b : Backend) :
    (∀ e b', b.run (save config s) = (.ok (.error e), b') → (∀ cause, e ≠ .cookie cause) →
      ∀ t k entry, b'.sessions.Has t k entry ↔ b.sessions.Has t k entry) ∧
    ((∃ cause b', b.run (save config s) = (.ok (.error (.cookie cause)), b')) ↔
      (saveFault? b s.maxAge = none ∧ EndExists b s.maxAge) ∧ ¬ config.HeaderSafe) ∧
    (∀ cause b', b.run (save config s) = (.ok (.error (.cookie cause)), b') →
      ∀ t, b.uptime ≤ t → ∀ k entry, b'.sessions.Has t k entry ↔
        if key config s.id = k then
          ¬ s.maxAge < 0 ∧ entry = ⟨s.values.encode,
            (lifetime? s).map fun seconds => b.uptime + seconds * 1000000000⟩ ∧
            entry.isLive t = true
        else b.sessions.Has t k entry) := by
  refine ⟨?_, ⟨?_, ?_⟩, ?_⟩
  · intro e b' ran other t k entry
    rcases run_save_error ran with ⟨-, same⟩ | ⟨⟨cause, rfl⟩, -⟩
    · rw [same.sessions]
    · exact absurd rfl (other cause)
  · rintro ⟨cause, b', ran⟩
    rcases run_save_error ran with ⟨⟨_, ⟨⟩⟩, -⟩ | ⟨-, written, refused⟩
    exact ⟨(exists_run_write_iff b config s).1 ⟨b', written⟩, refused⟩
  · rintro ⟨carriedOut, refused⟩
    obtain ⟨b', written⟩ := (exists_run_write_iff b config s).2 carriedOut
    obtain ⟨cause, refused⟩ := exists_cookie_error refused s
    exact ⟨cause, b', run_save_of_cookie_error written refused⟩
  · intro cause b' ran t le k entry
    rcases run_save_error ran with ⟨⟨_, ⟨⟩⟩, -⟩ | ⟨-, written, -⟩
    exact has_iff_of_run_write written le k entry

/-- A store that is down keeps its entries, and a session that has ended loses its entry even if its
cookie is refused. -/
theorem save_refused_of_outage :
    let s : Session := ⟨.ofNat 7, {}, false, 60⟩
    let down : Backend := { clock := default, faults := { store := some "down" } }
    let config : Config := { cookiePath := "/\n" }
    let up : Backend :=
      { clock := default, sessions := ⟨[(key config s.id, ⟨"blob", none⟩)]⟩ }
    (∃ b', down.run (save config s) = (.ok (.error (.store "down")), b') ∧
      ∀ t k entry, b'.sessions.Has t k entry ↔ down.sessions.Has t k entry) ∧
    ∃ cause b', up.run (save config s.finish) = (.ok (.error (.cookie cause)), b') ∧
      ∀ entry, ¬ b'.sessions.Has up.uptime (key config s.id) entry := by
  intro s down config up
  have ended : s.finish.maxAge < 0 := by decide
  constructor
  · have refused : down.Gives (save config s) _ := gives_save_of_fault "down" rfl
    obtain ⟨_, b', run, rfl, -⟩ := refused
    exact ⟨b', run, (save_refused config s down).1 _ b' run nofun⟩
  · obtain ⟨-, arises, leaves⟩ := save_refused config s.finish up
    obtain ⟨cause, b', run⟩ := arises.2
      ⟨⟨rfl, fun positive => absurd positive (by decide)⟩, fun safe => absurd safe.path (by decide)⟩
    refine ⟨cause, b', run, fun entry has => ?_⟩
    have gone := leaves cause b' run _ (Nat.le_refl _) (key config s.finish.id) entry
    rw [if_pos rfl] at gone
    exact (gone.1 has).1 ended

/-- A name of cookies with a line break: the save is refused, but the session is stored. -/
theorem stored_of_refused :
    let config : Config := { cookieName := "a\nb" }
    let s : Session := ⟨.ofNat 7, {}, true, 60⟩
    let b : Backend := { clock := default }
    ∃ cause b', b.run (save config s) = (.ok (.error (.cookie cause)), b') ∧
      ¬ ∀ k entry, b'.sessions.Has b.uptime k entry ↔ b.sessions.Has b.uptime k entry := by
  intro config s b
  obtain ⟨b', written⟩ := (exists_run_write_iff b config s).2 ⟨rfl, fun _ => by decide⟩
  have broken : ¬ config.HeaderSafe := fun safe => absurd safe.name (by decide)
  obtain ⟨cause, refused⟩ := exists_cookie_error broken s
  refine ⟨cause, b', run_save_of_cookie_error written refused, fun same => ?_⟩
  have stored := has_iff_of_run_write written (Nat.le_refl b.uptime) (key config s.id)
    ⟨s.values.encode, (lifetime? s).map fun seconds => b.uptime + seconds * 1000000000⟩
  rw [if_pos rfl] at stored
  have live : ¬ s.maxAge < 0 := by decide
  exact List.not_mem_nil ((same _ _).1 (stored.2 ⟨live, rfl, rfl⟩)).1

end FederatedLogin.Session
