import FederatedLogin.Proofs.Backend.Frame
import FederatedLogin.Proofs.Session.Refinement

/-!
# Saving one session

Whether a session is saved is settled before it is: by the failure that the session store has for
the call that saves it (`saveFault?`), and by the end of its lifetime (`EndExists`). In each of the
three cases the run is known (`gives_save_of_fault`, `gives_save_of_endExists`,
`run_save_of_not_endExists`), and only a session that is saved changes the session store. A session
that has ended loses its entry (`gives_save_of_ended`); otherwise its values are there afterwards
(`entry_of_run_write`).
-/

namespace FederatedLogin.Session

open Backend

variable {config : Config} {s : Session} {b b' : Backend} {maxAge : Int}

/-- The failure met when a session with the lifetime is saved. A session that has ended is deleted
instead of stored. -/
def saveFault? (b : Backend) (maxAge : Int) : Option String :=
  if maxAge < 0 then b.faults.delete else b.faults.store

/-- The end of a session with the lifetime exists. A lifetime of zero has no end. -/
def EndExists (b : Backend) (maxAge : Int) : Prop :=
  0 < maxAge → b.uptime + maxAge.toNat * 1000000000 ≤ Store.latest

theorem saveFault?_of_steady (steady : Steady b b') :
    saveFault? b' maxAge = saveFault? b maxAge := by
  unfold saveFault?
  rw [steady.store, steady.delete]

theorem endExists_of_steady (steady : Steady b b') :
    EndExists b' maxAge ↔ EndExists b maxAge := by
  unfold EndExists
  rw [steady.uptime]

theorem write_of_ended (ended : s.maxAge < 0) :
    write config s = call (.deleteSession (key config s.id)) :=
  if_pos (decide_eq_true ended)

theorem write_of_live (live : ¬ s.maxAge < 0) :
    write config s = call (.storeSession (key config s.id) s.values.encode (lifetime? s)) :=
  if_neg fun ended => live (of_decide_eq_true ended)

/-- A session that the store fails to save leaves everything as it is. -/
theorem gives_write_of_fault {cause : String} (fault : saveFault? b s.maxAge = some cause) :
    b.Gives (write config s) fun r b' => r = .error (.store cause) ∧ SameStores b b' := by
  unfold saveFault? at fault
  by_cases ended : s.maxAge < 0
  · rw [if_pos ended] at fault
    rw [write_of_ended ended]
    have failed : (b.record (.deleteSession (key config s.id))).deleteSession (key config s.id)
        = (.error (.store cause), b.record (.deleteSession (key config s.id))) := by
      simp only [deleteSession, (steady_record b _).delete, fault]
    exact gives_of_point? rfl (congrArg Except.ok failed) ⟨rfl, sameStores_record b _⟩
  · rw [if_neg ended] at fault
    rw [write_of_live ended]
    have failed (c : Call) : (b.record c).storeSession (key config s.id) s.values.encode
        (lifetime? s) = .ok (.error (.store cause), b.record c) := by
      simp only [storeSession, (steady_record b _).store, fault]
    exact gives_of_point? rfl (failed _) ⟨rfl, sameStores_record b _⟩

/-- There is an end for the values of a session exactly if there is one for its lifetime. -/
theorem endExists_iff : EndExists b s.maxAge ↔
    ∀ n, (lifetime? s).map (· * 1000000000) = some n → b.uptime + n ≤ Store.latest := by
  unfold EndExists lifetime?
  by_cases positive : 0 < s.maxAge
  · rw [if_pos positive]
    refine ⟨?_, fun ends _ => ends _ rfl⟩
    rintro ends _ ⟨⟩
    exact ends positive
  · rw [if_neg positive]
    exact ⟨fun _ _ none => (nomatch none), fun _ p => absurd p positive⟩

theorem store?_eq_none_iff (key value : String) :
    b.sessions.store? b.uptime key value ((lifetime? s).map (· * 1000000000)) = none ↔
      ¬ EndExists b s.maxAge := by
  rw [Store.store?_eq_none_iff, endExists_iff]
  simp only [Classical.not_forall, exists_prop]

/-- The values of a session that has ended are deleted. -/
theorem gives_write_of_ended (ended : s.maxAge < 0) (works : b.faults.delete = none) :
    b.Gives (write config s) fun r b' =>
      r = .ok () ∧ b'.tables = b.tables ∧ b'.sessions = b.sessions.erase (key config s.id) := by
  rw [write_of_ended ended]
  have deleted (c : Call) : (b.record c).deleteSession (key config s.id)
      = (.ok (), { b.record c with sessions := b.sessions.erase (key config s.id) }) :=
    deleteSession_of_works ((steady_record b c).delete.trans works) _
  exact gives_of_point? rfl (congrArg Except.ok (deleted _)) ⟨rfl, rfl, rfl⟩

/-- A session is saved, if its end exists. -/
theorem gives_write_of_endExists (works : saveFault? b s.maxAge = none)
    (ends : EndExists b s.maxAge) :
    b.Gives (write config s) fun r b' => r = .ok () ∧ b'.tables = b.tables := by
  unfold saveFault? at works
  by_cases ended : s.maxAge < 0
  · rw [if_pos ended] at works
    refine (gives_write_of_ended ended works).mono ?_
    rintro r b' ⟨written, tables, -⟩
    exact ⟨written, tables⟩
  · rw [if_neg ended] at works
    rw [write_of_live ended]
    obtain ⟨store, stored⟩ := Option.ne_none_iff_exists'.1 fun none =>
      (store?_eq_none_iff (key config s.id) s.values.encode).1 none ends
    have saved (c : Call) : (b.record c).storeSession (key config s.id) s.values.encode
        (lifetime? s) = .ok (.ok (), { b.record c with sessions := store }) := by
      refine storeSession_of_store? ((steady_record b c).store.trans works) ?_
      rw [(steady_record b c).uptime, record_sessions]
      exact stored
    exact gives_of_point? rfl (saved _) ⟨rfl, rfl⟩

/-- The run stops when a session would be saved whose end does not exist. -/
theorem run_write_of_not_endExists (config : Config) (works : saveFault? b s.maxAge = none)
    (late : ¬ EndExists b s.maxAge) :
    ∃ b', b.run (write config s) = (.error .clockOverflow, b') ∧ SameStores b b' := by
  unfold saveFault? at works
  have live : ¬ s.maxAge < 0 := fun ended => late fun positive => by omega
  rw [if_neg live] at works
  rw [write_of_live live]
  have none := (store?_eq_none_iff (key config s.id) s.values.encode).2 late
  have stops (c : Call) : (b.record c).storeSession (key config s.id) s.values.encode
      (lifetime? s) = .error .clockOverflow := by
    have record := steady_record b c
    simp only [storeSession, record.store, works, record.uptime, record_sessions, none]
  exact ⟨_, run_call_of_halt ((answer_of_point? b rfl).trans (stops _)), sameStores_record b _⟩

theorem gives_save_of_fault (cause : String) (fault : saveFault? b s.maxAge = some cause) :
    b.Gives (save config s) fun r b' => r = .error (.store cause) ∧ SameStores b b' := by
  refine Gives.bind ((gives_write_of_fault fault).mono fun r b' => ?_)
  rintro ⟨rfl, same⟩
  exact gives_pure ⟨rfl, same⟩

theorem gives_save_of_endExists (safe : config.HeaderSafe) (works : saveFault? b s.maxAge = none)
    (ends : EndExists b s.maxAge) :
    b.Gives (save config s) fun r b' => r = .ok (cookieText config s) ∧ b'.tables = b.tables := by
  refine Gives.bind ((gives_write_of_endExists works ends).mono fun r b' => ?_)
  rintro ⟨rfl, same⟩
  exact gives_pure ⟨cookie_of_headerSafe safe s, same⟩

/-- Saving a session that has ended removes its entry. -/
theorem gives_save_of_ended (safe : config.HeaderSafe) (ended : s.maxAge < 0)
    (works : b.faults.delete = none) :
    b.Gives (save config s) fun r b' => r = .ok (cookieText config s) ∧ b'.tables = b.tables ∧
      b'.sessions = b.sessions.erase (key config s.id) := by
  refine Gives.bind ((gives_write_of_ended ended works).mono fun r b' => ?_)
  rintro ⟨rfl, same⟩
  exact gives_pure ⟨cookie_of_headerSafe safe s, same⟩

theorem run_save_of_not_endExists (works : saveFault? b s.maxAge = none)
    (late : ¬ EndExists b s.maxAge) :
    ∃ b', b.run (save config s) = (.error .clockOverflow, b') ∧ SameStores b b' := by
  obtain ⟨b', run, same⟩ := run_write_of_not_endExists config works late
  exact ⟨b', run_bind_of_halt run, same⟩

/-- A new session is a fresh one, and nothing is stored for it. -/
theorem gives_create_fresh (b : Backend) (config : Config) :
    b.Gives (create config) fun session b' => (∃ id, session = fresh config id) ∧
      SameStores b b' ∧ Steady b b' :=
  Gives.bind ⟨_, _, run_call (c := .newSessionId) rfl,
    gives_pure ⟨⟨_, rfl⟩, ⟨rfl, rfl, rfl⟩, ⟨rfl, rfl, rfl⟩⟩⟩

/-- A new session has the lifetime of the options. -/
theorem gives_create_unsaved (b : Backend) (config : Config) :
    b.Gives (create config) fun session b' => session.maxAge = config.maxAge ∧
      SameStores b b' ∧ Steady b b' := by
  refine (gives_create_fresh b config).mono ?_
  rintro _ b' ⟨⟨id, rfl⟩, created⟩
  exact ⟨rfl, created⟩

/-! ## What a saved session leaves -/

theorem of_run_save {text : String} (h : b.run (save config s) = (.ok (.ok text), b')) :
    b.run (write config s) = (.ok (.ok ()), b') ∧ cookie config s = .ok text := by
  obtain ⟨written, b₁, ran, rest⟩ := exists_of_run_bind h
  cases written with
  | error e => cases rest
  | ok _ =>
    have given : (cookie config s, b₁) = (.ok text, b') := by
      injection rest with result same
      rw [Except.ok.inj result, same]
    injection given with cookie same
    rw [← same]
    exact ⟨ran, cookie⟩

/-- Saving a session leaves users and links alone. -/
theorem tables_of_run_write (h : b.run (write config s) = (.ok (.ok ()), b')) :
    b'.tables = b.tables := by
  by_cases ended : s.maxAge < 0
  · rw [write_of_ended ended] at h
    obtain same | ⟨_, ⟨⟩, -⟩ | ⟨⟨⟩, -⟩ := tables_of_answer (answer_of_run_call h)
    exact same
  · rw [write_of_live ended] at h
    obtain same | ⟨_, ⟨⟩, -⟩ | ⟨⟨⟩, -⟩ := tables_of_answer (answer_of_run_call h)
    exact same

/-- The values of a session that was saved and has not ended are there. -/
theorem entry_of_run_write (live : ¬ s.maxAge < 0)
    (h : b.run (write config s) = (.ok (.ok ()), b')) :
    ∃ e, b'.sessions.get? (key config s.id) = some e ∧ e.isLive b'.uptime = true ∧
      e.value = s.values.encode := by
  rw [write_of_live live] at h
  have answered := answer_of_run_call h
  have stored := Store.get?_of_store? (store?_of_answer answered)
  have uptime : b'.uptime = b.uptime := (steady_of_answer answered).uptime
  refine ⟨_, stored, ?_, rfl⟩
  rw [uptime]
  unfold lifetime? Entry.isLive
  by_cases positive : 0 < s.maxAge
  · have seconds : 0 < s.maxAge.toNat := by omega
    rw [if_pos positive, Option.map_some, Option.map_some, Option.all_some, decide_eq_true_eq]
    exact Nat.lt_add_of_pos_right (Nat.mul_pos seconds (by decide))
  · rw [if_neg positive]
    rfl

/-- The first piece of the cookie of a session is its name and its value, if the name has no
semicolon. -/
theorem head?_cookies_cookieText (separate : ';' ∉ config.cookieName.toList) (s : Session) :
    (cookies (cookieText config s)).head?
      = some (config.cookieName ++ "=" ++ s.cookieValue).toList := by
  obtain ⟨attributes, text⟩ := exists_cookieStart config s
  have value : ';' ∉ s.cookieValue.toList := by
    unfold cookieValue
    split
    · decide
    · unfold Uuid.render
      rw [String.toList_ofList]
      exact fun h => absurd (Uuid.mem_of_mem_text h) (by decide)
  have first : ';' ∉ (config.cookieName ++ "=" ++ s.cookieValue).toList := by
    simp only [String.toList_append, List.mem_append, not_or]
    exact ⟨⟨separate, by decide⟩, value⟩
  have split : (cookieText config s).toList = (config.cookieName ++ "=" ++ s.cookieValue).toList
      ++ ';' :: (" Path=" ++ attributes).toList := by
    rw [text]
    simp [String.toList_append]
  unfold cookies
  rw [split, Text.pieces_append_cons first]
  rfl

end FederatedLogin.Session
