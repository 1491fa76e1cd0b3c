import FederatedLogin.Proofs.Backend.Alone
import FederatedLogin.Proofs.Program.Protocol
import FederatedLogin.Proofs.Provider.Failures

/-!
# What calls leave alone

A call is recorded, and besides that it changes what it is about and nothing else: the calls so far,
the failures to come and the clock of the session store are those of `Backend.record`
(`script_of_answer`), and only calls on sessions change the session store (`sessions_of_answer`).
Both go on to whole runs (`steady_run`, `sessions_run`): what the calls that a program asks for
leave alone, its run leaves alone (`run_invariant_of_asks`), and its run makes such calls only
(`made_of_asks`). A storage that refuses leaves the tables as they are, and so does a provider,
which always answers unless it hangs (`exists_exchange`, `exists_identity`). Failures of all kinds
may be scripted.
-/

namespace FederatedLogin.Backend

open Provider

variable {α : Type} {b b' : Backend} {c : Call} {a : c.Answer}

/-! ## One call -/

/-- What is said about calls and failures: the calls so far, the failures to come, and the clock of
the session store. -/
def script (b : Backend) : List Call × Faults × Nat := (b.calls, b.faults, b.uptime)

/-- No question of an adapter changes what is scripted. -/
theorem script_answerHttp (b : Backend) (q : HttpCall) : (b.answerHttp q).2.script = b.script := by
  cases q with
  | now => rfl
  | log level text => rfl
  | send request =>
    obtain ⟨left, made, after⟩ := exists_answerHttp_send b request
    rw [after]
    rfl

/-- No question of an adapter changes the adapters. -/
theorem adapters_answerHttp (b : Backend) (q : HttpCall) :
    (b.answerHttp q).2.adapters = b.adapters := by
  cases q with
  | now => rfl
  | log level text => rfl
  | send request =>
    obtain ⟨left, made, after⟩ := exists_answerHttp_send b request
    rw [after]

/-- No exchange of a code changes what is scripted. -/
theorem script_exchange {n : Nat} {grant : Grant} {r : Except Error TokenSet}
    (h : b.exchange n grant = .ok (r, b')) : b'.script = b.script := by
  unfold exchange at h
  split at h
  · cases h
  · cases h
  · split at h <;> (cases h; rfl)
  · next adapter _ =>
    injection h with h
    have run := keeps_runTraffic script script_answerHttp (adapter.exchange grant) b
    rwa [h] at run

/-- No look for an identity changes what is scripted. -/
theorem script_identity {n : Nat} {token : String} {r : Except Error Identity}
    (h : b.identity n token = .ok (r, b')) : b'.script = b.script := by
  unfold identity at h
  split at h
  · cases h
  · cases h
  · cases h
    rfl
  · next adapter _ =>
    injection h with h
    have run := keeps_runTraffic script script_answerHttp (adapter.fetchIdentity token) b
    rwa [h] at run

/-- A call that reaches the surroundings changes nothing that is said about calls and failures, and
no session value unless it is a call on sessions. -/
theorem frame_of_perform (h : b.perform c = .ok (a, b')) :
    b'.script = b.script ∧ (c.onSessions = false → b'.sessions = b.sessions) := by
  cases c with
  | exchange n grant => exact ⟨script_exchange h, fun _ => (sameStores_exchange h).sessions⟩
  | identity n token => exact ⟨script_identity h, fun _ => (sameStores_identity h).sessions⟩
  | updateLink l =>
    simp only [perform, updateLink] at h
    split at h <;> (cases h; exact ⟨rfl, fun _ => rfl⟩)
  | insertUser u =>
    simp only [perform, insert] at h
    split at h <;> (cases h; exact ⟨rfl, fun _ => rfl⟩)
  | insertLink l =>
    simp only [perform, insert] at h
    split at h <;> (cases h; exact ⟨rfl, fun _ => rfl⟩)
  | loadSession key =>
    simp only [perform, loadSession] at h
    split at h <;> (cases h; exact ⟨rfl, fun elsewhere => by cases elsewhere⟩)
  | storeSession key value lifetime =>
    simp only [perform, storeSession] at h
    split at h
    · cases h; exact ⟨rfl, fun _ => rfl⟩
    · split at h <;> cases h
      exact ⟨rfl, fun elsewhere => by cases elsewhere⟩
  | deleteSession key =>
    simp only [perform, deleteSession] at h
    split at h <;> (cases h; exact ⟨rfl, fun elsewhere => by cases elsewhere⟩)
  | _ => cases h; exact ⟨rfl, fun _ => rfl⟩

/-- What is said about calls and failures after a call is that the call was made. -/
theorem script_of_answer (h : b.answer c = .ok (a, b')) : b'.script = (b.record c).script := by
  rcases answer_cases h with ⟨e, -, rfl⟩ | h
  · rfl
  · exact (frame_of_perform h).1

/-- A call that is answered is written down behind those before it. -/
theorem calls_of_answer (h : b.answer c = .ok (a, b')) : b'.calls = b.calls ++ [c] :=
  congrArg Prod.fst (script_of_answer h)

/-- A call uses up the failure that was scripted for it, and no other. -/
theorem faults_of_answer (h : b.answer c = .ok (a, b')) : b'.faults = (b.record c).faults :=
  congrArg (fun s => s.2.1) (script_of_answer h)

/-- Only calls on sessions change the session store. -/
theorem sessions_of_answer (elsewhere : c.onSessions = false) (h : b.answer c = .ok (a, b')) :
    b'.sessions = b.sessions := by
  rcases answer_cases h with ⟨e, -, rfl⟩ | h
  · rfl
  · exact (frame_of_perform h).2 elsewhere

/-- A commit that is refused leaves the tables alone. -/
theorem tables_of_refused_commit {e : StorageError} (h : b.answer .commit = .ok (.error e, b')) :
    b'.tables = b.tables := by
  rcases answer_cases h with ⟨e, -, rfl⟩ | h
  · rfl
  · injection h with h
    rw [commit_eq] at h
    split at h
    · cases h
      rfl
    · split at h <;> cases h
      rfl

/-- Tokens that are refused leave the tables alone. -/
theorem tables_of_refused_updateLink {l : Link} {e : StorageError}
    (h : b.answer (.updateLink l) = .ok (.error e, b')) : b'.tables = b.tables := by
  rcases answer_cases h with ⟨e, -, rfl⟩ | h
  · rfl
  · simp only [perform, updateLink] at h
    split at h <;> cases h
    rfl

/-! ## Runs -/

/-- The second surroundings come after the first ones: the clock of the session store has not moved,
and the session store works or fails as it did. -/
structure Steady (b b' : Backend) : Prop where
  uptime : b'.uptime = b.uptime
  store : b'.faults.store = b.faults.store
  delete : b'.faults.delete = b.faults.delete

theorem Steady.refl (b : Backend) : Steady b b := ⟨rfl, rfl, rfl⟩

theorem Steady.trans {b₁ b₂ b₃ : Backend} (h : Steady b₁ b₂) (h' : Steady b₂ b₃) : Steady b₁ b₃ :=
  ⟨h'.uptime.trans h.uptime, h'.store.trans h.store, h'.delete.trans h.delete⟩

/-- Writing a call down moves no clock. -/
theorem steady_record (b : Backend) (c : Call) : Steady b (b.record c) := by
  unfold record
  cases point? c <;> exact ⟨rfl, rfl, rfl⟩

/-- No call moves the clock of the session store. -/
theorem steady_of_answer (h : b.answer c = .ok (a, b')) : Steady b b' := by
  have script := script_of_answer h
  have faults := faults_of_answer h
  have uptime : b'.uptime = (b.record c).uptime := congrArg (fun s => s.2.2) script
  have recorded := steady_record b c
  exact ⟨uptime.trans recorded.uptime, by rw [faults, recorded.store],
    by rw [faults, recorded.delete]⟩

/-- What no call of a kind breaks, no program breaks that makes only such calls. -/
theorem run_invariant_of_asks {I : Backend → Prop} {kind : Call → Bool}
    (recorded : ∀ b c, kind c = true → I b → I (b.record c))
    (answered : ∀ {b : Backend} {c : Call} {a : c.Answer} {b' : Backend}, kind c = true →
      b.answer c = .ok (a, b') → I b → I b')
    {p : Service α} (asks : p.Asks kind) (h : I b) : I (b.run p).2 := by
  induction p generalizing b with
  | done a => exact h
  | ask c next ih =>
    unfold run
    cases ha : b.answer c with
    | error halt => exact recorded b c asks.1 h
    | ok answer => exact ih answer.1 (asks.2 answer.1) (answered asks.1 ha h)

/-- What no call breaks, no program breaks. -/
theorem run_invariant {I : Backend → Prop} (recorded : ∀ b c, I b → I (b.record c))
    (answered : ∀ {b : Backend} {c : Call} {a : c.Answer} {b' : Backend},
      b.answer c = .ok (a, b') → I b → I b') (p : Service α) (h : I b) : I (b.run p).2 :=
  run_invariant_of_asks (fun b c _ => recorded b c) (fun _ => answered) p.asks_anything h

/-- No program moves the clock of the session store. -/
theorem steady_run (b : Backend) (p : Service α) : Steady b (b.run p).2 := by
  refine run_invariant (I := Steady b) ?_ ?_ p (.refl b)
  · intro b₁ c same
    exact same.trans (steady_record b₁ c)
  · intro b₁ c a b₂ answered same
    exact same.trans (steady_of_answer answered)

theorem load_record (b : Backend) (c : Call) : (b.record c).faults.load = b.faults.load := by
  unfold record
  cases point? c <;> rfl

/-- Loads go on to work or to fail. -/
theorem load_run (b : Backend) (p : Service α) :
    (b.run p).2.faults.load = b.faults.load := by
  refine run_invariant (I := fun b' => b'.faults.load = b.faults.load) ?_ ?_ p rfl
  · intro b₁ c same
    rw [load_record, same]
  · intro b₁ c a b₂ answered same
    rw [faults_of_answer answered, load_record, same]

/-- A program without calls on sessions leaves the session store alone. -/
theorem sessions_run {p : Service α} (h : p.Asks fun c => !c.onSessions) (b : Backend) :
    (b.run p).2.sessions = b.sessions := by
  refine run_invariant_of_asks (I := fun b' => b'.sessions = b.sessions) ?_ ?_ h rfl
  · intro b₁ c _ same
    exact same
  · intro b₁ c a b₂ elsewhere answered same
    rw [sessions_of_answer (by simpa using elsewhere) answered, same]

/-- A call on users and links is answered, whatever is scripted. -/
theorem gives_onAccounts {post : c.Answer → Backend → Prop} (hc : onAccounts c = true)
    (h : ∀ a b', b.answer c = .ok (a, b') → post a b') : b.Gives (call c) post := by
  obtain ⟨a, b', ha⟩ := exists_answer b hc
  exact ⟨a, b', run_call ha, h a b' ha⟩

/-! ## The calls of a run -/

/-- A run adds calls of the program to those that were made before. -/
theorem exists_calls_run {kind : Call → Bool} {p : Service α} (asks : p.Asks kind) (b : Backend) :
    ∃ made, (b.run p).2.calls = b.calls ++ made ∧ ∀ c ∈ made, kind c = true := by
  have grows {made : List Call} {c : Call} (hc : kind c = true) (h : ∀ c ∈ made, kind c = true) :
      ∀ c' ∈ made ++ [c], kind c' = true := by
    intro c' hc'
    rcases List.mem_append.1 hc' with old | new
    · exact h c' old
    · rw [List.mem_singleton.1 new]
      exact hc
  refine run_invariant_of_asks (I := fun b' => ∃ made, b'.calls = b.calls ++ made ∧
    ∀ c ∈ made, kind c = true) ?_ ?_ asks ⟨[], (List.append_nil _).symm, List.forall_mem_nil _⟩
  · rintro b₁ c hc ⟨made, calls, kinds⟩
    refine ⟨made ++ [c], ?_, grows hc kinds⟩
    rw [← List.append_assoc, ← calls]
    rfl
  · rintro b₁ c a b₂ hc answered ⟨made, calls, kinds⟩
    refine ⟨made ++ [c], ?_, grows hc kinds⟩
    rw [← List.append_assoc, ← calls, calls_of_answer answered]

/-- The calls that a program makes, up to its end. -/
def made (b : Backend) (p : Service α) : List Call := (b.run p).2.calls.drop b.calls.length

/-- The calls of a run come behind those before it. -/
theorem calls_run (b : Backend) (p : Service α) : (b.run p).2.calls = b.calls ++ b.made p := by
  obtain ⟨new, calls, -⟩ := exists_calls_run p.asks_anything b
  unfold made
  rw [calls, List.drop_left]

/-- A program makes calls of its kind only. -/
theorem made_of_asks {kind : Call → Bool} {p : Service α} (asks : p.Asks kind) (b : Backend) :
    ∀ c ∈ b.made p, kind c = true := by
  obtain ⟨new, calls, kinds⟩ := exists_calls_run asks b
  rw [calls_run] at calls
  rw [List.append_cancel_left calls]
  exact kinds

/-- The calls of two programs in a row come one after the other. -/
theorem made_bind {p : Service α} {f : α → Service β} {r : α} (ran : b.run p = (.ok r, b')) :
    b.made (p >>= f) = b.made p ++ b'.made (f r) := by
  have first := calls_run b p
  have both := calls_run b (p >>= f)
  rw [ran] at first
  rw [run_bind ran, calls_run, first, List.append_assoc] at both
  exact (List.append_cancel_left both).symm

/-- A call that is answered comes before those of the rest. -/
theorem made_ask {next : c.Answer → Service α} (answered : b.answer c = .ok (a, b')) :
    b.made (.ask c next) = c :: b'.made (next a) := by
  have all := calls_run b (.ask c next)
  unfold run at all
  rw [answered] at all
  rw [calls_run, calls_of_answer answered, List.append_assoc] at all
  exact (List.append_cancel_left all).symm

/-- A program makes the call with which it begins. -/
theorem mem_made_ask (b : Backend) (c : Call) (next : c.Answer → Service α) :
    c ∈ b.made (.ask c next) := by
  cases answered : b.answer c with
  | ok answer =>
    rw [made_ask answered]
    exact List.mem_cons_self
  | error halt =>
    have all := calls_run b (.ask c next)
    unfold run at all
    rw [answered] at all
    rw [← List.append_cancel_left all]
    exact List.mem_singleton_self c

/-! ## Providers -/

/-- There is an adapter of the number, and it does not hang. -/
def Serves (b : Backend) (n : Nat) : Prop :=
  ∃ adapter, b.adapters[n]? = some adapter ∧ adapter ≠ .hanging

/-- A stub in a new state is still an adapter that does not hang. -/
theorem serves_setStub {n : Nat} {adapter : Adapter} (found : b.adapters[n]? = some adapter)
    (s : Stub) : (b.setStub n s).Serves n := by
  obtain ⟨lt, -⟩ := List.getElem?_eq_some_iff.1 found
  exact ⟨.stub s, List.getElem?_set_self lt, nofun⟩

/-- No program of an adapter makes an adapter hang. -/
theorem serves_runTraffic {n : Nat} (serves : b.Serves n) (p : Traffic α) :
    (b.runTraffic p).2.Serves n := by
  have same := keeps_runTraffic adapters adapters_answerHttp p b
  unfold Serves
  rwa [same]

/-- A program of an adapter comes to its end, with one of its results. -/
theorem runTraffic_of_returns {post : α → Prop} {p : Traffic α} (h : p.Returns post) (b : Backend) :
    post (b.runTraffic p).1 := by
  induction p generalizing b with
  | done a => exact h
  | ask q next ih => exact ih _ (h _) _

/-- An exchange is answered, and it fails as an exchange. The adapter goes on to serve. -/
theorem exists_exchange {n : Nat} (serves : b.Serves n) (grant : Grant) :
    ∃ r b', b.answer (.exchange n grant) = .ok (r, b') ∧ FailsAs .exchangeFailed r ∧
      b'.Serves n := by
  obtain ⟨adapter, found, answers⟩ := serves
  have recorded : (b.record (.exchange n grant)).adapters[n]? = some adapter := found
  show ∃ r b', (b.record (.exchange n grant)).exchange n grant = _ ∧ _
  unfold exchange
  rw [recorded]
  cases adapter with
  | hanging => exact absurd rfl answers
  | stub s =>
    dsimp only
    split
    · exact ⟨_, _, rfl, s.failsAs_exchange _ _, serves_setStub recorded _⟩
    · exact ⟨_, _, rfl, s.failsAs_exchange _ _, serves_setStub found _⟩
  | http a =>
    exact ⟨_, _, rfl, runTraffic_of_returns (returns_exchange a grant) _,
      serves_runTraffic ⟨_, recorded, answers⟩ _⟩

/-- A fetch of an identity is answered, and it fails as a fetch. -/
theorem exists_identity {n : Nat} (serves : b.Serves n) (token : String) :
    ∃ r b', b.answer (.identity n token) = .ok (r, b') ∧ FailsAs .identityFailed r := by
  obtain ⟨adapter, found, answers⟩ := serves
  have recorded : (b.record (.identity n token)).adapters[n]? = some adapter := found
  show ∃ r b', (b.record (.identity n token)).identity n token = _ ∧ _
  unfold identity
  rw [recorded]
  cases adapter with
  | hanging => exact absurd rfl answers
  | stub s => exact ⟨_, _, rfl, s.failsAs_fetch⟩
  | http a => exact ⟨_, _, rfl, runTraffic_of_returns (returns_fetchIdentity a token) _⟩

end FederatedLogin.Backend
