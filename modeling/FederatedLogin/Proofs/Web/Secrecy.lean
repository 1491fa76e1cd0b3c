import FederatedLogin.Proofs.Backend.Moment
import FederatedLogin.Proofs.Backend.Pool
import FederatedLogin.Proofs.Web.Unison

/-!
# Secrets do not reach clients

Two pools are compared that are played the same requests, in moments that may differ in tokens, in
their expiries and in the texts of errors. The stores of the pools drift apart, but look the same
after every beat, and so do the programs under way (`Pool.alike_play`): a program is in unison with
the program of the other pool, so both make calls that look the same and are told what sounds the
same. In the end all responses agree (`Web.responses_agree`). Runs of pools with surroundings that
are kept in memory are among those that are compared (`Pool.exists_beats`).
-/

namespace FederatedLogin

open Program

variable {ρ α : Type}

/-! ## Beats -/

/-- What happens to a pool, with all that decides about the answers to calls. -/
inductive Beat (ρ : Type) where
  | start (request : ρ)
  /-- A task makes its next call in a moment. -/
  | turn (n : Nat) (moment : Moment)
  | drop (n : Nat)
  | removeUser (id : Uuid)

/-- The beat without tokens and texts of errors. -/
def Beat.shown : Beat ρ → Beat ρ
  | turn n m => turn n m.shown
  | beat => beat

/-- Beats that look the same are the same, or turns of one task in moments that look the same. -/
theorem Beat.shown_cases {beat beat' : Beat ρ} (h : beat.shown = beat'.shown) :
    beat = beat' ∨
      ∃ n m m', beat = turn n m ∧ beat' = turn n m' ∧ m.shown = m'.shown := by
  cases beat with
  | turn n m =>
    cases beat' with
    | turn n' m' =>
      obtain ⟨rfl, moments⟩ := turn.inj h
      exact .inr ⟨n, m, m', rfl, rfl, moments⟩
    | _ => cases h
  | _ =>
    cases beat' with
    | turn n' m' => cases h
    | _ => exact .inl h

namespace Pool

/-- The pool after a task made its next call in a moment. A call that is not answered ends its
task. -/
def turnIn (p : Pool ρ α) (n : Nat) (m : Moment) : Pool ρ α :=
  match p.tasks[n]? with
  | none => p
  | some t =>
    if n ∈ p.dropped then p
    else
      match t.program with
      | .done _ => p
      | .ask c next =>
        match m.answer { p.backend with work := t.work } c with
        | .error _ => { p with dropped := n :: p.dropped }
        | .ok (a, b) => { p with backend := b, tasks := p.tasks.set n (goOn t c next a b) }

section Turns

variable {p : Pool ρ α} {n : Nat} {m : Moment} {t : Task ρ α} {c : Call}
  {next : c.Answer → Service α}

theorem turnIn_of_none (ht : p.tasks[n]? = none) : p.turnIn n m = p := by
  simp only [turnIn, ht]

theorem turnIn_of_dropped (gone : n ∈ p.dropped) : p.turnIn n m = p := by
  unfold turnIn
  split
  · rfl
  · rw [if_pos gone]

theorem turnIn_of_done {a : α} (ht : p.tasks[n]? = some t) (hp : t.program = .done a) :
    p.turnIn n m = p := by
  simp only [turnIn, ht, hp, ite_self]

theorem turnIn_of_error {halt : Backend.Halt} (ht : p.tasks[n]? = some t)
    (running : n ∉ p.dropped) (hp : t.program = .ask c next)
    (ha : m.answer { p.backend with work := t.work } c = .error halt) :
    p.turnIn n m = { p with dropped := n :: p.dropped } := by
  simp only [turnIn, ht, running, if_false, hp, ha]

theorem turnIn_of_ok {a : c.Answer} {b : Backend} (ht : p.tasks[n]? = some t)
    (running : n ∉ p.dropped) (hp : t.program = .ask c next)
    (ha : m.answer { p.backend with work := t.work } c = .ok (a, b)) :
    p.turnIn n m = { p with backend := b, tasks := p.tasks.set n (goOn t c next a b) } := by
  simp only [turnIn, ht, running, if_false, hp, ha]

end Turns

variable (serve : ρ → Service α)

/-- The pool after a beat. -/
def afterBeat (p : Pool ρ α) : Beat ρ → Pool ρ α
  | .start r => { p with tasks := p.tasks ++ [begun serve r] }
  | .turn n m => p.turnIn n m
  | .drop n => { p with dropped := n :: p.dropped }
  | .removeUser id =>
    { p with backend := { p.backend with tables := p.backend.tables.removeUser id } }

/-- The pool after beats, one after the other. -/
def play (p : Pool ρ α) (beats : List (Beat ρ)) : Pool ρ α := beats.foldl (afterBeat serve) p

/-! ## Runs are played -/

/-- The pools hold the same tasks and the same stores. -/
structure Mirrors (p q : Pool ρ α) : Prop where
  tasks : q.tasks = p.tasks
  dropped : q.dropped = p.dropped
  tables : q.backend.tables = p.backend.tables
  sessions : q.backend.sessions = p.backend.sessions

theorem exists_beats_of_turn {p q : Pool ρ α} (h : p.Mirrors q) (n : Nat) :
    ∃ beats, (p.turn n).Mirrors (q.play serve beats) := by
  unfold turn
  split
  · exact ⟨[], h⟩
  · next t ht =>
    split
    · exact ⟨[], h⟩
    · next running =>
      split
      · exact ⟨[], h⟩
      · next c next hp =>
        split
        · exact ⟨[.drop n], h.tasks, congrArg (n :: ·) h.dropped, h.tables, h.sessions⟩
        · next a b ha =>
          have same : Backend.SameStores { p.backend with work := t.work }
              { q.backend with work := t.work } := ⟨h.tables, h.sessions, rfl⟩
          obtain ⟨m, d, hd, stores⟩ := Moment.exists_answer same ha
          refine ⟨[.turn n m], ?_⟩
          show Mirrors _ (q.turnIn n m)
          rw [turnIn_of_ok (h.tasks ▸ ht) (h.dropped ▸ running) hp hd]
          refine ⟨?_, h.dropped, stores.tables, stores.sessions⟩
          show q.tasks.set n { t with program := next a, work := d.work, past := _ } = _
          rw [h.tasks, stores.work]
          rfl

/-- Whatever surroundings are kept in memory, and however they change between calls: a run of a pool
comes from beats. -/
theorem exists_beats (p : Pool ρ α) (events : List (Event ρ)) :
    ∃ beats, (p.run serve events).Mirrors (p.play serve beats) := by
  refine run_induction serve (motive := fun q => ∃ beats, q.Mirrors (p.play serve beats))
    ⟨[], rfl, rfl, rfl, rfl⟩ fun q e _ ⟨beats, h⟩ => ?_
  have more : ∃ later, (q.after serve e).Mirrors ((p.play serve beats).play serve later) := by
    cases e with
    | start r => exact ⟨[.start r], congrArg (· ++ _) h.tasks, h.dropped, h.tables, h.sessions⟩
    | turn n => exact exists_beats_of_turn serve h n
    | drop n => exact ⟨[.drop n], h.tasks, congrArg (n :: ·) h.dropped, h.tables, h.sessions⟩
    | change b => exact ⟨[], h.tasks, h.dropped, h.tables, h.sessions⟩
    | removeUser id =>
      exact ⟨[.removeUser id], h.tasks, h.dropped, congrArg (·.removeUser id) h.tables, h.sessions⟩
  obtain ⟨later, h⟩ := more
  exact ⟨beats ++ later, by rwa [play, List.foldl_append]⟩

end Pool

/-! ## Alike pools -/

/-- The tasks were started for the same request, and go on in unison. -/
structure Task.Alike (t t' : Task ρ α) : Prop where
  request : t.request = t'.request
  work : t.work.shown = t'.work.shown
  program : Unison (· = ·) t.program t'.program

theorem Task.Alike.result? {t t' : Task ρ α} (h : t.Alike t') : t.result? = t'.result? := by
  obtain ⟨a, _, hp, hp', rfl⟩ | ⟨c, next, c', next', hp, hp', -⟩ := h.program.cases
  · rw [result?_of_done hp, result?_of_done hp']
  · rw [result?_of_ask hp, result?_of_ask hp']

namespace Pool

/-- The pools hold tasks that are alike, and stores that look the same. -/
structure Alike (p p' : Pool ρ α) : Prop where
  stores : p.backend.shown = p'.backend.shown
  dropped : p.dropped = p'.dropped
  length : p.tasks.length = p'.tasks.length
  tasks : ∀ (n : Nat) (t t' : Task ρ α), p.tasks[n]? = some t → p'.tasks[n]? = some t' → t.Alike t'

variable {p p' : Pool ρ α}

theorem Alike.partner (h : p.Alike p') {n : Nat} {t : Task ρ α} (ht : p.tasks[n]? = some t) :
    ∃ t', p'.tasks[n]? = some t' ∧ t.Alike t' := by
  have lt : n < p'.tasks.length := h.length ▸ (List.getElem?_eq_some_iff.1 ht).1
  have ht' := List.getElem?_eq_getElem lt
  exact ⟨p'.tasks[n], ht', h.tasks n t _ ht ht'⟩

/-- The pools with new surroundings, and another state of one task. -/
theorem Alike.set (h : p.Alike p') {b b' : Backend} (stores : b.shown = b'.shown) {t t' : Task ρ α}
    (alike : t.Alike t') (n : Nat) :
    Alike { p with backend := b, tasks := p.tasks.set n t }
      { p' with backend := b', tasks := p'.tasks.set n t' } := by
  refine ⟨stores, h.dropped, by simpa using h.length, fun k s s' hs hs' => ?_⟩
  have lt : k < p.tasks.length := by simpa using (List.getElem?_eq_some_iff.1 hs).1
  have lt' : k < p'.tasks.length := h.length ▸ lt
  by_cases same : n = k
  · subst same
    rw [List.getElem?_set_self lt] at hs
    rw [List.getElem?_set_self lt'] at hs'
    cases hs
    cases hs'
    exact alike
  · rw [List.getElem?_set_ne same] at hs hs'
    exact h.tasks k s s' hs hs'

/-- The pools with one more task. -/
theorem Alike.append (h : p.Alike p') {t t' : Task ρ α} (alike : t.Alike t') :
    Alike { p with tasks := p.tasks ++ [t] } { p' with tasks := p'.tasks ++ [t'] } := by
  refine ⟨h.stores, h.dropped, by simpa using h.length, fun k s s' hs hs' => ?_⟩
  rcases Nat.lt_or_ge k p.tasks.length with lt | ge
  · rw [List.getElem?_append_left lt] at hs
    rw [List.getElem?_append_left (h.length ▸ lt)] at hs'
    exact h.tasks k s s' hs hs'
  · rw [List.getElem?_append_right ge] at hs
    rw [List.getElem?_append_right (h.length ▸ ge)] at hs'
    obtain rfl := List.mem_singleton.1 (List.mem_of_getElem? hs)
    obtain rfl := List.mem_singleton.1 (List.mem_of_getElem? hs')
    exact alike

theorem Alike.turnIn (h : p.Alike p') (n : Nat) {m m' : Moment} (moments : m.shown = m'.shown) :
    (p.turnIn n m).Alike (p'.turnIn n m') := by
  cases ht : p.tasks[n]? with
  | none =>
    have ht' : p'.tasks[n]? = none := by
      rw [List.getElem?_eq_none_iff] at ht ⊢
      rwa [← h.length]
    rwa [turnIn_of_none ht, turnIn_of_none ht']
  | some t =>
    obtain ⟨t', ht', alike⟩ := h.partner ht
    rcases Decidable.em (n ∈ p.dropped) with gone | running
    · rwa [turnIn_of_dropped gone, turnIn_of_dropped (h.dropped ▸ gone)]
    have running' : n ∉ p'.dropped := h.dropped ▸ running
    obtain ⟨a, a', hp, hp', -⟩ | ⟨c, next, c', next', hp, hp', sees, hears⟩ := alike.program.cases
    · rwa [turnIn_of_done ht hp, turnIn_of_done ht' hp']
    have stores : Backend.shown { p.backend with work := t.work }
        = Backend.shown { p'.backend with work := t'.work } := by
      show { p.backend.shown with work := t.work.shown }
        = { p'.backend.shown with work := t'.work.shown }
      rw [h.stores, alike.work]
    obtain ⟨halt, halt', ha, ha'⟩ | ⟨a, b, a', b', ha, ha', sounds, looks⟩ :=
      Moment.answer_pair_cases moments stores sees
    · rw [turnIn_of_error ht running hp ha, turnIn_of_error ht' running' hp' ha']
      exact ⟨h.stores, congrArg (n :: ·) h.dropped, h.length, h.tasks⟩
    · -- Both tasks are told what sounds the same, and leave stores that look the same.
      have later : (goOn t c next a b).Alike (goOn t' c' next' a' b') :=
        ⟨alike.request, congrArg Backend.work looks, hears a a' sounds⟩
      rw [turnIn_of_ok ht running hp ha, turnIn_of_ok ht' running' hp' ha']
      exact h.set looks later n

variable {serve : ρ → Service α}

/-- After a beat that looks the same, the pools are still alike. -/
theorem alike_afterBeat (unison : ∀ r, Unison (· = ·) (serve r) (serve r)) (h : p.Alike p')
    {beat beat' : Beat ρ} (same : beat.shown = beat'.shown) :
    (p.afterBeat serve beat).Alike (p'.afterBeat serve beat') := by
  obtain rfl | ⟨n, m, m', rfl, rfl, moments⟩ := Beat.shown_cases same
  · cases beat with
    | start r => exact h.append ⟨rfl, rfl, unison r⟩
    | turn n m => exact h.turnIn n rfl
    | drop n => exact ⟨h.stores, congrArg (n :: ·) h.dropped, h.length, h.tasks⟩
    | removeUser id =>
      have removed (b : Backend) : Backend.shown { b with tables := b.tables.removeUser id }
          = { b.shown with tables := b.shown.tables.removeUser id } :=
        congrArg (fun t => { b.shown with tables := t }) (Tables.shown_removeUser b.tables id)
      refine ⟨(removed p.backend).trans ?_, h.dropped, h.length, h.tasks⟩
      rw [h.stores]
      exact (removed p'.backend).symm
  · exact h.turnIn n moments

/-- So the pools are alike after a run of any length. -/
theorem alike_play (unison : ∀ r, Unison (· = ·) (serve r) (serve r)) (h : p.Alike p')
    {beats beats' : List (Beat ρ)} (same : beats.map Beat.shown = beats'.map Beat.shown) :
    (p.play serve beats).Alike (p'.play serve beats') := by
  induction beats generalizing p p' beats' with
  | nil =>
    cases beats' with
    | nil => exact h
    | cons beat' beats' => cases same
  | cons beat beats ih =>
    cases beats' with
    | nil => cases same
    | cons beat' beats' =>
      obtain ⟨first, rest⟩ := List.cons.inj same
      exact ih (alike_afterBeat unison h first) rest

end Pool

/-! ## The service -/

namespace Web

/-- The requests of a pool, and the responses to them so far. -/
def responses (p : Pool Request Response) : List (Request × Option Response) :=
  p.tasks.map fun t => (t.request, t.result?)

theorem responses_of_alike {p p' : Pool Request Response} (h : p.Alike p') :
    responses p = responses p' := by
  refine List.ext_getElem (by simpa [responses] using h.length) fun n lt lt' => ?_
  unfold responses at lt lt' ⊢
  rw [List.length_map] at lt lt'
  rw [List.getElem_map, List.getElem_map]
  have tasks := h.tasks n _ _ (List.getElem?_eq_getElem lt) (List.getElem?_eq_getElem lt')
  rw [tasks.request, tasks.result?]

/-- Whatever happens to a service whose surroundings are kept in memory comes from beats; and all
responses agree in two runs that start from stores which look the same and take the same requests,
in moments that differ in tokens, in their expiries and in the texts of errors only. -/
theorem responses_agree (app : App) {b b' : Backend} (stores : b.shown = b'.shown) :
    (∀ events, ∃ beats, responses (Pool.run (serve app) ⟨b, [], []⟩ events)
      = responses (Pool.play (serve app) ⟨b, [], []⟩ beats)) ∧
    ∀ beats beats' : List (Beat Request), beats.map Beat.shown = beats'.map Beat.shown →
      responses (Pool.play (serve app) ⟨b, [], []⟩ beats)
        = responses (Pool.play (serve app) ⟨b', [], []⟩ beats') := by
  refine ⟨fun events => ?_, fun beats beats' same => ?_⟩
  · obtain ⟨beats, mirrors⟩ := Pool.exists_beats (serve app) ⟨b, [], []⟩ events
    exact ⟨beats, congrArg (List.map _) mirrors.tasks.symm⟩
  · have start : Pool.Alike (ρ := Request) (α := Response) ⟨b, [], []⟩ ⟨b', [], []⟩ :=
      ⟨stores, rfl, rfl, fun _ _ _ h => nomatch h⟩
    exact responses_of_alike (Pool.alike_play (unison_serve app) start same)

/-- A person logs in with a token, is not told who is logged in because storage fails, and fails to
log in again. -/
def loginAndFail (token cause : String) : List (Beat Request) :=
  let login := "\x7b\"provider\":\"github\",\"authorizationCode\":\"c\",\"redirectUri\":\"a:b\","
    ++ "\"codeVerifier\":\"" ++ String.ofList (List.replicate 43 'v') ++ "\"\x7d"
  let login : Request :=
    ⟨"POST", "/oauth/token", [("content-type", "application/json")], login⟩
  let look : Request := ⟨"GET", "/userinfo",
    [("cookie", "idlink_session=00000000-0000-0000-0000-000000000000")], ""⟩
  let works : Moment :=
    { tokens := .ok ⟨token, some token, default, default⟩
      identity := .ok (Provider.Stub.person "s" "a@x") }
  let fails : Moment :=
    { storage := some (.database cause), tokens := .error (.exchangeFailed cause) }
  [.start login] ++ List.replicate 11 (.turn 0 works)
    ++ [.start look, .turn 1 works, .turn 1 fails, .turn 1 works]
    ++ [.start login, .turn 2 fails, .turn 2 works]

/-- Other tokens are stored, and the responses agree. -/
theorem responses_agree_twoTokens :
    let app : App := { registry := .ofNames ["github"] }
    let after := fun token => Pool.play (serve app) ⟨default, [], []⟩ (loginAndFail token token)
    (default : Backend).shown = (default : Backend).shown ∧
      (loginAndFail "t" "t").map Beat.shown = (loginAndFail "u" "u").map Beat.shown ∧
      ((after "t").backend.tables.links.map Link.accessToken = ["t"] ∧
        (after "t").tasks.map (fun t => t.result?.map Response.status)
          = [some 200, some 500, some 500] ∧
        (after "u").backend.tables.links.map Link.accessToken = ["u"]) ∧
      responses (after "t") = responses (after "u") := by
  have same : (loginAndFail "t" "t").map Beat.shown = (loginAndFail "u" "u").map Beat.shown := rfl
  exact ⟨rfl, same, by decide +kernel, (responses_agree _ rfl).2 _ _ same⟩

end Web

end FederatedLogin
