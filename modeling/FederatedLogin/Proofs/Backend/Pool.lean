import FederatedLogin.Proofs.Backend.Answer
import FederatedLogin.Proofs.Program.Protocol

/-!
# Programs that share surroundings

A pool holds programs that were started for requests and go on one call at a time, in any order. A
program that is dropped makes no more calls. Between two calls the surroundings may change at will,
except for what they store: the clock, the identifiers to come, the adapters and the failures. An
operator may remove users. `Pool.run` is what becomes of a pool after any such events.

Every event is one of four moves (`Pool.move_after`), tasks only ever go on (`Pool.extends_run`),
and a program that keeps to a protocol when it is started keeps to it in every pool
(`Pool.keeps_run`).
-/

namespace FederatedLogin

variable {ρ α : Type}

/-- A program under way: the request it was started for, and the calls that it has made. -/
structure Task (ρ α : Type) extends Backend.Process α where
  request : ρ
  past : List Answered := []

/-- The result of a task, once it has one. -/
def Task.result? (t : Task ρ α) : Option α :=
  match t.program with
  | .done a => some a
  | .ask _ _ => none

theorem Task.result?_of_done {t : Task ρ α} {a : α} (h : t.program = .done a) :
    t.result? = some a := by
  unfold Task.result?
  rw [h]

theorem Task.result?_of_ask {t : Task ρ α} {c : Call} {next : c.Answer → Service α}
    (h : t.program = .ask c next) : t.result? = none := by
  unfold Task.result?
  rw [h]

/-- A task that has a result is done. -/
theorem Task.program_of_result? {t : Task ρ α} {a : α} (h : t.result? = some a) :
    t.program = .done a := by
  cases hp : t.program with
  | done b =>
    rw [Task.result?_of_done hp] at h
    cases h
    rfl
  | ask c next =>
    rw [Task.result?_of_ask hp] at h
    cases h

/-- The programs under way and their surroundings. -/
structure Pool (ρ α : Type) where
  backend : Backend
  tasks : List (Task ρ α) := []
  /-- The numbers of the tasks that are given up. -/
  dropped : List Nat := []

/-- What happens to a pool. -/
inductive Event (ρ : Type) where
  | start (request : ρ)
  /-- A task makes its next call. -/
  | turn (n : Nat)
  | drop (n : Nat)
  /-- The surroundings change, except for the tables and the session values. -/
  | change (b : Backend)
  | removeUser (id : Uuid)

namespace Event

/-- The event is a turn of the task with the number. -/
def isTurn (n : Nat) : Event ρ → Bool
  | turn m => m = n
  | _ => false

/-- Tasks go on, and no failure of storage is scripted. -/
def Calm : Event ρ → Prop
  | turn _ => True
  | change b => b.Quiet
  | _ => False

end Event

namespace Pool

variable (serve : ρ → Service α)

/-- The task of a request, before its first call. -/
def begun (r : ρ) : Task ρ α := { program := serve r, request := r }

/-- The task after its call was answered, and surroundings with its unit of work. -/
def goOn (t : Task ρ α) (c : Call) (next : c.Answer → Service α) (a : c.Answer) (b : Backend) :
    Task ρ α :=
  { t with program := next a, work := b.work, past := t.past ++ [⟨c, a⟩] }

/-- The pool after a task made its next call. A call that is not answered ends its task. -/
def turn (p : Pool ρ α) (n : Nat) : Pool ρ α :=
  match p.tasks[n]? with
  | none => p
  | some t =>
    if n ∈ p.dropped then p
    else
      match t.program with
      | .done _ => p
      | .ask c next =>
        -- Each task has a unit of work of its own, which is in place while its call is answered.
        match ({ p.backend with work := t.work } : Backend).answer c with
        | .error _ => { p with backend := p.backend.record c, dropped := n :: p.dropped }
        | .ok (a, b) => { p with backend := b, tasks := p.tasks.set n (goOn t c next a b) }

/-- A task whose call is answered goes on with the answer, in its own unit of work. -/
theorem turn_of_ask {p : Pool ρ α} {n : Nat} {t : Task ρ α} {c : Call}
    {next : c.Answer → Service α} {a : c.Answer} {b : Backend} (ht : p.tasks[n]? = some t)
    (running : n ∉ p.dropped) (hp : t.program = .ask c next)
    (ha : ({ p.backend with work := t.work } : Backend).answer c = .ok (a, b)) :
    p.turn n = { p with backend := b, tasks := p.tasks.set n (goOn t c next a b) } := by
  simp only [turn, ht, running, if_false, hp, ha]

/-- A task that is done makes no further call. -/
theorem turn_of_done {p : Pool ρ α} {n : Nat} {t : Task ρ α} {a : α}
    (ht : p.tasks[n]? = some t) (hp : t.program = .done a) : p.turn n = p := by
  simp only [turn, ht, hp, ite_self]

theorem turn_of_none {p : Pool ρ α} {n : Nat} (ht : p.tasks[n]? = none) : p.turn n = p := by
  simp only [turn, ht]

/-- A turn leaves the other tasks alone. -/
theorem getElem?_turn_of_ne {p : Pool ρ α} {n m : Nat} (ne : m ≠ n) :
    (p.turn m).tasks[n]? = p.tasks[n]? := by
  unfold turn
  split
  · rfl
  · split
    · rfl
    · split
      · rfl
      · split
        · rfl
        · exact List.getElem?_set_ne ne

/-- The pool after an event. -/
def after (p : Pool ρ α) : Event ρ → Pool ρ α
  | .start r => { p with tasks := p.tasks ++ [begun serve r] }
  | .turn n => p.turn n
  | .drop n => { p with dropped := n :: p.dropped }
  | .change b =>
    { p with backend := { b with tables := p.backend.tables, sessions := p.backend.sessions } }
  | .removeUser id =>
    { p with backend := { p.backend with tables := p.backend.tables.removeUser id } }

/-- The pool after events, one after the other. -/
def run (p : Pool ρ α) (events : List (Event ρ)) : Pool ρ α := events.foldl (after serve) p

theorem run_append (p : Pool ρ α) (es₁ es₂ : List (Event ρ)) :
    p.run serve (es₁ ++ es₂) = (p.run serve es₁).run serve es₂ := List.foldl_append

/-- What every event keeps, holds after a run. -/
theorem run_induction {motive : Pool ρ α → Prop} {p : Pool ρ α} {events : List (Event ρ)}
    (start : motive p) (step : ∀ q, ∀ e ∈ events, motive q → motive (q.after serve e)) :
    motive (p.run serve events) := by
  induction events generalizing p with
  | nil => exact start
  | cons e es ih =>
    exact ih (step p e List.mem_cons_self start)
      fun q e' he' => step q e' (List.mem_cons_of_mem e he')

/-! ## Moves -/

/-- The four kinds of moves: a task is started, a task has a call answered, a user is removed, or
neither the tasks nor the stores change. -/
inductive Move (p : Pool ρ α) : Event ρ → Pool ρ α → Prop
  | start (r : ρ) : Move p (.start r) { p with tasks := p.tasks ++ [begun serve r] }
  | turn {n : Nat} {t : Task ρ α} {c : Call} {next : c.Answer → Service α} {a : c.Answer}
      {b : Backend} : p.tasks[n]? = some t → t.program = .ask c next →
      ({ p.backend with work := t.work } : Backend).answer c = .ok (a, b) →
      Move p (.turn n) { p with backend := b, tasks := p.tasks.set n (goOn t c next a b) }
  | remove (id : Uuid) : Move p (.removeUser id)
      { p with backend := { p.backend with tables := p.backend.tables.removeUser id } }
  | idle {e : Event ρ} {q : Pool ρ α} : q.tasks = p.tasks →
      q.backend.tables = p.backend.tables → q.backend.sessions = p.backend.sessions → Move p e q

/-- Whatever happens is one of the four kinds of moves. -/
theorem move_after (p : Pool ρ α) (e : Event ρ) : p.Move serve e (p.after serve e) := by
  cases e with
  | start r => exact .start r
  | drop n => exact .idle rfl rfl rfl
  | change b => exact .idle rfl rfl rfl
  | removeUser id => exact .remove id
  | turn n =>
    show p.Move serve (.turn n) (p.turn n)
    unfold turn
    split
    · exact .idle rfl rfl rfl
    · next t ht =>
      split
      · exact .idle rfl rfl rfl
      · split
        · exact .idle rfl rfl rfl
        · next c next hp =>
          split
          · exact .idle rfl rfl rfl
          · next a b h => exact .turn ht hp h

/-! ## Where things come from -/

/-- Where a task comes from: it was there before, or it is new, or it made a call. -/
inductive Origin (p q : Pool ρ α) (n : Nat) : Task ρ α → Prop
  | same {t : Task ρ α} : p.tasks[n]? = some t → Origin p q n t
  | new (r : ρ) : Origin p q n (begun serve r)
  | turn {t : Task ρ α} {c : Call} {next : c.Answer → Service α} {a : c.Answer} :
      p.tasks[n]? = some t → t.program = .ask c next →
      ({ p.backend with work := t.work } : Backend).answer c = .ok (a, q.backend) →
      Origin p q n (goOn t c next a q.backend)

/-- Every task comes from somewhere. -/
theorem origin_after {p : Pool ρ α} {e : Event ρ} {n : Nat} {t : Task ρ α}
    (ht : (p.after serve e).tasks[n]? = some t) : Origin serve p (p.after serve e) n t := by
  have move := move_after serve p e
  generalize p.after serve e = q at move ht
  cases move with
  | start r =>
    rcases Nat.lt_or_ge n p.tasks.length with lt | ge
    · rw [List.getElem?_append_left lt] at ht
      exact .same ht
    · rw [List.getElem?_append_right ge] at ht
      obtain rfl := List.mem_singleton.1 (List.mem_of_getElem? ht)
      exact .new r
  | @turn m s c next a b hs hp h =>
    by_cases same : m = n
    · subst same
      rw [List.getElem?_set_self (List.getElem?_eq_some_iff.1 hs).1] at ht
      obtain rfl := Option.some.inj ht
      exact Origin.turn (q := { p with backend := b, tasks := _ }) hs hp h
    · rw [List.getElem?_set_ne same] at ht
      exact .same ht
  | remove id => exact .same ht
  | idle tasks _ _ => exact .same (tasks ▸ ht)

/-- A session value that is held was held before, or a task has just stored it. -/
theorem entry_after {p : Pool ρ α} {event : Event ρ} {key : String} {e : Session.Entry}
    (he : (key, e) ∈ (p.after serve event).backend.sessions.entries) :
    (key, e) ∈ p.backend.sessions.entries ∨
      ∃ (n : Nat) (t t' : Task ρ α) (lifetime : Option Nat), p.tasks[n]? = some t ∧
        t.result? = none ∧ (p.after serve event).tasks[n]? = some t' ∧
        Answered.stored key e.value lifetime ∈ t'.past := by
  have move := move_after serve p event
  generalize p.after serve event = q at move he
  cases move with
  | start r => exact .inl he
  | @turn n t c next a b ht hp h =>
    refine (Backend.mem_sessions_of_answer h he).imp_right ?_
    rintro ⟨lifetime, stored⟩
    refine ⟨n, t, goOn t c next a b, lifetime, ht, Task.result?_of_ask hp, ?_, ?_⟩
    · exact List.getElem?_set_self (List.getElem?_eq_some_iff.1 ht).1
    · rw [← stored]
      exact List.mem_append_right _ (List.mem_singleton.2 rfl)
  | remove id => exact .inl he
  | idle _ _ sessions => exact .inl (sessions ▸ he)

/-! ## Tasks only go on -/

/-- The second task is the first one, perhaps some calls later. One that had a result is the
same. -/
structure Continues (t t' : Task ρ α) : Prop where
  request : t'.request = t.request
  past : t.past <+: t'.past
  result : ∀ a, t.program = .done a → t' = t

theorem Continues.refl (t : Task ρ α) : Continues t t := ⟨rfl, List.prefix_rfl, fun _ _ => rfl⟩

theorem Continues.trans {t₁ t₂ t₃ : Task ρ α} (h : Continues t₁ t₂) (h' : Continues t₂ t₃) :
    Continues t₁ t₃ where
  request := h'.request.trans h.request
  past := h.past.trans h'.past
  result a ha := by
    have e := h.result a ha
    exact (h'.result a (e ▸ ha)).trans e

/-- All tasks of the first pool are in the second one, perhaps some calls later. -/
def Extends (p q : Pool ρ α) : Prop :=
  ∀ (n : Nat) (t : Task ρ α), p.tasks[n]? = some t → ∃ t', q.tasks[n]? = some t' ∧ Continues t t'

theorem Extends.refl (p : Pool ρ α) : p.Extends p := fun _ t h => ⟨t, h, .refl t⟩

theorem Extends.trans {p q r : Pool ρ α} (h : p.Extends q) (h' : q.Extends r) : p.Extends r := by
  intro n t ht
  obtain ⟨t₁, ht₁, c₁⟩ := h n t ht
  obtain ⟨t₂, ht₂, c₂⟩ := h' n t₁ ht₁
  exact ⟨t₂, ht₂, c₁.trans c₂⟩

/-- No move loses a task, or changes a result. -/
theorem extends_of_move {p q : Pool ρ α} {e : Event ρ} (h : p.Move serve e q) : p.Extends q := by
  intro m s hs
  cases h with
  | start r =>
    refine ⟨s, ?_, .refl s⟩
    rw [List.getElem?_append_left (List.getElem?_eq_some_iff.1 hs).1]
    exact hs
  | @turn n t c next a b ht hp h =>
    by_cases hmn : n = m
    · subst hmn
      obtain rfl : t = s := Option.some.inj (ht.symm.trans hs)
      refine ⟨goOn t c next a b, ?_, rfl, List.prefix_append _ _, fun a' h' => ?_⟩
      · simp [List.getElem?_set_self (List.getElem?_eq_some_iff.1 hs).1]
      · rw [hp] at h'
        cases h'
    · exact ⟨s, by simpa [List.getElem?_set_ne hmn] using hs, .refl s⟩
  | remove id => exact ⟨s, hs, .refl s⟩
  | idle ht _ _ => exact ⟨s, ht ▸ hs, .refl s⟩

/-- No event loses a task, or changes a result. -/
theorem extends_after (p : Pool ρ α) (e : Event ρ) : p.Extends (p.after serve e) :=
  extends_of_move serve (move_after serve p e)

/-- No events lose a task, or change a result. -/
theorem extends_run (p : Pool ρ α) (events : List (Event ρ)) : p.Extends (p.run serve events) :=
  run_induction serve (motive := p.Extends) (.refl p)
    fun q e _ h => h.trans (extends_after serve q e)

/-! ## Tasks end -/

/-- The next call of the task with the number, if it makes one, is answered. -/
def GoesOn (p : Pool ρ α) (n : Nat) : Prop :=
  ∀ (t : Task ρ α) (c : Call) (next : c.Answer → Service α), p.tasks[n]? = some t →
    t.program = .ask c next →
    n ∉ p.dropped ∧ ∃ a b, ({ p.backend with work := t.work } : Backend).answer c = .ok (a, b)

/-- A turn takes the task one call closer to its end. -/
theorem within_after {p : Pool ρ α} {e : Event ρ} (calm : e.Calm) {n k : Nat} {t : Task ρ α}
    (goes : p.GoesOn n) (ht : p.tasks[n]? = some t)
    (within : t.program.Within (k + if e.isTurn n then 1 else 0)) :
    ∃ t', (p.after serve e).tasks[n]? = some t' ∧ t'.program.Within k := by
  cases e with
  | change b => exact ⟨t, ht, within⟩
  | turn m =>
    show ∃ t', (p.turn m).tasks[n]? = some t' ∧ t'.program.Within k
    by_cases e : m = n
    · subst e
      rw [if_pos (by simp [Event.isTurn])] at within
      cases hp : t.program with
      | done a =>
        rw [turn_of_done ht hp]
        refine ⟨t, ht, ?_⟩
        rw [hp]
        exact Program.within_done a
      | ask c next =>
        obtain ⟨running, a, b, ha⟩ := goes t c next ht hp
        rw [turn_of_ask ht running hp ha]
        rw [hp] at within
        exact ⟨_, List.getElem?_set_self (List.getElem?_eq_some_iff.1 ht).1, within a⟩
    · rw [if_neg (by simp [Event.isTurn, e])] at within
      rw [getElem?_turn_of_ne e]
      exact ⟨t, ht, within⟩
  | _ => exact calm.elim

/-- A task whose calls are answered all along is closer to its end by all its turns. -/
theorem within_run {p : Pool ρ α} {events : List (Event ρ)} (calm : ∀ e ∈ events, e.Calm)
    {n k : Nat} {t : Task ρ α} (goes : ∀ es, es <+: events → (p.run serve es).GoesOn n)
    (ht : p.tasks[n]? = some t)
    (within : t.program.Within (k + events.countP (Event.isTurn n))) :
    ∃ t', (p.run serve events).tasks[n]? = some t' ∧ t'.program.Within k := by
  induction events generalizing p t with
  | nil => exact ⟨t, ht, within⟩
  | cons e es ih =>
    rw [List.countP_cons, ← Nat.add_assoc] at within
    obtain ⟨t', ht', within'⟩ := within_after serve (calm e List.mem_cons_self)
      (goes [] List.nil_prefix) ht within
    refine ih (fun e' he' => calm e' (List.mem_cons_of_mem e he')) ?_ ht' within'
    exact fun es' hes => goes (e :: es') (List.cons_prefix_cons.2 ⟨rfl, hes⟩)

/-- A program that may make no call is done. -/
theorem done_of_within {p : Service α} (h : p.Within 0) : ∃ res, p = .done res := by
  cases p with
  | done res => exact ⟨res, rfl⟩
  | ask c next => exact h.elim

/-! ## What belongs to one task -/

section Belongings

variable {κ : Type} {f : Task ρ α → List κ}

/-- Lists that are part of others, one by one, are part of them when joined. -/
theorem flatMap_sublist {f : ρ → List κ} {xs ys : List ρ}
    (h : ∀ (n : Nat) (x : ρ), xs[n]? = some x → ∃ y, ys[n]? = some y ∧ (f x).Sublist (f y)) :
    (xs.flatMap f).Sublist (ys.flatMap f) := by
  induction xs generalizing ys with
  | nil => exact List.nil_sublist _
  | cons x xs ih =>
    obtain ⟨y, hy, hxy⟩ := h 0 x rfl
    cases ys with
    | nil => cases hy
    | cons z zs =>
      obtain rfl : z = y := Option.some.inj hy
      rw [List.flatMap_cons, List.flatMap_cons]
      exact hxy.append (ih fun n w hw => h (n + 1) w hw)

/-- What only grows with each task is distinct all along if it is distinct at the end. -/
theorem Extends.nodup {p q : Pool ρ α} (e : p.Extends q) (h : (q.tasks.flatMap f).Nodup)
    (grows : ∀ t t', Continues t t' → (f t).Sublist (f t')) : (p.tasks.flatMap f).Nodup := by
  refine h.sublist (flatMap_sublist fun n t ht => ?_)
  obtain ⟨t', ht', continues⟩ := e n t ht
  exact ⟨t', ht', grows t t' continues⟩

/-- What two tasks note is different, if nothing is noted twice. -/
theorem not_mem_of_nodup {p : Pool ρ α} (h : (p.tasks.flatMap f).Nodup) {n m : Nat}
    {t s : Task ρ α} (ht : p.tasks[n]? = some t) (hs : p.tasks[m]? = some s) (ne : n ≠ m) :
    ∀ x ∈ f t, x ∉ f s := by
  intro x hx hx'
  have apart := (List.pairwise_flatMap.1 h).2
  obtain ⟨hn, rfl⟩ := List.getElem?_eq_some_iff.1 ht
  obtain ⟨hm, rfl⟩ := List.getElem?_eq_some_iff.1 hs
  rw [List.pairwise_iff_getElem] at apart
  rcases Nat.lt_or_gt_of_ne ne with lt | lt
  · exact apart n m hn hm lt x hx x hx' rfl
  · exact apart m n hm hn lt x hx' x hx rfl

end Belongings

/-! ## Protocols -/

/-- Every task keeps to a protocol that all programs keep to when they are started, as long as the
protocol admits every answer of the surroundings. The state of the protocol is found from the unit
of work and the past calls of the task. -/
theorem keeps_run {σ : Type} (P : ρ → Protocol Call Call.Answer σ)
    (view : UnitOfWork → List Answered → σ) (post : ρ → α → σ → Prop)
    (admits : ∀ r past c a (b b' : Backend), b.answer c = .ok (a, b') →
      (P r).answers (view b.work past) c a (view b'.work (past ++ [⟨c, a⟩])))
    (starts : ∀ r, (serve r).Keeps (P r) (post r) (view {} [])) {p : Pool ρ α}
    {events : List (Event ρ)}
    (h : ∀ t ∈ p.tasks, t.program.Keeps (P t.request) (post t.request) (view t.work t.past)) :
    ∀ t ∈ (p.run serve events).tasks,
      t.program.Keeps (P t.request) (post t.request) (view t.work t.past) := by
  refine run_induction serve (motive := fun q => ∀ t ∈ q.tasks,
    t.program.Keeps (P t.request) (post t.request) (view t.work t.past)) h fun q e _ ih => ?_
  have move := move_after serve q e
  intro s hs
  generalize q.after serve e = q' at move hs
  cases move with
  | start r =>
    rcases List.mem_append.1 hs with hs | hs
    · exact ih s hs
    · rw [List.mem_singleton.1 hs]
      exact starts r
  | @turn n t c next a b ht hp h =>
    -- The other tasks do not notice: the protocol looks at nothing but the task itself.
    rcases List.mem_or_eq_of_mem_set hs with hs | rfl
    · exact ih s hs
    · have keeps := ih t (List.mem_of_getElem? ht)
      rw [hp] at keeps
      exact (keeps _ ((P t.request).drifts_refl _)).2 a _ (admits _ _ c a _ b h)
  | remove id => exact ih s hs
  | idle ht _ _ => exact ih s (ht ▸ hs)

end Pool

end FederatedLogin
