import FederatedLogin.Proofs.Account.Race

/-!
# Runs of racing logins

The logins of a race are started together and take turns in any order. In every pool that they
reach, the tables are agreed and each login keeps to its protocol (`Race.Running`). A login ends
after fifteen turns at most (`within_serve`), and when all have ended, they agree on one user and
have left one link for each provider (`logins_agree`).
-/

namespace FederatedLogin

namespace Race

open Backend

variable {r : Race} {l : Login}

/-! ## What a permitted call does -/

section Effects

variable {s : r.View} {c : Call} {a : c.Answer} {t' : Tables} {w' : UnitOfWork}

/-- The calls of logins are calls on users and links. -/
theorem onAccounts_of_permits (permitted : (r.protocol l).permits s c) : onAccounts c = true := by
  cases c <;> first | rfl | exact permitted

/-- A permitted call of a login leaves the tables as the logins agree on them. -/
theorem agreed_of_effect (hl : l ∈ r.logins) (permitted : (r.protocol l).permits s c)
    (effect : Effect s.tables s.work c a t' w') : r.Agreed t' := by
  cases effect with
  | updated ht => exact s.agreed.updateLink hl permitted.1 permitted.2 ht
  | committed _ ht => exact s.agreed.apply hl permitted.1 ht
  | _ => exact s.agreed

/-- A login lets the tables grow as the others expect. -/
theorem grows_of_effect {k : Login} {ids : List Uuid} (permitted : (r.protocol l).permits s c)
    (effect : Effect s.tables s.work c a t' w') (strange : ∀ id ∈ s.ids, id ∉ ids)
    (apart : r.Apart → l.issuer ≠ k.issuer) : r.Grows k ids s.tables t' := by
  cases effect with
  | updated ht => exact grows_of_updateLink ht
  | committed _ ht =>
    exact grows_of_apply permitted.1 ht (fun u hu => strange u.id (permitted.2 u hu)) apart
  | _ => exact .refl r k ids s.tables

/-- A login adds users under its own identifiers only. -/
theorem users_of_effect (permitted : (r.protocol l).permits s c)
    (effect : Effect s.tables s.work c a t' w') {u : User} (hu : u ∈ t'.users) :
    u ∈ s.tables.users ∨ u.id ∈ s.ids := by
  cases effect with
  | updated ht => exact .inl ((Tables.bindings_of_updateLink ht).1 ▸ hu)
  | committed _ ht =>
    rw [(Tables.rows_of_apply ht).1] at hu
    exact (List.mem_append.1 hu).imp_right (permitted.2 u)
  | _ => exact .inl hu

end Effects

/-! ## Fresh identifiers -/

/-- A pool of logins. -/
abbrev Logins := Pool Login (Except AccountError Onboarded)

/-- The identifiers that were made for users are distinct, and no user had one of them before. -/
structure Fresh (r : Race) (p : Logins) : Prop where
  distinct : (p.tasks.flatMap Task.userIds).Nodup
  new : ∀ id ∈ p.tasks.flatMap Task.userIds, ¬ r.before.HasUser id

/-- What is fresh at the end was fresh all along. -/
theorem Fresh.of_extends {p q : Logins} (h : r.Fresh q) (e : p.Extends q) : r.Fresh p := by
  have grows (t t' : Task Login (Except AccountError Onboarded)) (c : Pool.Continues t t') :
      t.userIds.Sublist t'.userIds := c.past.sublist.filterMap _
  refine ⟨e.nodup h.distinct grows, fun id hid => ?_⟩
  obtain ⟨t, ht, made⟩ := List.mem_flatMap.1 hid
  obtain ⟨n, hn⟩ := List.mem_iff_getElem?.1 ht
  obtain ⟨t', ht', continues⟩ := e n t hn
  refine h.new id (List.mem_flatMap.2 ⟨t', List.mem_of_getElem? ht', ?_⟩)
  exact (grows t t' continues).subset made

/-- No identifier is made in two logins. -/
theorem Fresh.disjoint {p : Logins} (h : r.Fresh p) {n m : Nat}
    {t s : Task Login (Except AccountError Onboarded)} (ht : p.tasks[n]? = some t)
    (hs : p.tasks[m]? = some s) (ne : n ≠ m) : ∀ id ∈ t.userIds, id ∉ s.userIds :=
  Pool.not_mem_of_nodup h.distinct ht hs ne

/-! ## The invariant -/

/-- The logins of a race before their first calls. -/
def begin (r : Race) (b : Backend) : Logins where
  backend := { b with tables := r.before }
  tasks := r.logins.map (Pool.begun Login.serve)

/-- Where the logins of a race can get to. -/
structure Running (r : Race) (p : Logins) : Prop where
  quiet : p.backend.Quiet
  dropped : p.dropped = []
  requests : p.tasks.map (·.request) = r.logins
  agreed : r.Agreed p.backend.tables
  keeps : ∀ (n : Nat) t, p.tasks[n]? = some t →
    t.program.Keeps (r.protocol t.request) (Succeeded t.request)
      ⟨p.backend.tables, t.work, t.userIds, agreed⟩
  users : ∀ u ∈ p.backend.tables.users,
    u ∈ r.before.users ∨ ∃ t ∈ p.tasks, u.id ∈ t.userIds

variable {p : Logins} {n : Nat} {t : Task Login (Except AccountError Onboarded)}

/-- Before their first calls the logins are where they can get to. -/
theorem running_begin {b : Backend} (quiet : b.Quiet) : r.Running (r.begin b) := by
  have requests : (r.begin b).tasks.map (·.request) = r.logins := by
    unfold begin
    rw [List.map_map]
    exact List.map_id _
  refine ⟨quiet, rfl, requests, r.agreed_before, ?_, fun u hu => .inl hu⟩
  intro n t ht
  obtain ⟨l, hl, rfl⟩ := List.mem_map.1 (List.mem_of_getElem? ht)
  exact keeps_onboard hl fun _ h => nomatch h

/-- The task with a number is that of the login with the number. -/
theorem Running.login (h : r.Running p) (ht : p.tasks[n]? = some t) :
    r.logins[n]? = some t.request := by
  rw [← h.requests, List.getElem?_map, ht]
  rfl

/-- Where the providers are all different, those of two tasks are. -/
theorem Running.apart (h : r.Running p) {m : Nat}
    {s : Task Login (Except AccountError Onboarded)} (ht : p.tasks[n]? = some t)
    (hs : p.tasks[m]? = some s) (ne : n ≠ m) (apart : r.Apart) :
    t.request.issuer ≠ s.request.issuer := by
  obtain ⟨hn, en⟩ := List.getElem?_eq_some_iff.1 (h.login ht)
  obtain ⟨hm, em⟩ := List.getElem?_eq_some_iff.1 (h.login hs)
  unfold Apart at apart
  rw [List.pairwise_iff_getElem] at apart
  rw [← en, ← em]
  rcases Nat.lt_or_gt_of_ne ne with lt | lt
  · exact apart n m hn hm lt
  · exact (apart m n hm hn lt).symm

/-- An identifier that is made for a task is not one of a stored user. -/
theorem Running.fresh (h : r.Running p) {q : Logins} (fresh : r.Fresh q)
    (others : ∀ (m : Nat) s, p.tasks[m]? = some s → m ≠ n → q.tasks[m]? = some s)
    {t' : Task Login (Except AccountError Onboarded)} (ht : p.tasks[n]? = some t)
    (ht' : q.tasks[n]? = some t') {id : Uuid} (hid : t'.userIds = t.userIds ++ [id]) :
    ¬ p.backend.tables.HasUser id := by
  have mem : id ∈ t'.userIds := by simp [hid]
  -- Users were there before, or a task made their identifiers: this one or another one.
  rintro ⟨u, hu, rfl⟩
  rcases h.users u hu with old | ⟨s, hs, made⟩
  · refine fresh.new u.id ?_ ⟨u, old, rfl⟩
    exact List.mem_flatMap.2 ⟨t', List.mem_of_getElem? ht', mem⟩
  · obtain ⟨m, hm⟩ := List.mem_iff_getElem?.1 hs
    by_cases e : m = n
    · subst e
      obtain rfl : t = s := Option.some.inj (ht.symm.trans hm)
      have nodup := (List.pairwise_flatMap.1 fresh.distinct).1 t' (List.mem_of_getElem? ht')
      rw [hid] at nodup
      exact (List.pairwise_append.1 nodup).2.2 u.id made u.id (List.mem_singleton.2 rfl) rfl
    · exact fresh.disjoint (others m s hm e) ht' e u.id made mem

/-- An answered call adds the identifier that it made, if it made one. -/
theorem userIds_goOn (t : Task Login (Except AccountError Onboarded)) (c : Call)
    (next : c.Answer → Service (Except AccountError Onboarded)) (a : c.Answer) (b : Backend) :
    (Pool.goOn t c next a b).userIds = t.userIds ++ (Answered.userId? ⟨c, a⟩).toList := by
  unfold Task.userIds Pool.goOn
  rw [List.filterMap_append]
  congr 1

/-- An answered call of a login keeps the invariant. -/
theorem Running.answered (h : r.Running p) {c : Call}
    {next : c.Answer → Service (Except AccountError Onboarded)} {a : c.Answer} {b : Backend}
    (ht : p.tasks[n]? = some t) (hp : t.program = .ask c next)
    (ha : ({ p.backend with work := t.work } : Backend).answer c = .ok (a, b))
    (fresh : r.Fresh { p with backend := b, tasks := p.tasks.set n (Pool.goOn t c next a b) }) :
    r.Running { p with backend := b, tasks := p.tasks.set n (Pool.goOn t c next a b) } := by
  have keeps := h.keeps n t ht
  rw [hp] at keeps
  obtain ⟨permitted, go⟩ := keeps _ ((r.protocol t.request).drifts_refl _)
  obtain ⟨effect, quiet⟩ :=
    effect_of_answer (b := { p.backend with work := t.work }) h.quiet
      (onAccounts_of_permits permitted) ha
  have hl : t.request ∈ r.logins := List.mem_of_getElem? (h.login ht)
  have self : (p.tasks.set n (Pool.goOn t c next a b))[n]? = some (Pool.goOn t c next a b) :=
    List.getElem?_set_self (List.getElem?_eq_some_iff.1 ht).1
  have others (m : Nat) (s) (hs : p.tasks[m]? = some s) (ne : m ≠ n) :
      (p.tasks.set n (Pool.goOn t c next a b))[m]? = some s := by
    rwa [List.getElem?_set_ne (Ne.symm ne)]
  have ids := userIds_goOn t c next a b
  refine ⟨quiet, h.dropped, ?_, agreed_of_effect hl permitted effect, ?_, ?_⟩
  · rw [List.map_set, h.requests]
    obtain ⟨hn, e⟩ := List.getElem?_eq_some_iff.1 (h.login ht)
    show r.logins.set n t.request = r.logins
    rw [← e, List.set_getElem_self]
  · intro m s hs
    by_cases e : m = n
    · subst e
      obtain rfl : Pool.goOn t c next a b = s := Option.some.inj (self.symm.trans hs)
      refine go a _ ⟨effect, ids, fun id made => ?_⟩
      rw [made] at ids
      exact h.fresh fresh others ht self ids
    · have hs' : p.tasks[m]? = some s := by rwa [List.getElem?_set_ne (Ne.symm e)] at hs
      -- The other tasks see the tables grow as their protocols have it.
      have strange : ∀ id ∈ t.userIds, id ∉ s.userIds := by
        intro id hid
        refine fresh.disjoint self (others m s hs' e) (Ne.symm e) id ?_
        rw [ids]
        exact List.mem_append_left _ hid
      have grows : r.Grows s.request s.userIds p.backend.tables b.tables :=
        grows_of_effect (s := ⟨p.backend.tables, t.work, t.userIds, h.agreed⟩) permitted effect
          strange (h.apart ht hs' (Ne.symm e))
      exact (h.keeps m s hs').drift ⟨rfl, rfl, grows⟩
  · intro u hu
    rcases users_of_effect permitted effect hu with hu | hu
    · refine (h.users u hu).imp_right ?_
      rintro ⟨s, hs, made⟩
      obtain ⟨m, hm⟩ := List.mem_iff_getElem?.1 hs
      by_cases e : m = n
      · subst e
        obtain rfl : t = s := Option.some.inj (ht.symm.trans hm)
        refine ⟨_, List.mem_of_getElem? self, ?_⟩
        rw [ids]
        exact List.mem_append_left _ made
      · exact ⟨s, List.mem_of_getElem? (others m s hm e), made⟩
    · refine .inr ⟨_, List.mem_of_getElem? self, ?_⟩
      rw [ids]
      exact List.mem_append_left _ hu

/-- A login that is not done has its next call answered. -/
theorem Running.exists_answer (h : r.Running p) {c : Call}
    {next : c.Answer → Service (Except AccountError Onboarded)} (ht : p.tasks[n]? = some t)
    (hp : t.program = .ask c next) :
    ∃ a b, ({ p.backend with work := t.work } : Backend).answer c = .ok (a, b) := by
  have keeps := h.keeps n t ht
  rw [hp] at keeps
  obtain ⟨permitted, -⟩ := keeps _ ((r.protocol t.request).drifts_refl _)
  exact Backend.exists_answer _ (onAccounts_of_permits permitted)

/-- A login whose call is answered leaves all of them where they can get to. -/
theorem Running.turn_of_ask (h : r.Running p) {c : Call}
    {next : c.Answer → Service (Except AccountError Onboarded)} {a : c.Answer} {b : Backend}
    (ht : p.tasks[n]? = some t) (hp : t.program = .ask c next)
    (ha : ({ p.backend with work := t.work } : Backend).answer c = .ok (a, b)) :
    p.turn n = { p with backend := b, tasks := p.tasks.set n (Pool.goOn t c next a b) } :=
  Pool.turn_of_ask ht (by simp [h.dropped]) hp ha

/-- An event without failures keeps the invariant. -/
theorem Running.after (h : r.Running p) {e : Event Login} (calm : e.Calm)
    (fresh : r.Fresh (p.after Login.serve e)) : r.Running (p.after Login.serve e) := by
  cases e with
  | change b => exact ⟨calm, h.dropped, h.requests, h.agreed, h.keeps, h.users⟩
  | turn n =>
    show r.Running (p.turn n)
    have fresh : r.Fresh (p.turn n) := fresh
    cases ht : p.tasks[n]? with
    | none => rwa [Pool.turn_of_none ht]
    | some t =>
      cases hp : t.program with
      | done a => rwa [Pool.turn_of_done ht hp]
      | ask c next =>
        obtain ⟨a, b, ha⟩ := h.exists_answer ht hp
        rw [h.turn_of_ask ht hp ha] at fresh ⊢
        exact h.answered ht hp ha fresh
  | _ => exact calm.elim

/-- Whatever happens, as long as no failure is scripted, the logins stay where they can get to. -/
theorem running_run {events : List (Event Login)} (h : r.Running p)
    (calm : ∀ e ∈ events, e.Calm) (fresh : r.Fresh (p.run Login.serve events)) :
    r.Running (p.run Login.serve events) := by
  induction events generalizing p with
  | nil => exact h
  | cons e es ih =>
    have now : r.Fresh (p.after Login.serve e) := fresh.of_extends (Pool.extends_run _ _ es)
    exact ih (h.after (calm e List.mem_cons_self) now)
      (fun e' he' => calm e' (List.mem_cons_of_mem e he')) fresh

/-! ## Logins end -/

section Bounds

open Program

theorem within_call (c : Call) : (call c).Within 1 := within_question c

/-- A transaction makes two calls besides those of its work. -/
theorem within_inTransaction {α : Type} {work : Service (Except StorageError α)} {n : Nat}
    (h : work.Within n) : (Account.inTransaction work).Within (1 + (n + 1)) := by
  refine (within_call .begin).bind fun began => ?_
  split
  · exact within_done _
  · refine h.bind fun did => ?_
    split
    · exact within_done _
    · exact Within.bind (m := 0) (within_call .commit) fun _ => by split <;> exact within_done _

/-- A user and a link are inserted in two calls. -/
theorem within_insertBoth (user : User) (link : Link) :
    (Account.insertBoth user link).Within 2 := by
  refine Within.bind (n := 1) (m := 1) (within_call _) fun inserted => ?_
  split
  · exact within_done _
  · exact within_call _

/-- One attempt at a login takes seven calls at most. -/
theorem within_resolve (issuer : String) (tokens : TokenSet) (identity : Identity) :
    (Account.resolve issuer tokens identity).Within 7 := by
  refine Within.bind (n := 1) (m := 6) (within_call .now) fun now => ?_
  refine Within.bind (n := 1) (m := 5) (within_call _) fun user => ?_
  split
  · refine Within.bind (n := 1) (m := 4) (within_call .newUserId) fun id => ?_
    exact (within_inTransaction (within_insertBoth _ _)).map _
  · exact within_done _
  · refine Within.bind (n := 1) (m := 4) (within_call _) fun link => ?_
    split
    · exact ((within_inTransaction (within_call _)).map _).mono (by omega)
    · exact within_done _
    · unfold Account.refreshLink
      split
      · refine Within.bind (n := 1) (m := 3) (within_call _) fun _ => ?_
        exact ((within_call _).map _).mono (by omega)
      · exact ((within_call _).map _).mono (by omega)

/-- A login ends after fifteen calls at most. -/
theorem within_serve (l : Login) : l.serve.Within 15 := by
  refine Within.bind (n := 7) (m := 8) (within_resolve _ _ _) fun res => ?_
  split
  · exact Within.bind (n := 1) (m := 7) (within_call _) fun _ => within_resolve _ _ _
  · exact within_done _

end Bounds

/-- Each call of a login is answered. -/
theorem Running.goesOn (h : r.Running p) (n : Nat) : p.GoesOn n :=
  fun _ _ _ ht hp => ⟨by simp [h.dropped], h.exists_answer ht hp⟩

/-- The turns of a login take it closer to its end. -/
theorem within_run {events : List (Event Login)} {k : Nat} (h : r.Running p)
    (calm : ∀ e ∈ events, e.Calm) (fresh : r.Fresh (p.run Login.serve events))
    (ht : p.tasks[n]? = some t)
    (within : t.program.Within (k + events.countP (Event.isTurn n))) :
    ∃ t', (p.run Login.serve events).tasks[n]? = some t' ∧ t'.program.Within k := by
  refine Pool.within_run Login.serve calm (fun es hes => ?_) ht within
  obtain ⟨rest, rfl⟩ := hes
  rw [Pool.run_append] at fresh
  have calm' : ∀ e ∈ es, e.Calm := fun e he => calm e (List.mem_append_left _ he)
  exact (running_run h calm' (fresh.of_extends (Pool.extends_run _ _ rest))).goesOn n

/-! ## Agreement -/

/-- Of rows no two of which have a property, just one has it if one does. -/
theorem countP_eq_one {ρ : Type} {q : ρ → Bool} {rows : List ρ} {x : ρ}
    (h : rows.Pairwise fun a b => q a = true → q b = false) (hx : x ∈ rows) (hq : q x = true) :
    rows.countP q = 1 := by
  induction h with
  | nil => cases hx
  | @cons a rows ha _ ih =>
    rcases List.mem_cons.1 hx with rfl | hx
    · rw [List.countP_cons_of_pos hq, List.countP_eq_zero.2 fun b hb => by simp [ha b hb hq]]
    · have hqa : ¬ q a = true := fun hqa => by simp [ha x hx hqa] at hq
      rw [List.countP_cons_of_neg hqa]
      exact ih hx

/-- A done login has succeeded. -/
theorem Running.succeeded (h : r.Running p) (ht : p.tasks[n]? = some t)
    {res : Except AccountError Onboarded} (hp : t.program = .done res) :
    Succeeded t.request res ⟨p.backend.tables, t.work, t.userIds, h.agreed⟩ := by
  have keeps := h.keeps n t ht
  rw [hp] at keeps
  exact keeps _ ((r.protocol t.request).drifts_refl _)

/-- The task ended with a new user. -/
def createdUser (t : Task Login (Except AccountError Onboarded)) : Bool :=
  match t.result? with
  | some (.ok o) => o.outcome = .createdUser
  | _ => false

/-- What the logins of a race leave behind when all have ended. -/
structure Agreement (r : Race) (p : Logins) (id : Uuid) : Prop where
  /-- All logins return the same user. -/
  results : ∀ t ∈ p.tasks, ∃ o, t.result? = some (.ok o) ∧ o.user.id = id
  holder : p.backend.tables.Holds r.email id
  oneUser : p.backend.tables.users.countP (fun u => u.email = r.email) = 1
  oneLink : ∀ l ∈ r.logins,
    p.backend.tables.links.countP (fun m => m.userId = id && m.issuer = l.issuer) = 1
  noneCreated : r.before.HasEmail r.email → p.tasks.countP createdUser = 0
  oneCreated : ¬ r.before.HasEmail r.email → p.tasks.countP createdUser = 1
  otherUsers : p.backend.tables.users.filter (fun u => u.email ≠ r.email)
    = r.before.users.filter fun u => u.email ≠ r.email
  otherLinks : p.backend.tables.links.filter (r.other id) = r.before.links.filter (r.other id)

/-- The users with other addresses are those from before. -/
theorem Agreed.otherUsers {t : Tables} (h : r.Agreed t) :
    t.users.filter (fun u => u.email ≠ r.email)
      = r.before.users.filter fun u => u.email ≠ r.email := by
  rcases h.users with e | ⟨-, u, he, e⟩
  · rw [e]
  · rw [e, List.filter_append, List.filter_cons_of_neg (by simp [he])]
    exact List.append_nil _

/-- If a user has the address, just one has it. -/
theorem Agreed.oneUser {t : Tables} (h : r.Agreed t) {id : Uuid} (holder : t.Holds r.email id) :
    t.users.countP (fun u => u.email = r.email) = 1 := by
  obtain ⟨u, hu, he, -⟩ := holder
  refine countP_eq_one (h.sound.distinctEmails.imp ?_) hu (by simp [he])
  intro v w ne hv
  have hv : v.email = r.email := by simpa using hv
  exact decide_eq_false fun hw => ne (hv.trans hw.symm)

/-- If a user has a link for a provider, it is just one. -/
theorem Agreed.oneLink {t : Tables} (h : r.Agreed t) {id : Uuid} {issuer : String}
    (linked : t.HasLink id issuer) :
    t.links.countP (fun m => m.userId = id && m.issuer = issuer) = 1 := by
  obtain ⟨m, hm, rfl, rfl⟩ := linked
  refine countP_eq_one (h.sound.distinctUserIssuers.imp ?_) hm (by simp)
  intro k k' ne hk
  obtain ⟨e, e'⟩ : k.userId = m.userId ∧ k.issuer = m.issuer := by simpa using hk
  rw [Bool.and_eq_false_iff]
  by_cases same : k'.userId = m.userId
  · refine .inr (decide_eq_false fun same' => ne ?_)
    rw [e, e', same, same']
  · exact .inl (decide_eq_false same)

/-- An ended login created the user exactly if the identifier was made for it. -/
theorem Running.createdUser_iff (h : r.Running p) {id : Uuid}
    (holder : p.backend.tables.Holds r.email id) (ht : t ∈ p.tasks) (ended : t.result?.isSome) :
    createdUser t = true ↔ id ∈ t.userIds := by
  obtain ⟨n, hn⟩ := List.mem_iff_getElem?.1 ht
  obtain ⟨res, hr⟩ := Option.isSome_iff_exists.1 ended
  have hp := Task.program_of_result? hr
  obtain ⟨o, rfl, hu, he, -, created⟩ := h.succeeded hn hp
  have same : o.user.id = id := h.agreed.holder_unique ⟨o.user, hu, he, rfl⟩ holder
  have iff : o.outcome = .createdUser ↔ o.user.id ∈ t.userIds := created
  rw [← same, ← iff]
  simp [createdUser, hr]

/-- No login created a user who was there before. -/
theorem Running.noneCreated (h : r.Running p) (fresh : r.Fresh p) {id : Uuid}
    (holder : p.backend.tables.Holds r.email id) (ended : ∀ t ∈ p.tasks, t.result?.isSome)
    (known : r.before.HasEmail r.email) : p.tasks.countP createdUser = 0 := by
  refine List.countP_eq_zero.2 fun t ht created => ?_
  have made := (h.createdUser_iff holder ht (ended t ht)).1 created
  have same : p.backend.tables.users = r.before.users :=
    h.agreed.users.resolve_right fun ⟨unknown, _⟩ => unknown known
  obtain ⟨u, hu, -, rfl⟩ := holder
  exact fresh.new u.id (List.mem_flatMap.2 ⟨t, ht, made⟩) ⟨u, same ▸ hu, rfl⟩

/-- Just one login created a user who was not there before. -/
theorem Running.oneCreated (h : r.Running p) (fresh : r.Fresh p) {id : Uuid}
    (holder : p.backend.tables.Holds r.email id) (ended : ∀ t ∈ p.tasks, t.result?.isSome)
    (unknown : ¬ r.before.HasEmail r.email) : p.tasks.countP createdUser = 1 := by
  have iff (t) (ht : t ∈ p.tasks) := h.createdUser_iff holder ht (ended t ht)
  obtain ⟨t, ht, made⟩ : ∃ t ∈ p.tasks, id ∈ t.userIds := by
    obtain ⟨u, hu, he, rfl⟩ := holder
    exact (h.users u hu).resolve_left fun old => unknown ⟨u, old, he⟩
  -- The identifier of the user was made once, and only its maker created the user.
  refine countP_eq_one ?_ ht ((iff t ht).2 made)
  refine (List.pairwise_flatMap.1 fresh.distinct).2.imp_of_mem ?_
  intro t s ht hs apart created
  refine Bool.eq_false_iff.2 fun created' => ?_
  exact apart id ((iff t ht).1 created) id ((iff s hs).1 created') rfl

/-- When all logins have ended, they agree. -/
theorem Running.agreement (h : r.Running p) (fresh : r.Fresh p) (entered : r.logins ≠ [])
    (ended : ∀ t ∈ p.tasks, t.result?.isSome) : ∃ id, Agreement r p id := by
  have result (t) (ht : t ∈ p.tasks) : ∃ o, t.result? = some (.ok o) ∧
      p.backend.tables.Holds r.email o.user.id ∧
      p.backend.tables.HasLink o.user.id t.request.issuer := by
    obtain ⟨n, hn⟩ := List.mem_iff_getElem?.1 ht
    obtain ⟨res, hr⟩ := Option.isSome_iff_exists.1 (ended t ht)
    obtain ⟨o, rfl, hu, he, linked, -⟩ := h.succeeded hn (Task.program_of_result? hr)
    exact ⟨o, hr, ⟨o.user, hu, he, rfl⟩, linked⟩
  -- The result of any one login names the user of all.
  obtain ⟨l₀, hl₀⟩ := List.exists_mem_of_ne_nil _ entered
  rw [← h.requests] at hl₀
  obtain ⟨t₀, ht₀, -⟩ := List.mem_map.1 hl₀
  obtain ⟨o₀, -, holder, -⟩ := result t₀ ht₀
  refine ⟨o₀.user.id, ?_, holder, h.agreed.oneUser holder, ?_, h.noneCreated fresh holder ended,
    h.oneCreated fresh holder ended, h.agreed.otherUsers, h.agreed.others _ holder⟩
  · intro t ht
    obtain ⟨o, ho, holder', -⟩ := result t ht
    exact ⟨o, ho, h.agreed.holder_unique holder' holder⟩
  · intro l hl
    rw [← h.requests] at hl
    obtain ⟨t, ht, rfl⟩ := List.mem_map.1 hl
    obtain ⟨o, -, holder', linked⟩ := result t ht
    rw [h.agreed.holder_unique holder' holder] at linked
    exact h.agreed.oneLink linked

/-- Logins of one person that are started together and take turns in any order all succeed, each
after fifteen turns at most. When all have ended, they agree on one user. -/
theorem logins_agree (r : Race) (entered : r.logins ≠ []) (b : Backend) (quiet : b.Quiet)
    (events : List (Event Login)) (calm : ∀ e ∈ events, e.Calm)
    (fresh : r.Fresh ((r.begin b).run Login.serve events)) :
    let p := (r.begin b).run Login.serve events
    p.tasks.map (·.request) = r.logins ∧
      (∀ n < r.logins.length, 15 ≤ events.countP (Event.isTurn n) →
        ∃ t o, p.tasks[n]? = some t ∧ t.result? = some (.ok o)) ∧
      ((∀ t ∈ p.tasks, t.result?.isSome) → ∃ id, Agreement r p id) := by
  intro p
  have start : r.Running (r.begin b) := running_begin quiet
  have running : r.Running p := running_run start calm fresh
  refine ⟨running.requests, ?_, fun ended => running.agreement fresh entered ended⟩
  intro n hn turns
  have begun : (r.begin b).tasks[n]? = some (Pool.begun Login.serve r.logins[n]) := by
    unfold begin
    rw [List.getElem?_map, List.getElem?_eq_getElem hn]
    rfl
  have within : (Pool.begun Login.serve r.logins[n]).program.Within
      (0 + events.countP (Event.isTurn n)) :=
    (within_serve r.logins[n]).mono (by omega)
  obtain ⟨t, ht, ended⟩ := within_run start calm fresh begun within
  obtain ⟨res, hp⟩ := Pool.done_of_within ended
  obtain ⟨o, rfl, -⟩ := running.succeeded ht hp
  exact ⟨t, o, ht, Task.result?_of_done hp⟩

/-- Two logins of a person whom nobody knows yet. The provider gives the person two names. -/
def twoLogins : Race where
  before := {}
  email := "a@x"
  logins := [⟨"github", default, ⟨"s", "", "a@x", true, none, none⟩⟩,
    ⟨"github", default, ⟨"t", "", "a@x", true, none, none⟩⟩]
  sound := Tables.sound_empty
  oneEmail := by decide
  alike := .inl (by decide)
  own := fun _ _ _ h => nomatch h

/-- Both logins find no user, and the first one creates it. -/
theorem logins_agree_two :
    let events := [.turn 0, .turn 0, .turn 1, .turn 1] ++ List.replicate 15 (.turn 0)
      ++ List.replicate 15 (.turn 1)
    twoLogins.logins ≠ [] ∧ (default : Backend).Quiet ∧ (∀ e ∈ events, e.Calm) ∧
      twoLogins.Fresh ((twoLogins.begin default).run Login.serve events) ∧
      ∃ id, Agreement twoLogins ((twoLogins.begin default).run Login.serve events) id := by
  intro events
  have entered : twoLogins.logins ≠ [] := List.cons_ne_nil _ _
  have quiet : (default : Backend).Quiet := fun _ h => nomatch h
  have calm : ∀ e ∈ events, e.Calm := by
    intro e he
    simp only [events, List.mem_append, List.mem_cons, List.mem_replicate, List.not_mem_nil] at he
    rcases he with ((rfl | rfl | rfl | rfl | h) | ⟨-, rfl⟩) | ⟨-, rfl⟩
    all_goals first | exact trivial | exact h.elim
  have fresh : twoLogins.Fresh ((twoLogins.begin default).run Login.serve events) :=
    ⟨by decide +kernel, fun _ _ ⟨_, h, _⟩ => nomatch h⟩
  have ended : ∀ t ∈ ((twoLogins.begin default).run Login.serve events).tasks,
      t.result?.isSome := by decide +kernel
  exact ⟨entered, quiet, calm, fresh,
    (logins_agree twoLogins entered default quiet events calm fresh).2.2 ended⟩

end Race

end FederatedLogin
