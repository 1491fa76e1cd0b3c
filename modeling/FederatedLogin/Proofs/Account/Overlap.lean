import FederatedLogin.Proofs.Account.History
import FederatedLogin.Proofs.Account.Racing

/-!
# Overlapping updates of a link

Updates of one link run at the same time and take turns, one call at a time. Each reads the link,
merges its tokens in, and stores the result; nothing keeps another update from storing in between.
The last one to store decides on all tokens (`Overlap.Merged`), and a login without a refresh token
stores the one that it has read. What was read is as before, or comes from another update
(`Overlap.Known`), so that at the end the tokens are those of some order of the updates one after
another, unless such a login stored last what it had read too early (`overlap_outcome`). That this
can happen is `overlap_loses_revocation`.
-/

namespace FederatedLogin

namespace Answered

/-- A link was read. -/
def linked (userId : Uuid) (issuer : String) (l : Link) : Answered :=
  ⟨.linkOf userId issuer, (.ok l : Except StorageError Link)⟩

/-- The reading of the clock. -/
def time? : Answered → Option Time.Instant
  | ⟨.now, i⟩ => some i
  | _ => none

end Answered

/-- Updates that run at the same time, and the tables with the link before them. -/
structure Overlap where
  before : Tables
  user : User
  issuer : String
  front : List Link
  link : Link
  back : List Link
  linked : before.Linked user issuer front link back
  calls : List TokenUpdate

namespace Overlap

open Backend

variable {o : Overlap} {u : TokenUpdate} {past : List Answered} {m : Link} {α : Type}

/-- The program of an update. -/
def serve (o : Overlap) (u : TokenUpdate) : Service (Except AccountError Record) :=
  (u.operation o.user o.issuer).serve

/-- The tables with a link in place of the one before. -/
def tables (o : Overlap) (m : Link) : Tables := o.before.withLinks (o.front ++ m :: o.back)

/-- With another link of the same origin in its place, the tables hold that link. -/
theorem linked_tables (same : m.origin = o.link.origin) :
    (o.tables m).Linked o.user o.issuer o.front m o.back := o.linked.withLinks same

/-! ## One update -/

/-- What is answered about the user and the link, as long as only tokens of the link change. -/
def Tells (o : Overlap) : (c : Call) → c.Answer → Prop
  | .userByEmail email, a => email = o.user.email → a = .ok o.user
  | .linkOf id issuer, a =>
    id = o.user.id → issuer = o.issuer → ∃ m : Link, a = .ok m ∧ m.origin = o.link.origin
  | .updateLink m, a => m.origin = o.link.origin → a = .ok ()
  | _, _ => True

/-- The link is what the update makes of a link that was read, with the time that was read first. -/
def Merged (o : Overlap) (u : TokenUpdate) (past : List Answered) (m : Link) : Prop :=
  ∃ read now last, Answered.linked o.user.id o.issuer read ∈ past ∧
    past.findSome? Answered.time? = some now ∧ m = u.apply now last read

/-- An update stores no link but the one that it makes of a link that it has read. Its state is what
it was answered so far. -/
def protocol (o : Overlap) (u : TokenUpdate) : Protocol Call Call.Answer (List Answered) :=
  .still
    (fun past c => match c with
      | .updateLink m => m.origin = o.link.origin ∧ o.Merged u past m
      | .now | .log _ _ | .userByEmail _ | .linkOf _ _ => True
      | _ => False)
    fun past c a past' => past' = past ++ [⟨c, a⟩] ∧ o.Tells c a

/-- The update has succeeded and stored tokens. -/
def Landed {β : Type} (r : Except AccountError β) (past : List Answered) : Prop :=
  (∃ b, r = .ok b) ∧ ∃ m, Answered.updated m ∈ past

/-- An update that makes a permitted call keeps to the protocol if it does with every answer. -/
theorem keeps_call {c : Call} {f : c.Answer → Service α} {post : α → List Answered → Prop}
    (permitted : (o.protocol u).permits past c)
    (h : ∀ a, o.Tells c a → (f a).Keeps (o.protocol u) post (past ++ [⟨c, a⟩])) :
    (call c >>= f).Keeps (o.protocol u) post past := by
  refine Program.keeps_ask_bind ?_
  rintro _ rfl
  refine ⟨permitted, ?_⟩
  rintro a _ ⟨rfl, told⟩
  exact h a told

/-- The merged link is stored. -/
theorem keeps_store {post : Except StorageError Unit → List Answered → Prop}
    (same : m.origin = o.link.origin) (merged : o.Merged u past m)
    (h : post (.ok ()) (past ++ [Answered.updated m])) :
    (call (.updateLink m)).Keeps (o.protocol u) post past := by
  rintro _ rfl
  refine ⟨⟨same, merged⟩, ?_⟩
  rintro a _ ⟨rfl, told⟩
  obtain rfl := told same
  rintro _ rfl
  exact h

/-- A login stores what it makes of a link that it has read. -/
theorem keeps_refreshLink {read : Link} {tokens : TokenSet} {identity identity' : Identity}
    {now : Time.Instant} (same : read.origin = o.link.origin)
    (seen : Answered.linked o.user.id o.issuer read ∈ past)
    (time : past.findSome? Answered.time? = some now) :
    (Account.refreshLink o.user read tokens identity now).Keeps
      (o.protocol (.login tokens identity')) Landed past := by
  have stored (past : List Answered) (seen : Answered.linked o.user.id o.issuer read ∈ past)
      (time : past.findSome? Answered.time? = some now) :
      (Account.finished o.user (read.refresh tokens now) .refreshedLink <$>
        call (.updateLink (read.refresh tokens now))).Keeps (o.protocol (.login tokens identity'))
        Landed past := by
    refine Program.Keeps.map (keeps_store same ⟨read, now, now, seen, time, rfl⟩ ?_)
    exact ⟨⟨_, rfl⟩, _, List.mem_append_right _ List.mem_cons_self⟩
  unfold Account.refreshLink
  split
  · refine keeps_call trivial fun _ _ => stored _ (List.mem_append_left _ seen) ?_
    rw [List.findSome?_append, time]
    rfl
  · exact stored past seen time

/-- A login keeps to the protocol: it finds the user and the link, and refreshes the link. -/
theorem keeps_login (tokens : TokenSet) (identity : Identity) :
    (o.serve (.login tokens identity)).Keeps (o.protocol (.login tokens identity)) Landed [] := by
  refine Program.Keeps.map ?_
  unfold Account.onboard Account.resolve
  refine Program.Keeps.bind
    (keeps_call trivial fun now _ => keeps_call trivial fun found told => ?_)
  obtain rfl := told rfl
  refine keeps_call trivial fun linked told => ?_
  obtain ⟨read, rfl, same⟩ := told rfl rfl
  refine (keeps_refreshLink same (List.mem_append_right _ List.mem_cons_self) rfl).mono ?_
  rintro _ past ⟨⟨done, rfl⟩, landed⟩ _ rfl
  exact ⟨⟨_, rfl⟩, landed⟩

/-- Copying tokens onto the link keeps to the protocol. -/
theorem keeps_updateLink {other : Link} (owner : other.userId = o.user.id)
    (provider : other.issuer = o.issuer) (merges : ∀ (read : Link) now,
      read.withTokensOf other now = u.apply ((past.findSome? Answered.time?).getD now) now read) :
    (Account.updateLink other).Keeps (o.protocol u) Landed past := by
  unfold Account.updateLink
  rw [owner, provider]
  refine keeps_call trivial fun linked told => ?_
  obtain ⟨read, rfl, same⟩ := told rfl rfl
  refine keeps_call trivial fun now _ => Program.Keeps.bind ?_
  let seen : List Answered := [Answered.linked o.user.id o.issuer read, ⟨.now, now⟩]
  have time : (past ++ seen).findSome? Answered.time?
      = some ((past.findSome? Answered.time?).getD now) := by
    rw [List.findSome?_append]
    cases past.findSome? Answered.time? <;> rfl
  rw [List.append_assoc]
  refine keeps_store same ⟨read, _, now, ?_, time, merges read now⟩ ?_
  · exact List.mem_append_right _ List.mem_cons_self
  · rintro _ rfl
    exact ⟨⟨_, rfl⟩, _, List.mem_append_right _ List.mem_cons_self⟩

/-- An update succeeds, whatever the others do. -/
theorem keeps_serve (u : TokenUpdate) : (o.serve u).Keeps (o.protocol u) Landed [] := by
  have returned {r : Except AccountError Link} {past : List Answered} (h : Landed r past) :
      Landed (Except.map Record.link r) past := by
    obtain ⟨⟨m, rfl⟩, landed⟩ := h
    exact ⟨⟨_, rfl⟩, landed⟩
  cases u with
  | login tokens identity => exact keeps_login tokens identity
  | replace other =>
    refine Program.Keeps.map (Program.Keeps.mono ?_ fun _ _ => returned)
    exact keeps_updateLink rfl rfl fun _ _ => rfl
  | revoke =>
    refine Program.Keeps.map (Program.Keeps.mono ?_ fun _ _ => returned)
    unfold Account.revokeLink
    refine keeps_call trivial fun now _ => ?_
    exact keeps_updateLink rfl rfl fun _ _ => rfl

/-! ## Pools of updates -/

/-- A pool of updates. -/
abbrev Updates := Pool TokenUpdate (Except AccountError Record)

/-- An update under way. -/
abbrev Update := Task TokenUpdate (Except AccountError Record)

/-- The updates before their first calls. -/
def begin (o : Overlap) (b : Backend) : Updates where
  backend := { b with tables := o.before }
  tasks := o.calls.map (Pool.begun o.serve)

/-- The refresh token of the link and its expiry are as before, or both those of one update. -/
def Known (o : Overlap) (p : Updates) (m : Link) : Prop :=
  m.refreshPair = o.link.refreshPair ∨ ∃ t ∈ p.tasks, ∃ now,
    t.past.findSome? Answered.time? = some now ∧ t.request.refreshPair? now = some m.refreshPair

/-- The link was stored by one of the updates. -/
def Written (o : Overlap) (p : Updates) (m : Link) : Prop :=
  ∃ t ∈ p.tasks, o.Merged t.request t.past m

/-- Where updates can get to. -/
structure Running (o : Overlap) (p : Updates) : Prop where
  quiet : p.backend.Quiet
  dropped : p.dropped = []
  requests : p.tasks.map (·.request) = o.calls
  row : ∃ m, p.backend.tables = o.tables m ∧ m.origin = o.link.origin ∧ o.Known p m ∧
    (o.Written p m ∨ m = o.link ∧ ∀ t ∈ p.tasks, ∀ k, Answered.updated k ∉ t.past)
  keeps : ∀ t ∈ p.tasks, t.program.Keeps (o.protocol t.request) Landed t.past
  reads : ∀ t ∈ p.tasks, ∀ m, Answered.linked o.user.id o.issuer m ∈ t.past → o.Known p m

variable {p q : Updates} {n : Nat} {t : Update}

/-- Before their first calls the updates are where they can get to. -/
theorem running_begin {b : Backend} (quiet : b.Quiet) : o.Running (o.begin b) := by
  have fresh : ∀ t ∈ (o.begin b).tasks, t.past = [] ∧ t.program = o.serve t.request := by
    intro t ht
    obtain ⟨u, -, rfl⟩ := List.mem_map.1 ht
    exact ⟨rfl, rfl⟩
  refine ⟨quiet, rfl, ?_, ⟨o.link, ?_, rfl, .inl rfl, .inr ⟨rfl, ?_⟩⟩, ?_, ?_⟩
  · unfold begin
    rw [List.map_map]
    exact List.map_id _
  · show o.before = { o.before with links := o.front ++ o.link :: o.back }
    rw [← o.linked.rows]
  · intro t ht k
    rw [(fresh t ht).1]
    exact List.not_mem_nil
  · intro t ht
    rw [(fresh t ht).1, (fresh t ht).2]
    exact keeps_serve t.request
  · intro t ht m hm
    rw [(fresh t ht).1] at hm
    cases hm

/-! ## What later calls leave as it is -/

theorem findSome?_of_prefix {past past' : List Answered} {now : Time.Instant} (h : past <+: past')
    (time : past.findSome? Answered.time? = some now) :
    past'.findSome? Answered.time? = some now := by
  obtain ⟨rest, rfl⟩ := h
  rw [List.findSome?_append, time]
  rfl

/-- What an update makes of a link that it has read does not depend on what it is told later. -/
theorem Merged.of_prefix {past past' : List Answered} (h : o.Merged u past m)
    (longer : past <+: past') : o.Merged u past' m := by
  obtain ⟨read, now, last, seen, time, rfl⟩ := h
  exact ⟨read, now, last, longer.subset seen, findSome?_of_prefix longer time, rfl⟩

/-- What a task is followed by in a later pool. -/
theorem exists_later (extends' : p.Extends q) (ht : t ∈ p.tasks) :
    ∃ t' ∈ q.tasks, t'.request = t.request ∧ t.past <+: t'.past := by
  obtain ⟨n, hn⟩ := List.mem_iff_getElem?.1 ht
  obtain ⟨t', ht', later⟩ := extends' n t hn
  exact ⟨t', List.mem_of_getElem? ht', later.request, later.past⟩

/-- A refresh token that is known stays known. -/
theorem Known.later (h : o.Known p m) (later : p.Extends q) : o.Known q m := by
  refine h.imp_right ?_
  rintro ⟨t, ht, now, time, brought⟩
  obtain ⟨t', ht', request, past⟩ := exists_later later ht
  exact ⟨t', ht', now, findSome?_of_prefix past time, request ▸ brought⟩

/-- A link that was stored by an update was so also later. -/
theorem Written.later (h : o.Written p m) (later : p.Extends q) : o.Written q m := by
  obtain ⟨t, ht, merged⟩ := h
  obtain ⟨t', ht', request, past⟩ := exists_later later ht
  exact ⟨t', ht', request ▸ merged.of_prefix past⟩

/-! ## One answered call -/

/-- The calls of updates are calls on users and links. -/
theorem onAccounts_of_permits {c : Call} (permitted : (o.protocol u).permits past c) :
    onAccounts c = true := by
  cases c <;> first | rfl | exact permitted.elim

/-- The tables answer as the protocol has it. -/
theorem tells_of_effect {t t' : Tables} {w w' : UnitOfWork} {c : Call} {a : c.Answer}
    (h : t.Linked o.user o.issuer o.front m o.back) (same : m.origin = o.link.origin)
    (effect : Effect t w c a t' w') : o.Tells c a := by
  cases effect with
  | userByEmail email =>
    rintro rfl
    rw [h.sound.userByEmail?_of_mem h.stored]
    rfl
  | linkOf id issuer =>
    rintro rfl rfl
    rw [h.link?]
    exact ⟨m, rfl, same⟩
  | updated stored => exact fun _ => rfl
  | notUpdated refused =>
    intro same'
    rw [h.updateLink (same'.trans same.symm)] at refused
    cases refused
  | _ => trivial

/-- A look for a link is answered with what is stored. -/
theorem answer_of_linkOf {t t' : Tables} {w w' : UnitOfWork} {id : Uuid} {issuer : String}
    {a : Except StorageError Link} (effect : Effect t w (.linkOf id issuer) a t' w') :
    a = found (t.link? id issuer) := by
  cases effect
  rfl

/-- What an update reads of the link is what is stored. -/
theorem eq_of_linked {t t' : Tables} {w w' : UnitOfWork} {c : Call} {a : c.Answer} {k : Link}
    (h : t.Linked o.user o.issuer o.front m o.back) (effect : Effect t w c a t' w')
    (read : Answered.linked o.user.id o.issuer k = ⟨c, a⟩) : k = m := by
  cases read
  have answer := answer_of_linkOf effect
  rw [h.link?] at answer
  exact Except.ok.inj answer

/-- A permitted call stores a merged link, or leaves the tables as they are. -/
theorem tables_of_effect {t t' : Tables} {w w' : UnitOfWork} {c : Call} {a : c.Answer}
    (h : t.Linked o.user o.issuer o.front m o.back) (same : m.origin = o.link.origin)
    (permitted : (o.protocol u).permits past c) (effect : Effect t w c a t' w') :
    (∃ k, k.origin = o.link.origin ∧ o.Merged u past k ∧
      t' = t.withLinks (o.front ++ k :: o.back)) ∨
    t' = t ∧ ∀ k, Answered.updated k ≠ ⟨c, a⟩ := by
  cases effect with
  | updated stored =>
    obtain ⟨same', merged⟩ := permitted
    rw [h.updateLink (same'.trans same.symm)] at stored
    exact .inl ⟨_, same', merged, (Except.ok.inj stored).symm⟩
  | committed => exact permitted.elim
  | _ => exact .inr ⟨rfl, fun k e => by cases e⟩

/-- An answered call keeps the invariant. -/
theorem Running.answered (h : o.Running p) {c : Call}
    {next : c.Answer → Service (Except AccountError Record)} {a : c.Answer} {b : Backend}
    (ht : p.tasks[n]? = some t) (hp : t.program = .ask c next)
    (ha : ({ p.backend with work := t.work } : Backend).answer c = .ok (a, b)) :
    o.Running { p with backend := b, tasks := p.tasks.set n (Pool.goOn t c next a b) } := by
  obtain ⟨m, tables, same, known, written⟩ := h.row
  have mem : t ∈ p.tasks := List.mem_of_getElem? ht
  have keeps := h.keeps t mem
  rw [hp] at keeps
  obtain ⟨permitted, go⟩ := keeps t.past rfl
  obtain ⟨effect, quiet⟩ := effect_of_answer (b := { p.backend with work := t.work }) h.quiet
    (onAccounts_of_permits permitted) ha
  have linked : p.backend.tables.Linked o.user o.issuer o.front m o.back := by
    rw [tables]
    exact linked_tables same
  have self : (p.tasks.set n (Pool.goOn t c next a b))[n]? = some (Pool.goOn t c next a b) :=
    List.getElem?_set_self (List.getElem?_eq_some_iff.1 ht).1
  let q : Updates := { p with backend := b, tasks := p.tasks.set n (Pool.goOn t c next a b) }
  have later : p.Extends q := Pool.extends_of_move o.serve (.turn ht hp ha)
  have longer : t.past <+: t.past ++ [⟨c, a⟩] := List.prefix_append _ _
  refine ⟨quiet, h.dropped, ?_, ?_, ?_, ?_⟩
  · rw [List.map_set, h.requests]
    have request : o.calls[n]? = some t.request := by
      rw [← h.requests, List.getElem?_map, ht]
      rfl
    obtain ⟨hn, e⟩ := List.getElem?_eq_some_iff.1 request
    show o.calls.set n t.request = o.calls
    rw [← e, List.set_getElem_self]
  · rcases tables_of_effect linked same permitted effect with
      ⟨k, same', merged, tables'⟩ | ⟨tables', silent⟩
    · have written' : o.Written q k := ⟨_, List.mem_of_getElem? self, merged.of_prefix longer⟩
      refine ⟨k, tables'.trans ?_, same', ?_, .inl written'⟩
      · rw [tables]
        rfl
      · -- The refresh token is one that this update brings, or the one that it has read.
        obtain ⟨read, now, last, seen, time, rfl⟩ := merged
        have pair := TokenUpdate.refreshPair_apply now last t.request read
        cases brings : t.request.refreshPair? now with
        | some pair' =>
          rw [brings] at pair
          refine .inr ⟨_, List.mem_of_getElem? self, now, findSome?_of_prefix longer time, ?_⟩
          exact brings.trans (congrArg some pair.symm)
        | none =>
          rw [brings] at pair
          have knownRead := (h.reads t mem read seen).later later
          unfold Known at knownRead ⊢
          rwa [pair]
    · refine ⟨m, tables'.trans tables, same, known.later later, written.imp (·.later later) ?_⟩
      rintro ⟨rfl, none⟩
      refine ⟨rfl, fun t' ht' k => ?_⟩
      rcases List.mem_or_eq_of_mem_set ht' with old | rfl
      · exact none t' old k
      · intro stored
        rcases List.mem_append.1 stored with stored | stored
        · exact none t mem k stored
        · exact silent k (List.mem_singleton.1 stored)
  · intro t' ht'
    rcases List.mem_or_eq_of_mem_set ht' with old | rfl
    · exact h.keeps t' old
    · exact go a _ ⟨rfl, tells_of_effect linked same effect⟩
  · intro t' ht' k seen
    rcases List.mem_or_eq_of_mem_set ht' with old | rfl
    · exact (h.reads t' old k seen).later later
    · rcases List.mem_append.1 seen with seen | seen
      · exact (h.reads t mem k seen).later later
      · obtain rfl := eq_of_linked linked effect (List.mem_singleton.1 seen)
        exact known.later later

/-- Each call of an update is answered. -/
theorem Running.goesOn (h : o.Running p) (n : Nat) : p.GoesOn n := by
  intro t c next ht hp
  have keeps := h.keeps t (List.mem_of_getElem? ht)
  rw [hp] at keeps
  obtain ⟨permitted, -⟩ := keeps t.past rfl
  exact ⟨by simp [h.dropped], Backend.exists_answer _ (onAccounts_of_permits permitted)⟩

/-- An event without failures keeps the invariant. -/
theorem Running.after (h : o.Running p) {e : Event TokenUpdate} (calm : e.Calm) :
    o.Running (p.after o.serve e) := by
  cases e with
  | change b => exact ⟨calm, h.dropped, h.requests, h.row, h.keeps, h.reads⟩
  | turn n =>
    show o.Running (p.turn n)
    cases ht : p.tasks[n]? with
    | none => rwa [Pool.turn_of_none ht]
    | some t =>
      cases hp : t.program with
      | done a => rwa [Pool.turn_of_done ht hp]
      | ask c next =>
        obtain ⟨running, a, b, ha⟩ := h.goesOn n t c next ht hp
        rw [Pool.turn_of_ask ht running hp ha]
        exact h.answered ht hp ha
  | _ => exact calm.elim

/-- Whatever happens, as long as no failure is scripted, the updates stay where they can get to. -/
theorem running_run {events : List (Event TokenUpdate)} (h : o.Running p)
    (calm : ∀ e ∈ events, e.Calm) : o.Running (p.run o.serve events) :=
  Pool.run_induction o.serve (motive := o.Running) h fun _ e he hq => hq.after (calm e he)

/-! ## Updates end -/

section Bounds

open Program

/-- Copying tokens onto the link takes three calls at most. -/
theorem within_updateLink (other : Link) : (Account.updateLink other).Within 3 := by
  refine Within.bind (n := 1) (m := 2) (Race.within_call _) fun linked => ?_
  split
  · exact within_done _
  · refine Within.bind (n := 1) (m := 1) (Race.within_call _) fun now => ?_
    exact Within.bind (m := 0) (Race.within_call _) fun _ => by split <;> exact within_done _

/-- An update ends after fifteen calls at most. -/
theorem within_serve (o : Overlap) (u : TokenUpdate) : (o.serve u).Within 15 := by
  cases u with
  | login tokens identity => exact (Race.within_serve ⟨o.issuer, tokens, _⟩).map _
  | replace other => exact ((within_updateLink _).map _).mono (by omega)
  | revoke =>
    refine Within.map (Within.mono (n := 1 + 3) ?_ (by omega)) _
    exact Within.bind (Race.within_call _) fun now => within_updateLink _

end Bounds

/-- An update that had its turns has succeeded. -/
theorem exists_result {b : Backend} (quiet : b.Quiet) {events : List (Event TokenUpdate)}
    (calm : ∀ e ∈ events, e.Calm) (hn : n < o.calls.length)
    (turns : 15 ≤ events.countP (Event.isTurn n)) :
    ∃ t record, ((o.begin b).run o.serve events).tasks[n]? = some t ∧
      t.result? = some (.ok record) := by
  have start : o.Running (o.begin b) := running_begin quiet
  have begun : (o.begin b).tasks[n]? = some (Pool.begun o.serve o.calls[n]) := by
    unfold begin
    rw [List.getElem?_map, List.getElem?_eq_getElem hn]
    rfl
  have within : (Pool.begun o.serve o.calls[n]).program.Within
      (0 + events.countP (Event.isTurn n)) := (within_serve o o.calls[n]).mono (by omega)
  obtain ⟨t, ht, ended⟩ := Pool.within_run o.serve calm (fun es hes =>
    (running_run start fun e he => calm e (hes.subset he)).goesOn n) begun within
  obtain ⟨res, hp⟩ := Pool.done_of_within ended
  have keeps := (running_run start calm).keeps t (List.mem_of_getElem? ht)
  rw [hp] at keeps
  obtain ⟨⟨record, rfl⟩, -⟩ := keeps t.past rfl
  exact ⟨t, record, ht, Task.result?_of_done hp⟩

/-! ## What overlapping updates leave -/

/-- The update as a step of its own, at the time that it read first. -/
def alone (t : Update) : Step where
  surroundings := { clock := (t.past.findSome? Answered.time?).getD default }
  update := t.request

/-- The tokens of the link and their expiries are those that the updates leave when they run one
after another, in some order. -/
def Serial (o : Overlap) (p : Updates) (m : Link) : Prop :=
  ∃ order : List Update, order.Perm p.tasks ∧ ∃ row,
    (Step.runAll o.user o.issuer o.before (order.map alone)).link? o.user.id o.issuer = some row ∧
    m.accessPair = row.accessPair ∧ m.refreshPair = row.refreshPair

/-- The access token is that of a login which got no refresh token, and the refresh token is the one
of before, which this login has read, although another update brought or cleared one. -/
def Stale (o : Overlap) (p : Updates) (m : Link) : Prop :=
  ∃ t ∈ p.tasks, ∃ tokens identity read, t.request = .login tokens identity ∧
    tokens.refreshToken = none ∧ Answered.linked o.user.id o.issuer read ∈ t.past ∧
    read.refreshPair = o.link.refreshPair ∧
    m.accessPair = (tokens.accessToken, tokens.accessExpires) ∧
    m.refreshPair = o.link.refreshPair ∧ ∃ t' ∈ p.tasks, (alone t').refreshPair?.isSome

/-- Tokens that some order of the updates leaves are serial. -/
theorem serial_of_order {order : List Update} (perm : order.Perm p.tasks)
    (access : m.accessPair
      = (((order.map alone).map Step.accessPair).getLast?).getD o.link.accessPair)
    (refresh : m.refreshPair
      = (((order.map alone).filterMap Step.refreshPair?).getLast?).getD o.link.refreshPair) :
    o.Serial p m := by
  have quiet : ∀ s ∈ order.map alone, s.surroundings.Quiet := by
    intro s hs
    obtain ⟨t, -, rfl⟩ := List.mem_map.1 hs
    exact fun _ h => nomatch h
  refine ⟨order, perm, _, (Step.runAll_of_linked quiet o.linked).1.link?, ?_, ?_⟩
  · rw [access, Step.accessPair_foldl]
  · rw [refresh, Step.refreshPair_foldl]

theorem exists_perm_last {ρ : Type} {x : ρ} {xs : List ρ} (h : x ∈ xs) :
    ∃ rest, (rest ++ [x]).Perm xs := by
  obtain ⟨front, back, rfl⟩ := List.append_of_mem h
  exact ⟨front ++ back, (List.perm_append_singleton x _).trans List.perm_middle.symm⟩

/-- An update that runs alone at the time it read first brings the refresh token of that update. -/
theorem refreshPair?_alone {now : Time.Instant}
    (time : t.past.findSome? Answered.time? = some now) :
    (alone t).refreshPair? = t.request.refreshPair? now := by
  unfold alone Step.refreshPair?
  rw [time]
  rfl

/-- Only a login without a refresh token brings none. -/
theorem exists_login {now : Time.Instant} (h : u.refreshPair? now = none) :
    ∃ tokens identity, u = .login tokens identity ∧ tokens.refreshToken = none := by
  cases u with
  | login tokens identity => exact ⟨tokens, identity, rfl, Option.map_eq_none_iff.1 h⟩
  | replace other => cases h
  | revoke => cases h

/-- The last update to store decides on the access token. It decides on the refresh token too, or
has read one of before or of another update. -/
theorem Running.serial_or_stale (h : o.Running p) (written : o.Written p m) :
    o.Serial p m ∨ o.Stale p m := by
  obtain ⟨t, ht, read, now, last, seen, time, rfl⟩ := written
  obtain ⟨rest, perm⟩ := exists_perm_last ht
  have pair := TokenUpdate.refreshPair_apply now last t.request read
  have access := TokenUpdate.accessPair_apply now last t.request read
  have ownAccess : (alone t).accessPair = t.request.accessPair now := by
    unfold alone Step.accessPair
    rw [time]
    rfl
  have own := refreshPair?_alone time
  cases brings : t.request.refreshPair? now with
  | some pair' =>
    rw [brings] at pair own
    refine .inl (serial_of_order perm ?_ ?_)
    · simp [access, ownAccess]
    · simp [pair, own]
  | none =>
    rw [brings] at pair own
    rcases h.reads t ht read seen with initial | ⟨t', ht', now', time', brings'⟩
    · by_cases others : ∃ t' ∈ p.tasks, (alone t').refreshPair?.isSome
      · obtain ⟨tokens, identity, request, noRefresh⟩ := exists_login brings
        refine .inr ⟨t, ht, tokens, identity, read, request, noRefresh, seen, initial, ?_,
          pair.trans initial, others⟩
        rw [access, request]
        rfl
      · -- No update brings a refresh token, so that every order leaves the one of before.
        have silent : ((rest ++ [t]).map alone).filterMap Step.refreshPair? = [] := by
          refine List.filterMap_eq_nil_iff.2 fun s hs => ?_
          obtain ⟨t', ht', rfl⟩ := List.mem_map.1 hs
          refine Option.not_isSome_iff_eq_none.1 fun brings' =>
            others ⟨t', perm.subset ht', brings'⟩
        refine .inl (serial_of_order perm ?_ ?_)
        · simp [access, ownAccess]
        · rw [silent, pair]
          exact initial
    · -- The login comes right after the update whose refresh token it has read.
      have own' := refreshPair?_alone time'
      rw [brings'] at own'
      have mem : t' ∈ rest := by
        rcases List.mem_append.1 (perm.symm.subset ht') with mem | same
        · exact mem
        · rw [List.mem_singleton.1 same, own] at own'
          cases own'
      obtain ⟨rest', perm'⟩ := exists_perm_last mem
      refine .inl (serial_of_order ((perm'.append_right [t]).trans perm) ?_ ?_)
      · simp [access, ownAccess]
      · simp [pair, own, own']

/-- Updates of one link run at the same time and take turns in any order. Each succeeds, after
fifteen turns at most. When all have ended, the row of the link is the only one that is not as
before, it differs from the one before in the tokens and the time of change only, and its tokens are
those of some order of the updates one after another; or a login without a refresh token stored
last, and left the refresh token of before, though another update brought or cleared one. -/
theorem overlap_outcome (o : Overlap) (b : Backend) (quiet : b.Quiet)
    (events : List (Event TokenUpdate)) (calm : ∀ e ∈ events, e.Calm) :
    let p := (o.begin b).run o.serve events
    p.tasks.map (·.request) = o.calls ∧
      (∀ n < o.calls.length, 15 ≤ events.countP (Event.isTurn n) →
        ∃ t record, p.tasks[n]? = some t ∧ t.result? = some (.ok record)) ∧
      ((∀ t ∈ p.tasks, t.result?.isSome) → ∃ m, p.backend.tables = o.tables m ∧
        m.origin = o.link.origin ∧ (o.Serial p m ∨ o.Stale p m)) := by
  intro p
  have running : o.Running p := running_run (running_begin quiet) calm
  refine ⟨running.requests, fun n hn turns => exists_result quiet calm hn turns, fun ended => ?_⟩
  obtain ⟨m, tables, same, known, written | ⟨rfl, none⟩⟩ := running.row
  · exact ⟨m, tables, same, running.serial_or_stale written⟩
  · -- Every update that has ended has stored tokens, so there was none.
    have noTask : p.tasks = [] := by
      refine List.eq_nil_iff_forall_not_mem.2 fun t ht => ?_
      obtain ⟨res, hres⟩ := Option.isSome_iff_exists.1 (ended t ht)
      have keeps := running.keeps t ht
      rw [Task.program_of_result? hres] at keeps
      obtain ⟨-, k, stored⟩ := keeps t.past rfl
      exact none t ht k stored
    have perm : ([] : List Update).Perm p.tasks := by rw [noTask]
    exact ⟨o.link, tables, same, .inl (serial_of_order perm rfl rfl)⟩

/-! ## A lost revocation -/

/-- A login that got no refresh token, and a revocation. -/
def lateLogin : Overlap where
  before := ⟨[default], [{ (default : Link) with accessToken := "a0", refreshToken := "r0" }]⟩
  user := default
  issuer := ""
  front := []
  link := { (default : Link) with accessToken := "a0", refreshToken := "r0" }
  back := []
  linked :=
    ⟨⟨by decide, by decide, by decide, by decide, by decide⟩, List.mem_cons_self, rfl, rfl, rfl⟩
  calls := [.login ⟨"a1", none, default, default⟩ default, .revoke]

/-- The login reads the link, the link is revoked, and the login stores what it has read. -/
def lateTurns : List (Event TokenUpdate) :=
  [.turn 0, .turn 0, .turn 0, .turn 1, .turn 1, .turn 1, .turn 1, .turn 0]

/-- The login and the revocation both succeed, and leave tokens as `overlap_outcome` has it. -/
theorem overlap_outcome_lateLogin :
    let p := (lateLogin.begin default).run lateLogin.serve lateTurns
    (default : Backend).Quiet ∧ (∀ e ∈ lateTurns, e.Calm) ∧ (∀ t ∈ p.tasks, t.result?.isSome) ∧
      ∃ m, p.backend.tables = lateLogin.tables m ∧
        (lateLogin.Serial p m ∨ lateLogin.Stale p m) := by
  have quiet : (default : Backend).Quiet := fun _ h => nomatch h
  have calm : ∀ e ∈ lateTurns, e.Calm := by
    intro e he
    simp only [lateTurns, List.mem_cons, List.not_mem_nil, or_false] at he
    rcases he with rfl | rfl | rfl | rfl | rfl | rfl | rfl | rfl <;> exact trivial
  have ended : ∀ t ∈ ((lateLogin.begin default).run lateLogin.serve lateTurns).tasks,
      t.result?.isSome := by decide +kernel
  obtain ⟨-, -, outcome⟩ := overlap_outcome lateLogin default quiet lateTurns calm
  obtain ⟨m, tables, -, left⟩ := outcome ended
  exact ⟨quiet, calm, ended, m, tables, left⟩

/-- Steps that revoke, besides logins without refresh tokens, leave no refresh token, in whatever
order. -/
theorem refreshToken_of_revokes {steps : List Step} {link : Link}
    (revokes : ∃ s ∈ steps, s.update = .revoke)
    (others : ∀ s ∈ steps, ∀ pair, s.refreshPair? = some pair → pair.1 = "") :
    (steps.foldl Step.change link).refreshToken = "" := by
  obtain ⟨s, hs, revoke⟩ := revokes
  have brings : s.refreshPair? = some ("", s.surroundings.clock) := by
    unfold Step.refreshPair?
    rw [revoke]
    rfl
  have some : steps.filterMap Step.refreshPair? ≠ [] :=
    List.ne_nil_of_mem (List.mem_filterMap.2 ⟨s, hs, brings⟩)
  obtain ⟨last, hlast⟩ := Option.isSome_iff_exists.1 (List.getLast?_isSome.2 some)
  obtain ⟨s', hs', brings'⟩ := List.mem_filterMap.1 (List.mem_of_getLast? hlast)
  have pair := Step.refreshPair_foldl steps link
  rw [hlast] at pair
  exact (congrArg Prod.fst pair).trans (others s' hs' last brings')

/-- The refresh token is there again, next to the access token of the login. Whichever of the two
had gone first, and whenever, it would have been cleared. -/
theorem overlap_loses_revocation :
    let p := (lateLogin.begin default).run lateLogin.serve lateTurns
    (∀ t ∈ p.tasks, t.result?.isSome) ∧
      ∃ row, p.backend.tables.link? lateLogin.user.id lateLogin.issuer = some row ∧
        row.accessToken = "a1" ∧ row.refreshToken = "r0" ∧
        ∀ steps : List Step, (steps.map Step.update).Perm lateLogin.calls →
          (∀ s ∈ steps, s.surroundings.Quiet) →
          ∀ row', (Step.runAll lateLogin.user lateLogin.issuer lateLogin.before steps).link?
              lateLogin.user.id lateLogin.issuer = some row' →
            row'.refreshToken ≠ row.refreshToken := by
  intro p
  refine ⟨by decide +kernel, { (default : Link) with accessToken := "a1", refreshToken := "r0" },
    by decide +kernel, rfl, rfl, fun steps perm quiet row' found => ?_⟩
  have updates : ∀ s ∈ steps, s.update ∈ lateLogin.calls :=
    fun s hs => perm.subset (List.mem_map_of_mem hs)
  have revokes : ∃ s ∈ steps, s.update = .revoke :=
    List.mem_map.1 (perm.symm.subset (List.mem_cons_of_mem _ List.mem_cons_self))
  have others : ∀ s ∈ steps, ∀ pair, s.refreshPair? = some pair → pair.1 = "" := by
    intro s hs pair brings
    unfold Step.refreshPair? at brings
    rcases List.mem_cons.1 (updates s hs) with login | revoke
    · rw [login] at brings
      cases brings
    · rw [List.mem_singleton.1 revoke] at brings
      cases brings
      rfl
  rw [(Step.runAll_of_linked quiet lateLogin.linked).1.link?] at found
  obtain rfl := Option.some.inj found
  rw [refreshToken_of_revokes revokes others]
  decide

end Overlap

end FederatedLogin
