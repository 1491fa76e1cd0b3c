import FederatedLogin.Proofs.Account.Alone
import FederatedLogin.Proofs.Account.Permanence

/-!
# The history of a link

A stored link changes in three ways: its user logs in again with its provider, its tokens are
replaced, or they are revoked (`TokenUpdate`). Each of them brings an access token with its expiry.
A refresh token with its expiry comes along too, except with a login that got none, and then both
stay as they are. So in a history of updates that run one after another, all fields of the link can
be told from the last step and from the last step that brought a refresh token
(`history_determines_link`). The proof follows one step on the tables (`Account.gives_update`), and
sums the steps up field by field (`Step.field_foldl`).
-/

namespace FederatedLogin

/-- The access token and its expiry. -/
def Link.accessPair (l : Link) : String × Time.Instant := (l.accessToken, l.accessExpires)

/-- The refresh token and its expiry. -/
def Link.refreshPair (l : Link) : String × Time.Instant := (l.refreshToken, l.refreshExpires)

/-! ## Updates -/

/-- What can happen to the tokens of a stored link. -/
inductive TokenUpdate where
  /-- The user of the link logs in with its provider, whatever name the provider has for the
  person. -/
  | login (tokens : TokenSet) (identity : Identity)
  /-- The tokens are replaced by those of another link. -/
  | replace (link : Link)
  | revoke

namespace TokenUpdate

/-- The operation on the link of a user for a provider. -/
def operation (user : User) (issuer : String) : TokenUpdate → Operation
  | login tokens identity => .onboard issuer tokens { identity with email := user.email }
  | replace link => .updateLink { link with userId := user.id, issuer := issuer }
  | revoke => .revokeLink user.id issuer

/-- The access token that the update brings, and its expiry. -/
def accessPair (now : Time.Instant) : TokenUpdate → String × Time.Instant
  | login tokens _ => (tokens.accessToken, tokens.accessExpires)
  | replace link => link.accessPair
  | revoke => ("", now)

/-- The refresh token that the update brings, and its expiry. A login may bring none. -/
def refreshPair? (now : Time.Instant) : TokenUpdate → Option (String × Time.Instant)
  | login tokens _ => tokens.refreshToken.map (·, tokens.refreshExpires)
  | replace link => some link.refreshPair
  | revoke => some ("", now)

/-- The link after the update. The instants are the first and the last reading of the clock. -/
def apply (now last : Time.Instant) (u : TokenUpdate) (l : Link) : Link :=
  match u with
  | login tokens _ => l.refresh tokens last
  | replace link => l.withTokensOf link last
  | revoke => l.withTokensOf (Link.revoked l.userId l.issuer now) last

/-- The last reading of the clock. A revocation reads it twice. -/
def lastReading (b : Backend) : TokenUpdate → Time.Instant
  | revoke => b.readClock.2.clock
  | _ => b.clock

variable (now last : Time.Instant) (u : TokenUpdate) (l : Link)

@[simp] theorem origin_apply : (u.apply now last l).origin = l.origin := by
  cases u <;> rfl

@[simp] theorem updatedAt_apply : (u.apply now last l).updatedAt = last := by
  cases u <;> rfl

@[simp] theorem accessPair_apply : (u.apply now last l).accessPair = u.accessPair now := by
  cases u <;> rfl

/-- A refresh token never changes without its expiry. -/
@[simp] theorem refreshPair_apply :
    (u.apply now last l).refreshPair = (u.refreshPair? now).getD l.refreshPair := by
  cases u with
  | login tokens identity =>
    obtain ⟨access, refresh, accessExpires, refreshExpires⟩ := tokens
    cases refresh <;> rfl
  | replace link => rfl
  | revoke => rfl

end TokenUpdate

/-- The link that an operation returns. -/
def Record.link? : Record → Option Link
  | onboarded o => some o.link
  | link l => some l
  | user _ => none

/-! ## Tables with the link -/

namespace Tables

/-- The tables are sound and hold the link, which is the one of the user for the provider, between
other rows. -/
structure Linked (t : Tables) (user : User) (issuer : String) (front : List Link) (link : Link)
    (back : List Link) : Prop where
  sound : t.Sound
  stored : user ∈ t.users
  rows : t.links = front ++ link :: back
  owner : link.userId = user.id
  provider : link.issuer = issuer

/-- The tables with other rows of links. -/
def withLinks (t : Tables) (links : List Link) : Tables := { t with links := links }

variable {t : Tables} {user : User} {issuer : String} {front back : List Link} {link m : Link}

theorem Linked.mem (h : t.Linked user issuer front link back) : link ∈ t.links := by
  simp [h.rows]

theorem Linked.link? (h : t.Linked user issuer front link back) :
    t.link? user.id issuer = some link := by
  rw [← h.owner, ← h.provider]
  exact h.sound.link?_of_mem h.mem

theorem withTokens_of_origin (same : m.origin = link.origin) : withTokens link m = m := by
  obtain ⟨owner, provider, person, created⟩ : m.userId = link.userId ∧ m.issuer = link.issuer ∧
    m.externalId = link.externalId ∧ m.createdAt = link.createdAt := by
    simpa [Link.origin] using same
  unfold withTokens Link.withTokensOf
  rw [← owner, ← provider, ← person, ← created]

/-- What is stored under the origin of the link takes its place. -/
theorem Linked.updateLink (h : t.Linked user issuer front link back)
    (same : m.origin = link.origin) :
    t.updateLink m = .ok (t.withLinks (front ++ m :: back)) := by
  rw [h.sound.updateLink_eq h.rows (congrArg Prod.fst same) (congrArg (·.2.1) same),
    withTokens_of_origin same]
  rfl

theorem Linked.withLinks (h : t.Linked user issuer front link back)
    (same : m.origin = link.origin) :
    (t.withLinks (front ++ m :: back)).Linked user issuer front m back where
  sound := h.sound.updateLink (h.updateLink same)
  stored := h.stored
  rows := rfl
  owner := (congrArg Prod.fst same).trans h.owner
  provider := (congrArg (·.2.1) same).trans h.provider

end Tables

namespace Account

open Backend Tables

variable {b : Backend} {user : User} {issuer : String} {front back : List Link} {link : Link}

/-! ## Operations on the link -/

/-- Tokens are replaced in the one row of the link. -/
theorem gives_replace (quiet : b.Quiet) (h : b.tables.Linked user issuer front link back)
    {other : Link} (owner : other.userId = user.id) (provider : other.issuer = issuer) :
    b.Gives (updateLink other) fun r b' => r = .ok (link.withTokensOf other b.clock) ∧
      b'.tables = b.tables.withLinks (front ++ link.withTokensOf other b.clock :: back) := by
  have stored : b.tables.updateLink (link.withTokensOf other b.clock)
      = .ok (b.tables.withLinks (front ++ link.withTokensOf other b.clock :: back)) :=
    h.updateLink rfl
  unfold updateLink
  refine Gives.bind (gives_call quiet rfl ?_)
  rw [record_tables, owner, provider, h.link?]
  refine Gives.bind (gives_now (quiet.record _) fun b₁ read => ?_)
  rw [record_tables] at read
  rw [← read.tables] at stored
  refine Gives.bind (gives_updateLink read.quiet stored fun b₂ did => ?_)
  refine gives_pure ⟨rfl, ?_⟩
  rw [did.tables, read.tables]

/-- The tokens of the link expire when the clock is read first, and the link changes when it is read
again. -/
theorem gives_revoke (quiet : b.Quiet) (h : b.tables.Linked user issuer front link back) :
    let revoked := link.withTokensOf (Link.revoked user.id issuer b.clock) b.readClock.2.clock
    b.Gives (revokeLink user.id issuer) fun r b' => r = .ok revoked ∧
      b'.tables = b.tables.withLinks (front ++ revoked :: back) := by
  unfold revokeLink
  refine Gives.bind (gives_call quiet rfl ?_)
  exact gives_replace (b := (b.record .now).readClock.2) (quiet.record .now) h rfl rfl

/-- A login of the user refreshes the one row of the link. -/
theorem gives_login (quiet : b.Quiet) (h : b.tables.Linked user issuer front link back)
    (tokens : TokenSet) {identity : Identity} (email : user.email = identity.email) :
    b.Gives (onboard issuer tokens identity) fun r b' =>
      r = .ok ⟨user, link.refresh tokens b.clock, .refreshedLink⟩ ∧
      b'.tables = b.tables.withLinks (front ++ link.refresh tokens b.clock :: back) := by
  unfold onboard resolve
  refine Gives.bind (Gives.bind (gives_now quiet fun b₁ read => ?_))
  refine Gives.bind (gives_userByEmail read.quiet fun b₂ looked => ?_)
  rw [read.tables, ← email, h.sound.userByEmail?_of_mem h.stored]
  refine Gives.bind (gives_linkOf looked.quiet fun b₃ asked => ?_)
  rw [looked.tables, read.tables, h.link?]
  have same : b₃.tables = b.tables := asked.tables.trans (looked.tables.trans read.tables)
  rw [← same] at h ⊢
  have refreshes : b₃.Gives (refreshLink user link tokens identity b.clock) _ :=
    gives_refreshLink user.id asked.quiet h.sound h.stored email h.mem h.owner h.provider
  refine refreshes.mono ?_
  rintro r b₄ ⟨-, result⟩
  obtain ⟨rfl, tables⟩ :=
    result.unique h.sound (.refreshed h.stored email h.rows h.owner h.provider)
  exact gives_pure ⟨rfl, tables⟩

/-- An update of a stored link succeeds and returns the changed link, which is the one row of the
tables that is not as before. -/
theorem gives_update (quiet : b.Quiet) (h : b.tables.Linked user issuer front link back)
    (u : TokenUpdate) :
    let changed := u.apply b.clock (u.lastReading b) link
    b.Gives (u.operation user issuer).serve fun r b' =>
      (∃ record, r = .ok record ∧ record.link? = some changed) ∧
      b'.tables = b.tables.withLinks (front ++ changed :: back) := by
  cases u with
  | login tokens identity =>
    refine Gives.map ((gives_login quiet h tokens rfl).mono ?_)
    rintro _ b' ⟨rfl, tables⟩
    exact ⟨⟨_, rfl, rfl⟩, tables⟩
  | replace other =>
    let keyed : Link := { other with userId := user.id, issuer := issuer }
    have replaced : b.Gives (updateLink keyed) _ := gives_replace quiet h rfl rfl
    refine Gives.map (replaced.mono ?_)
    rintro _ b' ⟨rfl, tables⟩
    exact ⟨⟨_, rfl, rfl⟩, tables⟩
  | revoke =>
    refine Gives.map ((gives_revoke quiet h).mono ?_)
    rintro _ b' ⟨rfl, tables⟩
    exact ⟨⟨_, rfl, rfl⟩, tables⟩

end Account

/-! ## Steps -/

/-- An update of a stored link, and the surroundings in which it runs but for the tables. -/
structure Step where
  surroundings : Backend
  update : TokenUpdate

namespace Step

open Backend Tables

/-- The access token that the step brings, and its expiry. -/
def accessPair (s : Step) : String × Time.Instant := s.update.accessPair s.surroundings.clock

/-- The refresh token that the step brings, and its expiry. -/
def refreshPair? (s : Step) : Option (String × Time.Instant) :=
  s.update.refreshPair? s.surroundings.clock

/-- When the step reads the clock last. -/
def time (s : Step) : Time.Instant := s.update.lastReading s.surroundings

/-- The link after the step. -/
def change (l : Link) (s : Step) : Link := s.update.apply s.surroundings.clock s.time l

/-- Runs the step alone on tables, for the link of a user for a provider. -/
def run (user : User) (issuer : String) (t : Tables) (s : Step) :
    Except Halt (Except AccountError Record) × Backend :=
  ({ s.surroundings with tables := t } : Backend).run (s.update.operation user issuer).serve

/-- The tables after steps that run one after another. -/
def runAll (user : User) (issuer : String) (t : Tables) (steps : List Step) : Tables :=
  steps.foldl (fun t s => (s.run user issuer t).2.tables) t

/-! ## The fields of the link -/

/-- Each step has its say on a field, unless it leaves the field alone, and the last say counts. -/
theorem field_foldl {κ : Type} {f : Link → κ} {g : Step → Option κ}
    (h : ∀ l s, f (change l s) = (g s).getD (f l)) (steps : List Step) (link : Link) :
    f (steps.foldl change link) = ((steps.filterMap g).getLast?).getD (f link) := by
  induction steps generalizing link with
  | nil => rfl
  | cons s steps ih =>
    rw [List.foldl_cons, ih, h]
    cases hs : g s with
    | none => rw [List.filterMap_cons_none hs, Option.getD_none]
    | some value =>
      rw [List.filterMap_cons_some hs, List.getLast?_cons, Option.getD_some, Option.getD_some]

theorem refreshPair_foldl (steps : List Step) (link : Link) : (steps.foldl change link).refreshPair
    = ((steps.filterMap refreshPair?).getLast?).getD link.refreshPair :=
  field_foldl (fun _ _ => TokenUpdate.refreshPair_apply _ _ _ _) steps link

theorem accessPair_foldl (steps : List Step) (link : Link) : (steps.foldl change link).accessPair
    = ((steps.map accessPair).getLast?).getD link.accessPair := by
  rw [← List.filterMap_eq_map]
  exact field_foldl (fun _ _ => TokenUpdate.accessPair_apply _ _ _ _) steps link

theorem updatedAt_foldl (steps : List Step) (link : Link) : (steps.foldl change link).updatedAt
    = ((steps.map time).getLast?).getD link.updatedAt := by
  rw [← List.filterMap_eq_map]
  exact field_foldl (fun _ _ => TokenUpdate.updatedAt_apply _ _ _ _) steps link

theorem origin_foldl (steps : List Step) (link : Link) :
    (steps.foldl change link).origin = link.origin := by
  induction steps generalizing link with
  | nil => rfl
  | cons s steps ih => exact (ih (change link s)).trans (TokenUpdate.origin_apply _ _ _ _)

/-! ## Histories -/

variable {s : Step} {steps : List Step} {t : Tables} {user : User} {issuer : String}
  {front back : List Link} {link : Link}

/-- A step succeeds and returns the row that it leaves. -/
theorem run_of_linked (quiet : s.surroundings.Quiet) (h : t.Linked user issuer front link back) :
    ∃ record b', s.run user issuer t = (.ok (.ok record), b') ∧
      record.link? = some (change link s) ∧
      b'.tables = t.withLinks (front ++ change link s :: back) := by
  obtain ⟨_, b', run, ⟨record, rfl, returned⟩, tables⟩ :=
    Account.gives_update (b := { s.surroundings with tables := t }) quiet h s.update
  exact ⟨record, b', run, returned, tables⟩

/-- Steps change the one row of the link, one after the other. -/
theorem runAll_of_linked (quiet : ∀ s ∈ steps, s.surroundings.Quiet)
    (h : t.Linked user issuer front link back) :
    (runAll user issuer t steps).Linked user issuer front (steps.foldl change link) back ∧
      runAll user issuer t steps = t.withLinks (front ++ steps.foldl change link :: back) := by
  induction steps generalizing t link with
  | nil =>
    refine ⟨h, ?_⟩
    show t = { t with links := front ++ link :: back }
    rw [← h.rows]
  | cons s steps ih =>
    obtain ⟨record, b', run, -, tables⟩ := run_of_linked (quiet s List.mem_cons_self) h
    have linked : b'.tables.Linked user issuer front (change link s) back := by
      rw [tables]
      exact h.withLinks (TokenUpdate.origin_apply _ _ _ _)
    obtain ⟨linked', rest⟩ := ih (fun s' hs => quiet s' (List.mem_cons_of_mem s hs)) linked
    unfold runAll at linked' rest ⊢
    rw [List.foldl_cons, List.foldl_cons, run]
    refine ⟨linked', rest.trans ?_⟩
    rw [tables]
    rfl

/-- Updates of a stored link run one after another. Each succeeds and returns the row that is stored
then. At the end the access token and its expiry are those of the last step, the refresh token and
its expiry are both those of the last step that brought a refresh token, the time of change is that
of the last step, and nothing else of the link has changed. -/
theorem history_determines_link (t : Tables) (sound : t.Sound) (user : User)
    (stored : user ∈ t.users) (link : Link) (linked : link ∈ t.links)
    (owner : link.userId = user.id) (steps : List Step)
    (quiet : ∀ s ∈ steps, s.surroundings.Quiet) :
    let after := runAll user link.issuer t
    (∀ earlier s later, steps = earlier ++ s :: later →
      ∃ record row, (s.run user link.issuer (after earlier)).1 = .ok (.ok record) ∧
        record.link? = some row ∧
        (after (earlier ++ [s])).link? user.id link.issuer = some row) ∧
    ∃ row, (after steps).link? user.id link.issuer = some row ∧
      row.accessPair = ((steps.map accessPair).getLast?).getD link.accessPair ∧
      row.refreshPair = ((steps.filterMap refreshPair?).getLast?).getD link.refreshPair ∧
      row.updatedAt = ((steps.map time).getLast?).getD link.updatedAt ∧
      row.origin = link.origin := by
  intro after
  obtain ⟨front, back, rows⟩ := List.append_of_mem linked
  have start : t.Linked user link.issuer front link back := ⟨sound, stored, rows, owner, rfl⟩
  constructor
  · rintro earlier s later rfl
    have quietBefore : ∀ s' ∈ earlier, s'.surroundings.Quiet :=
      fun s' hs => quiet s' (List.mem_append_left _ hs)
    have before := (runAll_of_linked quietBefore start).1
    obtain ⟨record, b', run, returned, tables⟩ := run_of_linked (quiet s (by simp)) before
    have step : after (earlier ++ [s]) = b'.tables := by
      show runAll user link.issuer t (earlier ++ [s]) = b'.tables
      unfold runAll at run ⊢
      rw [List.foldl_append, List.foldl_cons, List.foldl_nil, run]
    refine ⟨record, _, congrArg Prod.fst run, returned, ?_⟩
    rw [step, tables]
    exact (before.withLinks (TokenUpdate.origin_apply _ _ _ _)).link?
  · exact ⟨_, (runAll_of_linked quiet start).1.link?, accessPair_foldl steps link,
      refreshPair_foldl steps link, updatedAt_foldl steps link, origin_foldl steps link⟩

/-- After a login with a refresh token and one without, the tokens are those of different logins. -/
theorem history_determines_link_twoLogins :
    let user : User := { (default : User) with email := "a@x" }
    let link : Link := { (default : Link) with issuer := "github", externalId := "s" }
    let t : Tables := ⟨[user], [link]⟩
    let i : Time.Instant := default
    let steps : List Step :=
      [⟨default, .login ⟨"a1", some "r1", i, i⟩ default⟩,
        ⟨default, .login ⟨"a2", none, i, i⟩ default⟩]
    t.Sound ∧ user ∈ t.users ∧ link ∈ t.links ∧ link.userId = user.id ∧
      (∀ s ∈ steps, s.surroundings.Quiet) ∧
      ∃ row, (runAll user link.issuer t steps).link? user.id link.issuer = some row ∧
        row.accessPair = ("a2", i) ∧ row.refreshPair = ("r1", i) := by
  intro user link t i steps
  have sound : t.Sound := ⟨by decide, by decide, by decide, by decide, by decide⟩
  have quiet : ∀ s ∈ steps, s.surroundings.Quiet := by
    intro s hs
    have same : s.surroundings = default := by
      rcases List.mem_cons.1 hs with rfl | hs
      · rfl
      · rw [List.mem_singleton.1 hs]
    rw [same]
    exact fun _ h => nomatch h
  obtain ⟨-, row, found, access, refresh, -⟩ := history_determines_link t sound user
    List.mem_cons_self link List.mem_cons_self rfl steps quiet
  exact ⟨sound, List.mem_cons_self, List.mem_cons_self, rfl, quiet, row, found, access, refresh⟩

end Step

end FederatedLogin
