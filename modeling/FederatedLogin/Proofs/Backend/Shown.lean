import FederatedLogin.Account.Onboarding
import FederatedLogin.Backend.Basic
import FederatedLogin.Proofs.Session.Text

/-!
# What may be shown

Tokens, their expiries and the texts of errors are nobody's business. `shown` blanks them out of
whatever holds them: links and tables, session values and the blobs in which they are stored, calls
and their answers. What the stores do depends on what may be shown only: blanking first and doing
the same gives what may be shown of the outcome (`shown_addLink`, `shown_updateLink`,
`shown_commit`, `shown_load`, `shown_store?`).
-/

namespace FederatedLogin

/-! ## Results -/

/-- What may be shown of a result. -/
def shownBy {ε α : Type} (f : ε → ε) (g : α → α) : Except ε α → Except ε α
  | .ok a => .ok (g a)
  | .error e => .error (f e)

/-- Results that look the same are both values or both errors. -/
theorem shownBy_cases {ε α : Type} {f : ε → ε} {g : α → α} {r r' : Except ε α}
    (h : shownBy f g r = shownBy f g r') :
    (∃ a a', r = .ok a ∧ r' = .ok a' ∧ g a = g a') ∨
      ∃ e e', r = .error e ∧ r' = .error e' ∧ f e = f e' := by
  cases r with
  | ok a =>
    cases r' with
    | ok a' => exact .inl ⟨a, a', rfl, rfl, Except.ok.inj h⟩
    | error e' => cases h
  | error e =>
    cases r' with
    | ok a' => cases h
    | error e' => exact .inr ⟨e, e', rfl, rfl, Except.error.inj h⟩

/-- Options that look the same are both values or both nothing. -/
theorem map_cases {α β : Type} {f : α → β} {o o' : Option α} (h : o.map f = o'.map f) :
    (o = none ∧ o' = none) ∨ ∃ a a', o = some a ∧ o' = some a' ∧ f a = f a' := by
  cases o with
  | none =>
    cases o' with
    | none => exact .inl ⟨rfl, rfl⟩
    | some a' => cases h
  | some a =>
    cases o' with
    | none => cases h
    | some a' => exact .inr ⟨a, a', rfl, rfl, Option.some.inj h⟩

/-! ## Errors -/

/-- The kind of an error, without its text. -/
def StorageError.shown : StorageError → StorageError
  | conflict _ => conflict ""
  | foreignKey _ => foreignKey ""
  | database _ => database ""
  | e => e

/-- Errors that look the same are the same, or differ in their texts. -/
theorem StorageError.shown_cases {e e' : StorageError} (h : e.shown = e'.shown) :
    e = e' ∨ (∃ s s', e = conflict s ∧ e' = conflict s') ∨
      (∃ s s', e = foreignKey s ∧ e' = foreignKey s') ∨
      ∃ s s', e = database s ∧ e' = database s' := by
  cases e <;> cases e' <;> first
    | exact .inl rfl
    | exact .inr (.inl ⟨_, _, rfl, rfl⟩)
    | exact .inr (.inr (.inl ⟨_, _, rfl, rfl⟩))
    | exact .inr (.inr (.inr ⟨_, _, rfl, rfl⟩))
    | cases h

/-- The kind of an error, and the name of a provider that does not exist. -/
def Provider.Error.shown : Provider.Error → Provider.Error
  | unknown name => unknown name
  | exchangeFailed _ => exchangeFailed ""
  | identityFailed _ => identityFailed ""
  | misconfigured _ => misconfigured ""

/-- The kind of an error, without its text. -/
def Session.Error.shown : Session.Error → Session.Error
  | store _ => store ""
  | encode _ => encode ""
  | cookie _ => cookie ""

/-! ## Accounts -/

/-- The kind of an error, without its text. -/
def AccountError.shown : AccountError → AccountError
  | storage e => storage e.shown
  | e => e

/-- Errors that look the same are of one kind, and if storage failed, its errors look the same. -/
theorem AccountError.shown_cases {e e' : AccountError} (h : e.shown = e'.shown) :
    (e = userNotFound ∧ e' = userNotFound) ∨ (e = linkNotFound ∧ e' = linkNotFound) ∨
      ∃ s s', e = storage s ∧ e' = storage s' ∧ s.shown = s'.shown := by
  cases e <;> cases e' <;> first
    | exact .inl ⟨rfl, rfl⟩
    | exact .inr (.inl ⟨rfl, rfl⟩)
    | exact .inr (.inr ⟨_, _, rfl, rfl, storage.inj h⟩)
    | cases h

/-- Tokens without tokens. -/
def TokenSet.shown (_ : TokenSet) : TokenSet := default

/-- The link without its tokens and their expiries. -/
def Link.shown (l : Link) : Link :=
  { l with
    accessToken := "", refreshToken := "", accessExpires := default, refreshExpires := default }

/-- The user and the link without its tokens. -/
def Onboarded.shown (o : Onboarded) : Onboarded := { o with link := o.link.shown }

namespace Tables

/-- The tables without the tokens of links. -/
def shown (t : Tables) : Tables := { t with links := t.links.map Link.shown }

/-- A link is found among links without tokens as among all. -/
theorem shown_link? (t : Tables) (userId : Uuid) (issuer : String) :
    t.shown.link? userId issuer = (t.link? userId issuer).map Link.shown := by
  unfold link? shown
  rw [List.find?_map]
  rfl

/-- A user is added to tables without tokens as to all. -/
theorem shown_addUser (t : Tables) (u : User) :
    t.shown.addUser u = (t.addUser u).map shown := by
  unfold addUser shown
  dsimp only
  split
  · rfl
  · split <;> rfl

/-- A link is added to tables without tokens as to all. -/
theorem shown_addLink (t : Tables) (l : Link) :
    t.shown.addLink l.shown = (t.addLink l).map shown := by
  have any (p : Link → Bool) (hp : ∀ m, p (Link.shown m) = p m) :
      (t.links.map Link.shown).any p = t.links.any p := by
    rw [List.any_map]
    exact congrArg (List.any t.links) (funext hp)
  unfold addLink shown
  dsimp only
  rw [any _ fun _ => rfl, any _ fun _ => rfl]
  show (if !(t.users.any fun u => u.id = l.userId) then _
    else if t.links.any fun m => m.userId = l.userId && m.issuer = l.issuer then _
    else if t.links.any fun m => m.issuer = l.issuer && m.externalId = l.externalId then _
    else Except.ok { t with links := t.links.map Link.shown ++ [l.shown] }) = _
  split
  · rfl
  · split
    · rfl
    · split
      · rfl
      · simp [Except.map]

/-- Tokens are stored without a trace in tables without tokens. -/
theorem shown_updateLink (t : Tables) (l : Link) :
    t.shown.updateLink l.shown = (t.updateLink l).map shown := by
  have row (m : Link) :
      (if m.shown.userId = l.shown.userId ∧ m.shown.issuer = l.shown.issuer then
        withTokens m.shown l.shown else m.shown)
      = Link.shown (if m.userId = l.userId ∧ m.issuer = l.issuer then withTokens m l else m) := by
    show (if m.userId = l.userId ∧ m.issuer = l.issuer then withTokens m.shown l.shown else m.shown)
      = _
    split <;> rfl
  have found : t.shown.link? l.shown.userId l.shown.issuer
      = (t.link? l.userId l.issuer).map Link.shown := shown_link? t _ _
  unfold updateLink
  rw [found]
  cases t.link? l.userId l.issuer with
  | none => rfl
  | some stored =>
    refine congrArg (fun links => Except.ok { t with links := links }) ?_
    show (t.links.map Link.shown).map _ = (t.links.map _).map Link.shown
    rw [List.map_map, List.map_map]
    exact List.map_congr_left fun m _ => row m

/-- A user is removed from tables without tokens as from all. -/
theorem shown_removeUser (t : Tables) (id : Uuid) :
    (t.removeUser id).shown = t.shown.removeUser id := by
  unfold removeUser shown
  rw [List.filter_map]
  rfl

end Tables

namespace UnitOfWork

/-- The unit of work without the tokens of links. -/
def shown (w : UnitOfWork) : UnitOfWork := { w with links := w.links.map Link.shown }

/-- A unit of work without tokens takes a user as any does. -/
theorem shown_insertUser (w : UnitOfWork) (u : User) :
    w.shown.insertUser u = (w.insertUser u).map shown := by
  unfold insertUser shown
  dsimp only
  split <;> rfl

/-- A unit of work without tokens takes a link as any does. -/
theorem shown_insertLink (w : UnitOfWork) (l : Link) :
    w.shown.insertLink l.shown = (w.insertLink l).map shown := by
  unfold insertLink shown
  dsimp only
  split
  · rfl
  · simp [Except.map]

/-- Rows are added one by one, and the tables look the same after each. -/
theorem foldlM_shown {ρ : Type} {add : Tables → ρ → Except StorageError Tables} (blank : ρ → ρ)
    (one : ∀ t r, add t.shown (blank r) = (add t r).map Tables.shown) (rows : List ρ) (t : Tables) :
    (rows.map blank).foldlM add t.shown = (rows.foldlM add t).map Tables.shown := by
  induction rows generalizing t with
  | nil => rfl
  | cons r rows ih =>
    rw [List.map_cons, List.foldlM_cons, List.foldlM_cons, one]
    cases add t r with
    | error e => rfl
    | ok t' => exact ih t'

/-- Whether a unit of work can be applied does not depend on tokens. -/
theorem shown_apply (w : UnitOfWork) (t : Tables) :
    w.shown.apply t.shown = (w.apply t).map Tables.shown := by
  have users : w.users.foldlM Tables.addUser t.shown
      = (w.users.foldlM Tables.addUser t).map Tables.shown := by
    have rows := foldlM_shown (fun u => u) Tables.shown_addUser w.users t
    rwa [List.map_id'] at rows
  unfold apply
  show (w.users.foldlM Tables.addUser t.shown >>= _) = _
  rw [users]
  cases w.users.foldlM Tables.addUser t with
  | error e => rfl
  | ok t' => exact foldlM_shown Link.shown Tables.shown_addLink w.links t'

/-- A commit has the same result, and leaves what looks the same. -/
theorem shown_commit (w : UnitOfWork) (t : Tables) :
    w.shown.commit t.shown
      = ((w.commit t).1, (w.commit t).2.1.shown, (w.commit t).2.2.shown) := by
  unfold commit
  rw [shown_apply]
  show (if w.finished then _ else _) = _
  split
  · rfl
  · cases w.apply t <;> rfl

end UnitOfWork

/-! ## Sessions -/

namespace Session

/-- The values without the access token. -/
def Values.shown (v : Values) : Values := { v with accessToken := none }

/-- The session without the access token. -/
def shown (s : Session) : Session := { s with values := s.values.shown }

/-- A blob of the values without the access token, or an empty text for a damaged blob. -/
def shownBlob (blob : String) : String :=
  match Values.decode? blob with
  | some values => values.shown.encode
  | none => ""

/-- A blanked blob holds the values of the blob, without their token. -/
theorem decode?_shownBlob (blob : String) :
    Values.decode? (shownBlob blob) = (Values.decode? blob).map Values.shown := by
  have damaged : Values.decode? "" = none := by decide +kernel
  unfold shownBlob
  cases Values.decode? blob with
  | none => exact damaged
  | some values => exact Values.decode?_encode values.shown

/-- Blanking encoded values is encoding them without their token. -/
theorem shownBlob_encode (v : Values) : shownBlob v.encode = v.shown.encode := by
  unfold shownBlob
  rw [Values.decode?_encode]

/-- A blanked blob has nothing left to blank. -/
theorem shownBlob_shownBlob (blob : String) : shownBlob (shownBlob blob) = shownBlob blob := by
  unfold shownBlob
  cases Values.decode? blob with
  | none => rfl
  | some values => exact shownBlob_encode values.shown

/-- Blobs that look the same are both damaged, or hold values that look the same. -/
theorem decode?_of_shownBlob {blob blob' : String} (h : shownBlob blob = shownBlob blob') :
    (Values.decode? blob).map Values.shown = (Values.decode? blob').map Values.shown := by
  rw [← decode?_shownBlob, ← decode?_shownBlob, h]

namespace Store

/-- The store with blanked blobs. -/
def shown (s : Store) : Store :=
  ⟨s.entries.map fun e => (e.1, { e.2 with value := shownBlob e.2.value })⟩

/-- An entry is found in a store with blanked blobs as in the store. -/
theorem shown_lookup (s : Store) (key : String) :
    s.shown.get? key
      = (s.get? key).map fun e => { e with value := shownBlob e.value } := by
  obtain ⟨entries⟩ := s
  unfold get? shown
  induction entries with
  | nil => rfl
  | cons first entries ih =>
    obtain ⟨k, e⟩ := first
    rw [List.map_cons, List.lookup_cons, List.lookup_cons]
    cases key == k with
    | true => rfl
    | false => exact ih

/-- An entry is erased from a store with blanked blobs as from the store. -/
theorem shown_erase (s : Store) (key : String) : (s.erase key).shown = s.shown.erase key := by
  unfold erase shown
  rw [List.filter_map]
  rfl

/-- Which entries have ended does not depend on their blobs. -/
theorem shown_sweep (s : Store) (now : Nat) : (s.sweep now).shown = s.shown.sweep now := by
  unfold sweep shown
  rw [List.filter_map]
  rfl

/-- A blob is loaded from a store with blanked blobs as from the store, and is blanked. -/
theorem shown_load (s : Store) (now : Nat) (key : String) :
    s.shown.load now key = ((s.load now key).1.map shownBlob, (s.load now key).2.shown) := by
  unfold load
  rw [shown_lookup]
  cases s.get? key with
  | none => rfl
  | some e =>
    show (if e.isLive now then _ else _) = _
    split
    · next live => simp [live]
    · next ended => simp [ended, shown_erase]

/-- A blanked blob is stored in a store with blanked blobs as the blob is in the store. -/
theorem shown_store? (s : Store) (now : Nat) (key value : String) (lifetime : Option Nat) :
    s.shown.store? now key (shownBlob value) lifetime
      = (s.store? now key value lifetime).map shown := by
  unfold store?
  rw [← shown_sweep, ← shown_erase]
  dsimp only
  split <;> rfl

end Store

end Session

/-! ## Calls -/

/-- The call without tokens. -/
def Call.shown : Call → Call
  | updateLink l => updateLink l.shown
  | insertLink l => insertLink l.shown
  | storeSession key value lifetime => storeSession key (Session.shownBlob value) lifetime
  | identity n _ => identity n ""
  | c => c

/-- What may be shown of an answer. -/
inductive Heard where
  | time (now : Time.Instant)
  | made (id : Uuid)
  | host (name : Option String)
  | logged
  | user (result : Except StorageError User)
  | link (result : Except StorageError Link)
  | row (result : Except StorageError Unit)
  | blob (result : Except Session.Error (Option String))
  | session (result : Except Session.Error Unit)
  | tokens (result : Except Provider.Error TokenSet)
  | identity (result : Except Provider.Error Identity)

/-- What may be shown of the answer to a call. -/
def heard : (c : Call) → c.Answer → Heard
  | .now, now => .time now
  | .newUserId, id => .made id
  | .newSessionId, id => .made id
  | .hostname, name => .host name
  | .log _ _, _ => .logged
  | .userById _, r => .user (shownBy StorageError.shown id r)
  | .userByEmail _, r => .user (shownBy StorageError.shown id r)
  | .linkOf _ _, r => .link (shownBy StorageError.shown Link.shown r)
  | .updateLink _, r => .row (shownBy StorageError.shown id r)
  | .begin, r => .row (shownBy StorageError.shown id r)
  | .insertUser _, r => .row (shownBy StorageError.shown id r)
  | .insertLink _, r => .row (shownBy StorageError.shown id r)
  | .commit, r => .row (shownBy StorageError.shown id r)
  | .loadSession _, r => .blob (shownBy Session.Error.shown (Option.map Session.shownBlob) r)
  | .storeSession _ _ _, r => .session (shownBy Session.Error.shown id r)
  | .deleteSession _, r => .session (shownBy Session.Error.shown id r)
  | .exchange _ _, r => .tokens (shownBy Provider.Error.shown TokenSet.shown r)
  | .identity _ _, r => .identity (shownBy Provider.Error.shown id r)

namespace Backend

/-- The surroundings without tokens in their stores. -/
def shown (b : Backend) : Backend :=
  { b with tables := b.tables.shown, work := b.work.shown, sessions := b.sessions.shown }

/-- Tokens are stored without a trace in tables without tokens. -/
theorem shown_updateLink (b : Backend) (l : Link) :
    b.shown.updateLink l.shown = ((b.updateLink l).1, (b.updateLink l).2.shown) := by
  have tables : b.shown.tables.updateLink l.shown = (b.tables.updateLink l).map Tables.shown :=
    Tables.shown_updateLink b.tables l
  unfold updateLink
  rw [tables]
  cases b.tables.updateLink l <;> rfl

/-- What became of an insert looks the same without tokens. -/
theorem shown_insert (b : Backend) (r : Except StorageError UnitOfWork) :
    b.shown.insert (r.map UnitOfWork.shown) = ((b.insert r).1, (b.insert r).2.shown) := by
  cases r <;> rfl

/-- A commit comes to the same end without tokens. -/
theorem shown_commit (b : Backend) : b.shown.commit = (b.commit.1, b.commit.2.shown) := by
  have same : b.shown.work.commit b.shown.tables = _ := UnitOfWork.shown_commit b.work b.tables
  simp only [commit, same]
  rfl

/-- A load of a session value is answered alike without tokens. -/
theorem shown_loadSession (b : Backend) (key : String) :
    b.shown.loadSession key = (shownBy id (Option.map Session.shownBlob) (b.loadSession key).1,
      (b.loadSession key).2.shown) := by
  have same : b.shown.sessions.load b.shown.uptime key = _ :=
    Session.Store.shown_load b.sessions b.uptime key
  have faults : b.shown.faults = b.faults := rfl
  unfold loadSession
  rw [faults]
  cases b.faults.load with
  | some cause => rfl
  | none => simp only [same]; rfl

/-- A session value is stored alike without its token. -/
theorem shown_storeSession (b : Backend) (key value : String) (lifetime : Option Nat) :
    b.shown.storeSession key (Session.shownBlob value) lifetime
      = (b.storeSession key value lifetime).map fun r => (r.1, r.2.shown) := by
  have same : b.shown.sessions.store? b.shown.uptime key (Session.shownBlob value) _ = _ :=
    Session.Store.shown_store? b.sessions b.uptime key value (lifetime.map (· * 1000000000))
  have faults : b.shown.faults = b.faults := rfl
  unfold storeSession
  rw [faults]
  cases b.faults.store with
  | some cause => rfl
  | none =>
    simp only [same]
    cases b.sessions.store? b.uptime key value (lifetime.map (· * 1000000000)) <;> rfl

/-- A session value is deleted alike without tokens. -/
theorem shown_deleteSession (b : Backend) (key : String) :
    b.shown.deleteSession key = ((b.deleteSession key).1, (b.deleteSession key).2.shown) := by
  have faults : b.shown.faults = b.faults := rfl
  unfold deleteSession
  rw [faults]
  cases b.faults.delete with
  | some cause => rfl
  | none => exact congrArg (Prod.mk _) (congrArg (fun s => { b.shown with sessions := s })
      (Session.Store.shown_erase b.sessions key).symm)

/-- What may be shown of the answer to a call and of the surroundings after it. -/
def view {c : Call} (r : Except Halt (c.Answer × Backend)) : Except Halt (Heard × Backend) :=
  r.map fun r => (heard c r.1, r.2.shown)

/-- Blanked surroundings give the same answer to a blanked call, as far as it may be shown, and are
blanked after it. -/
theorem view_perform (b : Backend) {c : Call} (stored : ∀ n grant, c ≠ .exchange n grant)
    (stored' : ∀ n token, c ≠ .identity n token) :
    view (b.perform c) = (b.shown.perform c.shown).map fun r => (heard c.shown r.1, r.2) := by
  cases c with
  | now => rfl
  | newUserId => rfl
  | newSessionId => rfl
  | hostname => rfl
  | log level text => rfl
  | userById id => rfl
  | userByEmail email => rfl
  | linkOf userId issuer =>
    show Except.ok (Heard.link (shownBy _ _ (found (b.tables.link? userId issuer))), b.shown)
      = .ok (Heard.link (shownBy _ _ (found (b.tables.shown.link? userId issuer))), b.shown)
    rw [Tables.shown_link?]
    cases b.tables.link? userId issuer <;> rfl
  | begin => rfl
  | updateLink l =>
    show _ = Except.map _ (.ok (b.shown.updateLink l.shown))
    rw [shown_updateLink]
    rfl
  | insertUser u =>
    show _ = Except.map _ (.ok (b.shown.insert (b.work.shown.insertUser u)))
    rw [UnitOfWork.shown_insertUser, shown_insert]
    rfl
  | insertLink l =>
    show _ = Except.map _ (.ok (b.shown.insert (b.work.shown.insertLink l.shown)))
    rw [UnitOfWork.shown_insertLink, shown_insert]
    rfl
  | commit =>
    show _ = Except.map _ (.ok b.shown.commit)
    rw [shown_commit]
    rfl
  | loadSession key =>
    have twice : Option.map Session.shownBlob ∘ Option.map Session.shownBlob
        = Option.map Session.shownBlob := by
      funext blob
      cases blob with
      | none => rfl
      | some blob => exact congrArg some (Session.shownBlob_shownBlob blob)
    show Except.ok (Heard.blob (shownBy _ _ (b.loadSession key).1), _)
      = Except.map _ (.ok (b.shown.loadSession key))
    rw [shown_loadSession]
    cases (b.loadSession key).1 with
    | error e => rfl
    | ok blob => exact congrArg (fun f => Except.ok (Heard.blob (.ok (f blob)), _)) twice.symm
  | storeSession key value lifetime =>
    show _ = Except.map _ (b.shown.storeSession key (Session.shownBlob value) lifetime)
    rw [shown_storeSession]
    show Except.map _ (b.storeSession key value lifetime) = _
    cases b.storeSession key value lifetime <;> rfl
  | deleteSession key =>
    show _ = Except.map _ (.ok (b.shown.deleteSession key))
    rw [shown_deleteSession]
    rfl
  | exchange n grant => exact absurd rfl (stored n grant)
  | identity n token => exact absurd rfl (stored' n token)

end Backend

end FederatedLogin
