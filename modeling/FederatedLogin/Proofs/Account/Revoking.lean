import FederatedLogin.Account.Onboarding
import FederatedLogin.Proofs.Account.Tables
import FederatedLogin.Proofs.Backend.Alone

/-!
# Links that lose their tokens

`Revokes` says what becomes of the tables when the tokens of a link are removed, whatever failures
are scripted: storage fails, there is no link, or the row of the link loses its tokens. In the first
two cases nothing changes, and in the third no other row does. The failure is known before
(`revokeFault?`): that of the look for the link comes first, and that of storing the tokens counts
only where there is a link.
-/

namespace FederatedLogin

/-- The link without its tokens, which have expired at an instant. -/
def Link.withoutTokens (l : Link) (expired now : Time.Instant) : Link :=
  { l with
    accessToken := ""
    refreshToken := ""
    accessExpires := expired
    refreshExpires := expired
    updatedAt := now }

namespace Account

open Backend

variable {b : Backend} {userId : Uuid} {issuer : String}

/-- The failure that storage has in store for the removal of the tokens of a link. -/
def revokeFault? (b : Backend) (userId : Uuid) (issuer : String) : Option StorageError :=
  match b.faults.next .linkOf with
  | some e => some e
  | none =>
    if (b.tables.link? userId issuer).isSome then b.faults.next .updateLink else none

/-- The result of removing the tokens of a link and the tables after it, from the surroundings
before it. The tokens expire at the first reading of the clock, and the row is changed at the second
one. -/
inductive Revokes (b : Backend) (userId : Uuid) (issuer : String) :
    Except AccountError Link → Tables → Prop
  | failed {e : StorageError} :
      revokeFault? b userId issuer = some e →
      Revokes b userId issuer (.error (orMissing .linkNotFound e)) b.tables
  | missing :
      revokeFault? b userId issuer = none → ¬ b.tables.HasLink userId issuer →
      Revokes b userId issuer (.error .linkNotFound) b.tables
  | revoked {link : Link} {before after : List Link} :
      revokeFault? b userId issuer = none → b.tables.links = before ++ link :: after →
      link.userId = userId → link.issuer = issuer →
      Revokes b userId issuer (.ok (link.withoutTokens b.clock b.readClock.2.clock))
        { b.tables with
          links := before ++ link.withoutTokens b.clock b.readClock.2.clock :: after }

theorem revokeFault?_of_linkOf {e : StorageError} (fault : b.faults.next .linkOf = some e) :
    revokeFault? b userId issuer = some e := by
  unfold revokeFault?
  rw [fault]

theorem revokeFault?_of_link {link : Link} (works : b.faults.next .linkOf = none)
    (found : b.tables.link? userId issuer = some link) :
    revokeFault? b userId issuer = b.faults.next .updateLink := by
  unfold revokeFault?
  rw [works, found]
  rfl

theorem revokeFault?_of_not_hasLink (works : b.faults.next .linkOf = none)
    (absent : b.tables.link? userId issuer = none) : revokeFault? b userId issuer = none := by
  unfold revokeFault?
  rw [works, absent]
  rfl

/-- A call that is none on users and links makes no difference. -/
theorem revokeFault?_record {c : Call} (hc : point? c = none) :
    revokeFault? (b.record c) userId issuer = revokeFault? b userId issuer := by
  have faults : (b.record c).faults = b.faults := by
    unfold Backend.record
    rw [hc]
  unfold revokeFault?
  rw [faults, record_tables]

theorem Revokes.of_record {c : Call} (hc : point? c = none) {r : Except AccountError Link}
    {t : Tables} (h : Revokes (b.record c) userId issuer r t) : Revokes b userId issuer r t := by
  have same : revokeFault? (b.record c) userId issuer = revokeFault? b userId issuer :=
    revokeFault?_record hc
  cases h with
  | failed fault => exact .failed (same.symm.trans fault)
  | missing works none => exact .missing (same.symm.trans works) none
  | revoked works rows owner issued => exact .revoked (same.symm.trans works) rows owner issued

/-! ## The removal -/

/-- The clock is read. -/
theorem gives_readClock {post : Time.Instant → Backend → Prop}
    (h : ∀ b', b'.clock = b.readClock.2.clock → b'.tables = b.tables → b'.faults = b.faults →
      post b.clock b') : b.Gives (call .now) post :=
  gives_of_point? rfl rfl (h _ rfl rfl rfl)

/-- A link is looked for, and storage works. -/
theorem gives_foundLink {post : Except StorageError Link → Backend → Prop} (userId : Uuid)
    (issuer : String) (works : b.faults.next .linkOf = none)
    (h : ∀ b', b'.clock = b.clock → b'.tables = b.tables →
      b'.faults = b.faults.advance .linkOf → post (found (b.tables.link? userId issuer)) b') :
    b.Gives (call (.linkOf userId issuer)) post :=
  gives_of_dueFault_none works rfl (h _ rfl rfl rfl)

/-- Storing a link without its tokens changes its row, unless storage fails. -/
theorem gives_storeRevoked {b₁ : Backend} {link : Link} {before after : List Link}
    (sound : b.tables.Sound) (tables : b₁.tables = b.tables)
    (rows : b.tables.links = before ++ link :: after)
    (owner : link.userId = userId) (issued : link.issuer = issuer)
    (fault : revokeFault? b userId issuer = b₁.faults.next .updateLink) :
    b₁.Gives (call (.updateLink (link.withoutTokens b.clock b.readClock.2.clock))) fun r b' =>
      Revokes b userId issuer
        (match r with
          | .error e => .error (orMissing .linkNotFound e)
          | .ok () => .ok (link.withoutTokens b.clock b.readClock.2.clock)) b'.tables := by
  cases due : b₁.faults.next .updateLink with
  | some e =>
    refine gives_of_dueFault due rfl ?_
    rw [record_tables, tables]
    exact .failed (fault.trans due)
  | none =>
    have stored := sound.updateLink_eq (l := link.withoutTokens b.clock b.readClock.2.clock)
      rows rfl rfl
    rw [← tables] at stored
    refine gives_of_dueFault_none due (perform_updateLink stored) ?_
    rw [tables]
    exact .revoked (fault.trans due) rows owner issued

/-- The tokens of a link are removed as the relation says. -/
theorem gives_revokeLink (sound : b.tables.Sound) (userId : Uuid) (issuer : String) :
    b.Gives (revokeLink userId issuer) fun r b' => Revokes b userId issuer r b'.tables := by
  unfold revokeLink
  refine Gives.bind (gives_readClock fun b₁ clock tables faults => ?_)
  unfold updateLink
  cases look : b.faults.next .linkOf with
  | some e =>
    have due : b₁.dueFault (.linkOf userId issuer) = some e := by
      rw [← look, ← faults]
      rfl
    refine Gives.bind (gives_of_dueFault due rfl (gives_pure ?_))
    rw [record_tables, tables]
    exact .failed (revokeFault?_of_linkOf look)
  | none =>
    have works : b₁.faults.next .linkOf = none := faults ▸ look
    refine Gives.bind (gives_foundLink userId issuer works fun b₂ clock₂ tables₂ faults₂ => ?_)
    have same : b₂.tables = b.tables := tables₂.trans tables
    rw [tables]
    cases found : b.tables.link? userId issuer with
    | none =>
      refine gives_pure ?_
      rw [same]
      exact .missing (revokeFault?_of_not_hasLink look found) (Tables.link?_eq_none_iff.1 found)
    | some link =>
      obtain ⟨mem, owner, issued⟩ := Tables.link?_eq_some found
      obtain ⟨before, after, rows⟩ := List.append_of_mem mem
      refine Gives.bind (gives_readClock fun b₃ _ tables₃ faults₃ => ?_)
      rw [clock₂, clock]
      have fault : revokeFault? b userId issuer = b₃.faults.next .updateLink := by
        rw [revokeFault?_of_link look found, ← faults, faults₃, faults₂]
        exact (next_advance_of_ne b₁.faults (by decide)).symm
      refine Gives.bind ((gives_storeRevoked sound (tables₃.trans same) rows owner issued
        fault).mono ?_)
      rintro r b₄ removed
      cases r with
      | error e => exact gives_pure removed
      | ok _ => exact gives_pure removed

end Account

end FederatedLogin
