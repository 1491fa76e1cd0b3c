import FederatedLogin.Proofs.Backend.Shown
import FederatedLogin.Proofs.Program.Lockstep

/-!
# Logins in unison

Two services are in unison if they are in lockstep for an observer who is told only what may be
shown. Onboarding and revoking do not look at tokens, nor at the texts of errors: whatever the
tokens are, they make the same calls on the same rows, and end with results that look the same.
-/

namespace FederatedLogin

open Program

/-! ## Programs in unison -/

/-- As far as may be shown, the programs make the same calls, and they end with results that satisfy
the condition. -/
abbrev Unison {α α' : Type} (post : α → α' → Prop) (p : Service α) (p' : Service α') : Prop :=
  p.InStep Call.shown heard post p'

/-- The results look the same. -/
abbrev Same {ε α : Type} (f : ε → ε) (g : α → α) (r r' : Except ε α) : Prop :=
  shownBy f g r = shownBy f g r'

/-- The program that is told nothing but what time it is goes on alike. -/
theorem unison_now {α α' : Type} {post : α → α' → Prop} {f : Time.Instant → Service α}
    {f' : Time.Instant → Service α'} (h : ∀ now, Unison post (f now) (f' now)) :
    Unison post (call .now >>= f) (call .now >>= f') := by
  refine InStep.bind (inStep_question rfl fun now now' time => ?_)
  cases time
  exact h now

/-- Programs whose results look the same are in unison if they go on so after values that look the
same, and after errors that look the same. -/
theorem unison_bind {ε α β β' : Type} {f : ε → ε} {g : α → α} {post : β → β' → Prop}
    {p p' : Service (Except ε α)} {k : Except ε α → Service β} {k' : Except ε α → Service β'}
    (h : Unison (Same f g) p p')
    (values : ∀ a a', g a = g a' → Unison post (k (.ok a)) (k' (.ok a')))
    (errors : ∀ e e', f e = f e' → Unison post (k (.error e)) (k' (.error e'))) :
    Unison post (p >>= k) (p' >>= k') := by
  refine InStep.bind (h.mono fun r r' same => ?_)
  obtain ⟨a, a', rfl, rfl, value⟩ | ⟨e, e', rfl, rfl, kind⟩ := shownBy_cases same
  · exact values a a' value
  · exact errors e e' kind

theorem unison_warn {α α' : Type} {post : α → α' → Prop} {text : String} {p : Service α}
    {p' : Service α'} (h : Unison post p p') :
    Unison post (warn text >>= fun _ => p) (warn text >>= fun _ => p') :=
  InStep.bind (inStep_question rfl fun _ _ _ => h)

namespace Account

/-! ## Onboarding -/

theorem shown_orMissing (missing : AccountError) {e e' : StorageError} (kind : e.shown = e'.shown) :
    (orMissing missing e).shown = (orMissing missing e').shown := by
  obtain rfl | ⟨_, _, rfl, rfl⟩ | ⟨_, _, rfl, rfl⟩ | ⟨_, _, rfl, rfl⟩ :=
    StorageError.shown_cases kind
  all_goals rfl

theorem unison_inTransaction {work work' : Service (Except StorageError Unit)}
    (h : Unison (Same StorageError.shown id) work work') :
    Unison (Same StorageError.shown id) (inTransaction work) (inTransaction work') := by
  refine unison_bind (inStep_question rfl fun _ _ => Heard.row.inj) (fun _ _ _ => ?_)
    fun _ _ kind => congrArg Except.error kind
  refine unison_bind h (fun _ _ _ => ?_) fun _ _ kind => congrArg Except.error kind
  exact unison_bind (inStep_question rfl fun _ _ => Heard.row.inj) (fun _ _ _ => rfl)
    fun _ _ kind => congrArg Except.error kind

variable {user : User} {link link' : Link}

theorem unison_insertLink (same : link.shown = link'.shown) :
    Unison (Same StorageError.shown id) (call (.insertLink link)) (call (.insertLink link')) :=
  inStep_question (congrArg Call.insertLink same) fun _ _ => Heard.row.inj

theorem unison_insertBoth (same : link.shown = link'.shown) :
    Unison (Same StorageError.shown id) (insertBoth user link) (insertBoth user link') :=
  unison_bind (inStep_question rfl fun _ _ => Heard.row.inj)
    (fun _ _ _ => unison_insertLink same) fun _ _ kind => congrArg Except.error kind

theorem same_finished (same : link.shown = link'.shown) (outcome : Outcome)
    {r r' : Except StorageError Unit} (row : Same StorageError.shown id r r') :
    Same AccountError.shown Onboarded.shown (finished user link outcome r)
      (finished user link' outcome r') := by
  obtain ⟨_, _, rfl, rfl, -⟩ | ⟨e, e', rfl, rfl, kind⟩ := shownBy_cases row
  · exact congrArg (fun l => Except.ok (Onboarded.mk user l outcome)) same
  · exact congrArg (fun e => Except.error (AccountError.storage e)) kind

variable {issuer : String} {tokens tokens' : TokenSet} {identity : Identity} {now : Time.Instant}

/-- What may be shown of a new link does not depend on the tokens. -/
theorem shown_issued (id : Uuid) (issuer subject : String) (tokens tokens' : TokenSet)
    (now : Time.Instant) : (Link.issued id issuer subject tokens now).shown
      = (Link.issued id issuer subject tokens' now).shown := rfl

theorem unison_createUser :
    Unison (Same AccountError.shown Onboarded.shown) (createUser issuer tokens identity now)
      (createUser issuer tokens' identity now) := by
  refine InStep.bind (inStep_question rfl fun id id' made => ?_)
  cases made
  have same := shown_issued id issuer identity.subject tokens tokens' now
  exact InStep.map ((unison_inTransaction (unison_insertBoth same)).mono fun _ _ =>
    same_finished same .createdUser)

theorem unison_linkProvider :
    Unison (Same AccountError.shown Onboarded.shown)
      (linkProvider user issuer tokens identity now)
      (linkProvider user issuer tokens' identity now) :=
  have same := shown_issued user.id issuer identity.subject tokens tokens' now
  InStep.map ((unison_inTransaction (unison_insertLink same)).mono fun _ _ =>
    same_finished same .linkedProvider)

/-- What may be shown of a link after another login does not depend on the tokens. -/
theorem shown_refresh (same : link.shown = link'.shown) :
    (link.refresh tokens now).shown = (link'.refresh tokens' now).shown :=
  congrArg (fun l : Link => { l with updatedAt := now }) same

theorem unison_refreshLink (same : link.shown = link'.shown) :
    Unison (Same AccountError.shown Onboarded.shown)
      (refreshLink user link tokens identity now)
      (refreshLink user link' tokens' identity now) := by
  have person : link.externalId = link'.externalId :=
    show link.shown.externalId = link'.shown.externalId from congrArg Link.externalId same
  have update : Unison (Same AccountError.shown Onboarded.shown)
      (finished user (link.refresh tokens now) .refreshedLink <$>
        call (.updateLink (link.refresh tokens now)))
      (finished user (link'.refresh tokens' now) .refreshedLink <$>
        call (.updateLink (link'.refresh tokens' now))) :=
    InStep.map (inStep_question (congrArg Call.updateLink (shown_refresh same)) fun _ _ row =>
      same_finished (shown_refresh same) .refreshedLink (Heard.row.inj row))
  unfold refreshLink
  rw [person]
  by_cases other : link'.externalId ≠ identity.subject
  · rw [if_pos other, if_pos other]
    exact unison_warn update
  · rw [if_neg other, if_neg other]
    exact update

theorem unison_resolve :
    Unison (Same AccountError.shown Onboarded.shown) (resolve issuer tokens identity)
      (resolve issuer tokens' identity) := by
  refine unison_now fun now => unison_bind (inStep_question rfl fun _ _ => Heard.user.inj)
    (fun user user' found => ?_) fun e e' kind => ?_
  · cases found
    refine unison_bind (inStep_question rfl fun _ _ => Heard.link.inj)
      (fun link link' same => unison_refreshLink same) fun e e' kind => ?_
    obtain rfl | ⟨_, _, rfl, rfl⟩ | ⟨_, _, rfl, rfl⟩ | ⟨_, _, rfl, rfl⟩ :=
      StorageError.shown_cases kind
    · cases e with
      | notFound => exact unison_linkProvider
      | _ => exact rfl
    all_goals exact rfl
  · obtain rfl | ⟨_, _, rfl, rfl⟩ | ⟨_, _, rfl, rfl⟩ | ⟨_, _, rfl, rfl⟩ :=
      StorageError.shown_cases kind
    · cases e with
      | notFound => exact unison_createUser
      | _ => exact rfl
    all_goals exact rfl

theorem unison_onboard :
    Unison (Same AccountError.shown Onboarded.shown) (onboard issuer tokens identity)
      (onboard issuer tokens' identity) := by
  refine unison_bind unison_resolve (fun _ _ same => congrArg Except.ok same) fun e e' kind => ?_
  obtain ⟨rfl, rfl⟩ | ⟨rfl, rfl⟩ | ⟨s, s', rfl, rfl, cause⟩ := AccountError.shown_cases kind
  · exact rfl
  · exact rfl
  · -- Both met a conflict and look a second time, or neither did.
    obtain rfl | ⟨_, _, rfl, rfl⟩ | ⟨_, _, rfl, rfl⟩ | ⟨_, _, rfl, rfl⟩ :=
      StorageError.shown_cases cause
    · cases s with
      | conflict _ => exact unison_warn unison_resolve
      | _ => exact rfl
    · exact unison_warn unison_resolve
    · exact rfl
    · exact rfl

/-! ## Links and users -/

/-- What may be shown of a link with the tokens of another one depends on its own data only. -/
theorem shown_withTokensOf (same : link.shown = link'.shown) (other : Link) :
    (link.withTokensOf other now).shown = (link'.withTokensOf other now).shown :=
  congrArg (fun l : Link => { l with updatedAt := now }) same

theorem unison_revokeLink (userId : Uuid) :
    Unison (Same AccountError.shown Link.shown) (revokeLink userId issuer)
      (revokeLink userId issuer) := by
  refine unison_now fun now => unison_bind (inStep_question rfl fun _ _ => Heard.link.inj)
    (fun link link' same => ?_) fun e e' kind => congrArg Except.error (shown_orMissing _ kind)
  refine unison_now fun later => ?_
  have changed : (link.withTokensOf (Link.revoked userId issuer now) later).shown
      = (link'.withTokensOf (Link.revoked userId issuer now) later).shown :=
    shown_withTokensOf same _
  exact unison_bind
    (inStep_question (congrArg Call.updateLink changed) fun _ _ => Heard.row.inj)
    (fun _ _ _ => congrArg Except.ok changed)
    fun e e' kind => congrArg Except.error (shown_orMissing _ kind)

/-- The user with an identifier is the same, or an error of the same kind. -/
theorem unison_userById (id : Uuid) :
    Unison (Same AccountError.shown fun u => u) (userById id) (userById id) :=
  unison_bind (inStep_question rfl fun _ _ => Heard.user.inj)
    (fun _ _ found => congrArg Except.ok found)
    fun _ _ kind => congrArg Except.error (shown_orMissing _ kind)

end Account
end FederatedLogin
