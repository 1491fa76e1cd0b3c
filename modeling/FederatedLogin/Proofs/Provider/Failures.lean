import FederatedLogin.Proofs.Program.Protocol
import FederatedLogin.Provider.Adapter
import FederatedLogin.Provider.Stub

/-!
# How providers fail

An exchange of a code fails as an exchange, and a fetch of an identity as a fetch, whatever goes
wrong inside: the text tells what it was, and the kind of the error tells which of the two it was.
-/

namespace FederatedLogin.Provider

open Program

variable {α β : Type} {kind : String → Error}

/-- The result is no failure of another kind. -/
def FailsAs (kind : String → Error) (r : Except Error α) : Prop :=
  ∀ e, r = .error e → ∃ cause, e = kind cause

theorem failsAs_ok (a : α) : FailsAs kind (.ok a : Except Error α) := fun _ h => nomatch h

theorem failsAs_error (cause : String) : FailsAs kind (.error (kind cause) : Except Error α) := by
  rintro _ ⟨⟩
  exact ⟨cause, rfl⟩

/-! ## Programs of adapters -/

/-- A program that fails after a line in the log. -/
theorem returns_warn {text cause : String} :
    (Traffic.warn text >>= fun _ => pure (.error (kind cause)) : Traffic (Except Error α)).Returns
      (FailsAs kind) := fun _ => failsAs_error cause

/-- The rule for a program that goes on with a result that may be a failure. -/
theorem returns_bind_of_failsAs {p : Traffic (Except Error α)}
    {f : Except Error α → Traffic β} {post : β → Prop} (h : p.Returns (FailsAs kind))
    (failed : ∀ cause, (f (.error (kind cause))).Returns post)
    (succeeded : ∀ a, (f (.ok a)).Returns post) : (p >>= f).Returns post := by
  refine h.bind fun r failsAs => ?_
  cases r with
  | error e =>
    obtain ⟨cause, rfl⟩ := failsAs e rfl
    exact failed cause
  | ok a => exact succeeded a

theorem returns_exchange (a : Adapter) (grant : Grant) :
    (a.exchange grant).Returns (FailsAs .exchangeFailed) := by
  unfold Adapter.exchange
  split
  · exact failsAs_error _
  · refine returns_ask_bind fun response => ?_
    split
    · exact returns_warn
    · exact fun now => failsAs_ok _

theorem returns_fetchJson (readBody? : List UInt8 → Option α) (endpoint accessToken : String)
    (headers : List (String × String)) :
    (fetchJson readBody? endpoint accessToken headers).Returns (FailsAs .identityFailed) := by
  unfold fetchJson
  dsimp only
  split
  · exact returns_warn
  · refine returns_ask_bind fun response => ?_
    split
    · exact returns_warn
    · split
      · exact returns_warn
      · split
        · exact failsAs_ok _
        · exact returns_warn

theorem GitHub.failsAs_identity (p : Profile) (addresses : List Address) :
    FailsAs .identityFailed (identity p addresses) := by
  unfold identity
  split
  · exact failsAs_error _
  · exact failsAs_ok _

theorem Google.returns_fetchIdentity (endpoint accessToken : String) :
    (fetchIdentity endpoint accessToken).Returns (FailsAs .identityFailed) := by
  unfold fetchIdentity
  refine returns_bind_of_failsAs (returns_fetchJson _ _ _ _) ?_ ?_
  · exact fun cause => failsAs_error cause
  · exact fun profile => failsAs_ok _

theorem GitHub.returns_fetchIdentity (endpoint accessToken : String) :
    (fetchIdentity endpoint accessToken).Returns (FailsAs .identityFailed) := by
  unfold fetchIdentity
  -- Which endpoint has the addresses does not matter here.
  generalize addressesUrl endpoint = below
  refine returns_bind_of_failsAs (returns_fetchJson _ _ _ _) ?_ fun profile => ?_
  · exact fun cause => failsAs_error cause
  · refine returns_bind_of_failsAs (returns_fetchJson _ _ _ _) ?_ fun addresses => ?_
    · exact fun cause => failsAs_error cause
    · exact failsAs_identity profile addresses

theorem returns_fetchIdentity (a : Adapter) (accessToken : String) :
    (a.fetchIdentity accessToken).Returns (FailsAs .identityFailed) := by
  unfold Adapter.fetchIdentity
  split
  · exact Google.returns_fetchIdentity _ _
  · exact GitHub.returns_fetchIdentity _ _

/-! ## Stubs -/

theorem Stub.failsAs_exchange (s : Stub) (now : Time.Instant) (code : String) :
    FailsAs .exchangeFailed (s.exchange now code).1 := by
  unfold Stub.exchange
  dsimp only
  split
  · exact failsAs_error _
  · exact failsAs_ok _

theorem Stub.failsAs_fetch (s : Stub) : FailsAs .identityFailed s.fetch.1 := by
  unfold Stub.fetch
  dsimp only
  split
  · exact failsAs_error _
  · exact failsAs_ok _

end FederatedLogin.Provider
