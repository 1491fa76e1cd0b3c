import FederatedLogin.Proofs.Program.Protocol
import FederatedLogin.Session.Manager

/-!
# Calls that look for a session

To create a session takes an identifier, to look one up takes one call of the session store and
perhaps a warning, and to find the session of a request takes these (`asks_load`). No such call
stores or deletes a value (`Call.looks`).
-/

namespace FederatedLogin

/-- The call is one of those with which the session of a request is looked for. -/
def Call.looks : Call → Bool
  | newSessionId | loadSession _ | log _ _ => true
  | _ => false

namespace Session

open Program

variable {kind : Call → Bool} {config : Config}

theorem asks_create (creates : kind .newSessionId = true) : (create config).Asks kind :=
  (asks_question creates).bind fun _ => asks_done _

theorem asks_get {id : Uuid} (finds : kind (.loadSession (key config id)) = true)
    (warns : ∀ text, kind (.log .warning text) = true) : (get config id).Asks kind := by
  refine (asks_question finds).bind fun found => ?_
  split
  · exact asks_done _
  · exact asks_done _
  · split
    · exact asks_done _
    · exact (asks_question (warns _)).bind fun _ => asks_done _

/-- The store is asked only if the cookies name a session. -/
theorem asks_load {headers : List String} (creates : kind .newSessionId = true)
    (finds : ∀ id, requestedId? config headers = some id →
      kind (.loadSession (key config id)) = true)
    (warns : ∀ text, kind (.log .warning text) = true) : (load config headers).Asks kind := by
  unfold load
  cases requested : requestedId? config headers with
  | none => exact (asks_create creates).map _
  | some id =>
    refine (asks_get (finds id requested) warns).bind fun found => ?_
    split
    · exact asks_done _
    · exact asks_done _
    · exact (asks_create creates).map _

end Session
end FederatedLogin
