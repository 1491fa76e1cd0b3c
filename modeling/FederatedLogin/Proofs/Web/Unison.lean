import FederatedLogin.Proofs.Account.Unison
import FederatedLogin.Web.Router

/-!
# Endpoints in unison

What a client is told does not depend on tokens, nor on the texts of errors. A session is found by
the key that the cookie names, whatever its blob holds besides the user and the provider; a cookie
is made from the session without its values; and the response to a failed request is made from the
kind of the failure. So the service is in unison with itself, with the same responses
(`Web.unison_serve`).
-/

namespace FederatedLogin

open Program

/-! ## Providers -/

/-- Asking a provider who logs in looks the same, whatever the tokens and the texts of errors are.
-/
theorem Provider.Registry.unison_verify (r : Registry) (name : String) (grant : Grant) :
    Unison (Same Error.shown (Prod.map TokenSet.shown id)) (r.verify name grant)
      (r.verify name grant) := by
  unfold verify
  cases r.adapter name with
  | error e => exact rfl
  | ok adapter =>
    refine unison_bind (inStep_question rfl fun _ _ => Heard.tokens.inj)
      (fun tokens tokens' _ => ?_) fun _ _ kind => congrArg Except.error kind
    -- The token is shown to the provider and to nobody else.
    exact unison_bind (inStep_question rfl fun _ _ => Heard.identity.inj)
      (fun _ _ person => congrArg (fun i => Except.ok (TokenSet.shown tokens, i)) person)
      fun _ _ kind => congrArg Except.error kind

namespace Session

/-! ## Sessions -/

variable {config : Config} {s s' : Session}

/-- Creating a session looks the same. -/
theorem unison_create : Unison (· = ·) (create config) (create config) :=
  InStep.bind (inStep_question rfl fun _ _ made => congrArg (fresh config) (Heard.made.inj made))

/-- Looking for a session looks the same, apart from its token. -/
theorem unison_get (id : Uuid) :
    Unison (Same Error.shown (Option.map shown)) (get config id) (get config id) := by
  refine unison_bind (inStep_question rfl fun _ _ => Heard.blob.inj) (fun found found' same => ?_)
    fun _ _ kind => congrArg Except.error kind
  obtain ⟨rfl, rfl⟩ | ⟨blob, blob', rfl, rfl, blobs⟩ := map_cases same
  · exact rfl
  · -- Both blobs are damaged, or hold the same but for the access token.
    dsimp only
    obtain ⟨read, read'⟩ | ⟨v, v', read, read', values⟩ := map_cases (decode?_of_shownBlob blobs)
    · rw [read, read']
      exact unison_warn rfl
    · rw [read, read']
      exact congrArg (fun v => Except.ok (some (restored config id v))) values

/-- Loading the session of a request looks the same, apart from its token. -/
theorem unison_load (headers : List String) :
    Unison (Same Error.shown shown) (load config headers) (load config headers) := by
  have new : Unison (Same Error.shown shown) (Except.ok <$> create config)
      (Except.ok <$> create config) :=
    InStep.map (unison_create.mono fun _ _ same => congrArg (fun s => Except.ok (shown s)) same)
  unfold load
  cases requestedId? config headers with
  | none => exact new
  | some id =>
    refine unison_bind (unison_get id) (fun found found' same => ?_)
      fun _ _ kind => congrArg Except.error kind
    obtain ⟨rfl, rfl⟩ | ⟨s, s', rfl, rfl, sessions⟩ := map_cases same
    · exact new
    · exact congrArg Except.ok sessions

/-- Writing sessions that look the same looks the same. -/
theorem unison_write (same : s.shown = s'.shown) :
    Unison (Same Error.shown fun u => u) (write config s) (write config s') := by
  have keys : key config s.id = key config s'.id :=
    show key config s.shown.id = key config s'.shown.id by rw [same]
  have ends : s.isEnded = s'.isEnded :=
    show s.shown.isEnded = s'.shown.isEnded by rw [same]
  have lifetimes : lifetime? s = lifetime? s' :=
    show lifetime? s.shown = lifetime? s'.shown by rw [same]
  have values : s.values.shown = s'.values.shown :=
    show s.shown.values = s'.shown.values by rw [same]
  have blobs : shownBlob s.values.encode = shownBlob s'.values.encode := by
    rw [shownBlob_encode, shownBlob_encode, values]
  unfold write
  rw [ends, keys, lifetimes]
  cases s'.isEnded with
  | true => exact inStep_question rfl fun _ _ => Heard.session.inj
  | false =>
    have stored : (Call.storeSession (key config s'.id) s.values.encode (lifetime? s')).shown
        = (Call.storeSession (key config s'.id) s'.values.encode (lifetime? s')).shown :=
      congrArg (fun b => Call.storeSession (key config s'.id) b (lifetime? s')) blobs
    exact inStep_question stored fun _ _ => Heard.session.inj

/-- Saving sessions that look the same looks the same, and gives the same cookie. -/
theorem unison_save (same : s.shown = s'.shown) :
    Unison (Same Error.shown fun c => c) (save config s) (save config s') :=
  have cookies : cookie config s = cookie config s' :=
    show cookie config s.shown = cookie config s'.shown from congrArg (cookie config) same
  unison_bind (unison_write same) (fun _ _ _ => congrArg (shownBy Error.shown fun c => c) cookies)
    fun _ _ kind => congrArg Except.error kind

end Session

namespace Web

/-! ## Failures -/

/-- The kind of a failure. -/
def Failure.shown : Failure → Failure
  | provider e => provider e.shown
  | account e => account e.shown
  | session e => session e.shown
  | f => f

/-- The client is told the kind of a failure only. -/
theorem Failure.response_shown (f : Failure) : f.shown.response = f.response := by
  cases f with
  | provider e => cases e <;> rfl
  | session e => cases e <;> rfl
  | account e =>
    cases e with
    | storage e => cases e <;> rfl
    | _ => rfl
  | _ => rfl

/-- Failures of the same kind are told in the same response. -/
theorem Failure.unison_report {f f' : Failure} (same : f.shown = f'.shown) :
    Unison (· = ·) f.report f'.report := by
  have told : f.response = f'.response := by
    rw [← f.response_shown, ← f'.response_shown, same]
  have status : f.status = f'.status := congrArg Response.status told
  unfold report
  rw [status, told]
  split
  · exact InStep.bind (inStep_question rfl fun _ _ _ => rfl)
  · exact unison_warn rfl

/-! ## Endpoints -/

variable {app : App} {request : TokenRequest} {tokens tokens' : TokenSet} {o o' : Onboarded}
  {session session' : Session}

/-- Starting a session looks the same, whatever tokens were issued. -/
theorem unison_startSession (same : o.shown = o'.shown) :
    Unison (Same Failure.shown id) (startSession app request tokens o)
      (startSession app request tokens' o') := by
  have users : o.user = o'.user :=
    show o.shown.user = o'.shown.user from congrArg Onboarded.user same
  have told : loginValue o.user o.link = loginValue o'.user o'.link :=
    show loginValue o.shown.user o.shown.link = loginValue o'.shown.user o'.shown.link by rw [same]
  unfold startSession
  rw [told, users]
  refine InStep.bind (Session.unison_create.mono fun s s' new => ?_)
  cases new
  exact unison_bind (Session.unison_save rfl)
    (fun cookie cookie' same => by cases show cookie = cookie' from same; exact rfl)
    fun _ _ kind => congrArg (fun e => Except.error (Failure.session e)) kind

/-- A login looks the same. -/
theorem unison_login :
    Unison (Same Failure.shown id) (login app request) (login app request) := by
  refine unison_bind (app.registry.unison_verify request.provider request.grant)
    (fun verified verified' same => ?_)
    fun _ _ kind => congrArg (fun e => Except.error (Failure.provider e)) kind
  obtain ⟨tokens, person⟩ := verified
  obtain ⟨tokens', person'⟩ := verified'
  obtain rfl : person = person' := congrArg Prod.snd same
  exact unison_bind Account.unison_onboard (fun _ _ same => unison_startSession same)
    fun _ _ kind => congrArg (fun e => Except.error (Failure.account e)) kind

/-- The endpoint of logins looks the same. -/
theorem unison_exchangeToken (r : Request) :
    Unison (Same Failure.shown id) (exchangeToken app r) (exchangeToken app r) := by
  unfold exchangeToken
  cases readTokenRequest r with
  | error f => exact rfl
  | ok request => exact unison_login

/-- Finding out who is logged in looks the same. -/
theorem unison_authenticated (r : Request) :
    Unison (Same Failure.shown (Prod.map Session.shown id)) (authenticated app r)
      (authenticated app r) := by
  refine unison_bind (Session.unison_load _) (fun s s' same => ?_)
    fun _ _ kind => congrArg (fun e => Except.error (Failure.session e)) kind
  have persons : s.principal? = s'.principal? :=
    show s.shown.principal? = s'.shown.principal? from congrArg Session.principal? same
  dsimp only
  rw [persons]
  cases s'.principal? with
  | none => exact rfl
  | some person => exact congrArg (fun s => Except.ok (s, person)) same

/-- A look at the user looks the same. -/
theorem unison_userInfo (r : Request) :
    Unison (Same Failure.shown id) (userInfo app r) (userInfo app r) := by
  refine unison_bind (unison_authenticated r) (fun found found' same => ?_)
    fun _ _ kind => congrArg Except.error kind
  obtain ⟨s, userId, issuer⟩ := found
  obtain ⟨s', userId', issuer'⟩ := found'
  cases congrArg Prod.snd same
  exact unison_bind (Account.unison_userById userId)
    (fun _ _ user => congrArg
      (fun u : User => Except.ok (Response.json 200 (.object [("user", u.toValue)]))) user)
    fun _ _ kind => congrArg (fun e => Except.error (Failure.account e)) kind

/-- Ending sessions that look the same looks the same. -/
theorem unison_endSession (same : session.shown = session'.shown) :
    Unison (Same Failure.shown id) (endSession app session) (endSession app session') :=
  have ended : session.finish.shown = session'.finish.shown :=
    show session.shown.finish = session'.shown.finish from congrArg Session.finish same
  unison_bind (Session.unison_save ended)
    (fun _ _ cookie => congrArg (fun c => Except.ok ((Response.empty 204).withCookie c)) cookie)
    fun _ _ kind => congrArg (fun e => Except.error (Failure.session e)) kind

/-- A logout looks the same. -/
theorem unison_logout (r : Request) :
    Unison (Same Failure.shown id) (logout app r) (logout app r) := by
  refine unison_bind (unison_authenticated r) (fun found found' same => ?_)
    fun _ _ kind => congrArg Except.error kind
  obtain ⟨s, userId, issuer⟩ := found
  obtain ⟨s', userId', issuer'⟩ := found'
  have sessions : s.shown = s'.shown := congrArg Prod.fst same
  cases congrArg Prod.snd same
  refine unison_bind (Account.unison_revokeLink userId) (fun _ _ _ => unison_endSession sessions)
    fun e e' kind => ?_
  obtain ⟨rfl, rfl⟩ | ⟨rfl, rfl⟩ | ⟨cause, cause', rfl, rfl, _⟩ := AccountError.shown_cases kind
  · exact rfl
  · exact unison_warn (unison_endSession sessions)
  · exact congrArg (fun e => Except.error (Failure.account e)) kind

/-- A look at the health of the service looks the same. -/
theorem unison_health (r : Request) :
    Unison (Same Failure.shown id) (health app r) (health app r) := by
  refine InStep.bind (inStep_question rfl fun host host' same => ?_)
  cases same
  exact rfl

/-! ## Routing -/

/-- All endpoints look the same. -/
theorem unison_routes (app : App) :
    ∀ route ∈ routes, ∀ r, Unison (Same Failure.shown id) (route.endpoint app r)
      (route.endpoint app r) := by
  simp only [routes, List.forall_mem_cons]
  exact ⟨unison_exchangeToken, unison_userInfo, unison_logout, unison_health, nofun⟩

/-- If an endpoint looks the same, its responses are the same. -/
theorem unison_answerWith {endpoint : Endpoint} {r : Request}
    (h : Unison (Same Failure.shown id) (endpoint app r) (endpoint app r)) :
    Unison (· = ·) (answerWith endpoint app r) (answerWith endpoint app r) :=
  unison_bind h (fun _ _ same => same) fun _ _ kind => Failure.unison_report kind

/-- The service gives the same response to a request, whatever it is told that may not be shown. -/
theorem unison_serve (app : App) (r : Request) :
    Unison (· = ·) (serve app r) (serve app r) := by
  unfold serve
  cases found : routes.find? fun route => route.path = pathOf r.path with
  | none => exact rfl
  | some route =>
    dsimp only
    split
    · have endpoint := unison_routes app route (List.mem_of_find?_eq_some found) r
      exact InStep.bind ((unison_answerWith endpoint).mono fun _ _ same => by rw [same]; exact rfl)
    · exact rfl

end Web
end FederatedLogin
