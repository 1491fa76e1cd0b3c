import FederatedLogin.Proofs.Account.Settling
import FederatedLogin.Proofs.Session.Saving
import FederatedLogin.Proofs.Web.Endpoints
import FederatedLogin.Proofs.Web.TokenRequest

/-!
# Logins that fail halfway

A login goes through five stages, and each of them may fail: the request is read, the code is
exchanged, the identity is fetched, the person is given a user and a link, and a session is saved.
`AfterExchange`, `AfterIdentity` and `AfterOnboarding` say what becomes of a login from one stage
on, by what the stage came to. Up to the onboarding a failure leaves users, links and sessions as
they were (`Refused`); after it only the session can be missing. A response has a cookie exactly
when its status is 200. All this is `login_all_or_nothing`, for a request that runs alone, whatever
failures are scripted.
-/

namespace FederatedLogin

open Program Backend

namespace Web

variable {app : App} {r : Request} {request : TokenRequest} {n : Nat}

/-! ## Reading the request -/

/-- The body of the request is a login request that keeps all rules, and the provider that it names
has the adapter of the number. -/
structure Acceptable (app : App) (r : Request) (request : TokenRequest) (n : Nat) : Prop where
  json : (r.headersNamed "content-type").head?.any isJsonMediaType = true
  size : r.body.utf8ByteSize ≤ bodyLimit
  body : TokenRequest.parse r.body = .ok request
  provider : request.provider ≠ ""
  code : request.authorizationCode ≠ ""
  verifier : 43 ≤ request.codeVerifier.length ∧ request.codeVerifier.length ≤ 128
  redirect : ∃ url, Url.parse request.redirectUri = .ok url
  registered : app.registry.adapter request.provider = .ok n

/-- A request is acceptable if it can be read and its provider is registered. -/
theorem acceptable_iff : Acceptable app r request n ↔
    readTokenRequest r = .ok request ∧ app.registry.adapter request.provider = .ok n := by
  rw [readTokenRequest_eq_ok_iff, violations_eq_nil_iff]
  constructor
  · rintro ⟨json, size, body, provider, code, verifier, redirect, registered⟩
    exact ⟨⟨json, size, body, provider, code, verifier, redirect⟩, registered⟩
  · rintro ⟨⟨json, size, body, provider, code, verifier, redirect⟩, registered⟩
    exact ⟨json, size, body, provider, code, verifier, redirect, registered⟩

/-! ## Responding -/

/-- The response to what came of an endpoint. -/
def respond : Except Failure Response → Service Response
  | .ok response => pure response
  | .error failure => failure.report

/-- A request to a path of the service, with the method that the path takes, is answered by the
endpoint of the path. -/
theorem serve_of_route {route : Route}
    (listed : routes.find? (fun route => route.path = pathOf r.path) = some route)
    (method : r.method = route.method) (reads : route.method ≠ "HEAD") :
    serve app r = route.endpoint app r >>= respond := by
  have takes : r.method ∈ route.methods := by
    rw [method]
    unfold Route.methods
    split
    · next get => simp [get]
    · simp
  have whole : ¬ r.method = "HEAD" := method ▸ reads
  unfold serve
  rw [listed]
  dsimp only
  rw [if_pos takes]
  simp only [if_neg whole]
  exact bind_done (answerWith route.endpoint app r)

/-- A login request is answered by its endpoint. -/
theorem serve_login (asked : r.IsTo "POST" "/oauth/token") :
    serve app r = exchangeToken app r >>= respond := by
  have listed : routes.find? (fun route => route.path = pathOf r.path)
      = some ⟨"/oauth/token", "POST", exchangeToken⟩ := by
    rw [asked.2]
    rfl
  exact serve_of_route listed asked.1 (by decide)

variable {b b₁ b₂ b₃ : Backend} {ran : Except Halt Response × Backend}

/-- The response to a login is made of what the endpoint comes to. -/
theorem run_serve_of_result (asked : r.IsTo "POST" "/oauth/token")
    {result : Except Failure Response} (h : b.run (exchangeToken app r) = (.ok result, b₁)) :
    b.run (serve app r) = b₁.run (respond result) := by
  rw [serve_login asked, run_bind h]

/-- If the endpoint comes to no end, neither does the request. -/
theorem run_serve_of_halt (asked : r.IsTo "POST" "/oauth/token") {halt : Halt}
    (h : b.run (exchangeToken app r) = (.error halt, b₁)) :
    b.run (serve app r) = (.error halt, b₁) := by
  rw [serve_login asked, run_bind_of_halt h]

/-- The line that a failure leaves in the log. -/
def Failure.line (f : Failure) : Call :=
  if 500 ≤ f.status then .log .error "request failed" else .log .warning "request rejected"

/-- A failure is told in a response and in one line of the log, and changes no store. -/
theorem gives_report (b : Backend) (f : Failure) :
    b.Gives f.report fun response b' =>
      response = f.response ∧ SameStores b b' ∧ b'.calls = b.calls ++ [f.line] := by
  have logs (level : Level) (text : String) :
      b.Gives (call (.log level text) >>= fun _ => pure f.response) fun response b' =>
        response = f.response ∧ SameStores b b' ∧ b'.calls = b.calls ++ [.log level text] :=
    Gives.bind (gives_onAccounts rfl fun _ _ ha =>
      gives_pure ⟨rfl, sameStores_answer rfl ha, calls_of_answer ha⟩)
  unfold Failure.report Failure.line
  split
  · exact logs .error "request failed"
  · exact logs .warning "request rejected"

/-- The request was refused with a status: there is no cookie, and users, links and sessions are as
before. -/
structure Refused (b : Backend) (status : Nat) (ran : Except Halt Response × Backend) : Prop where
  response : ∃ response, ran.1 = .ok response ∧ response.status = status ∧ response.setCookie = none
  tables : ran.2.tables = b.tables
  sessions : ran.2.sessions = b.sessions

/-- A login that fails before anything has changed is refused with the status of the failure. -/
theorem refused_of_failure (asked : r.IsTo "POST" "/oauth/token") {f : Failure}
    (h : b.run (exchangeToken app r) = (.ok (.error f), b₁)) (tables : b₁.tables = b.tables)
    (sessions : b₁.sessions = b.sessions) :
    Refused b f.status (b.run (serve app r)) ∧
      (b.run (serve app r)).2.calls = b₁.calls ++ [f.line] := by
  obtain ⟨_, b₂, reported, rfl, same, calls⟩ := gives_report b₁ f
  have run : b.run (serve app r) = (.ok f.response, b₂) :=
    (run_serve_of_result asked h).trans reported
  rw [run]
  exact ⟨⟨⟨f.response, rfl, rfl, rfl⟩, same.tables.trans tables, same.sessions.trans sessions⟩,
    calls⟩

/-! ## The session -/

/-- What becomes of a login that has a user and a link: it has a session and a cookie, or the
failure of the session store is told and no session is there. -/
structure AfterOnboarding (app : App) (b b₃ : Backend) (ran : Except Halt Response × Backend) :
    Prop where
  tables : ran.2.tables = b₃.tables
  failed : (Session.saveFault? b app.settings.session.maxAge).isSome →
    (∃ response, ran.1 = .ok response ∧ response.status = 500 ∧ response.setCookie = none) ∧
      ran.2.sessions = b.sessions
  saved : Session.saveFault? b app.settings.session.maxAge = none →
    Session.EndExists b app.settings.session.maxAge →
    ∃ response, ran.1 = .ok response ∧ response.status = 200 ∧ response.setCookie.isSome
  stopped : Session.saveFault? b app.settings.session.maxAge = none →
    ¬ Session.EndExists b app.settings.session.maxAge →
    ran.1 = .error .clockOverflow ∧ ran.2.sessions = b.sessions

section StartSession

variable {tokens : TokenSet} {o : Onboarded}

/-- If the store fails to save the session, the login fails and no store changes. -/
theorem gives_startSession_of_fault {cause : String}
    (fault : Session.saveFault? b app.settings.session.maxAge = some cause) :
    b.Gives (startSession app request tokens o) fun result b' =>
      result = .error (.session (.store cause)) ∧ SameStores b b' := by
  unfold startSession
  refine Gives.bind ((Session.gives_create_unsaved b _).mono ?_)
  rintro session b₁ ⟨maxAge, same, steady⟩
  rw [← Session.saveFault?_of_steady steady, ← maxAge] at fault
  refine Gives.bind (Gives.mono (Session.gives_save_of_fault cause ?_) ?_)
  · exact fault
  · rintro _ b₂ ⟨rfl, same'⟩
    exact gives_pure ⟨rfl, same.trans same'⟩

/-- If the session can be saved and its end exists, the login is answered with a cookie. -/
theorem gives_startSession_of_endExists (safe : app.settings.session.HeaderSafe)
    (works : Session.saveFault? b app.settings.session.maxAge = none)
    (ends : Session.EndExists b app.settings.session.maxAge) :
    b.Gives (startSession app request tokens o) fun result b' =>
      (∃ response, result = .ok response ∧ response.status = 200 ∧ response.setCookie.isSome) ∧
        b'.tables = b.tables := by
  unfold startSession
  refine Gives.bind ((Session.gives_create_unsaved b _).mono ?_)
  rintro session b₁ ⟨maxAge, same, steady⟩
  rw [← Session.saveFault?_of_steady steady, ← maxAge] at works
  rw [← Session.endExists_of_steady steady, ← maxAge] at ends
  refine Gives.bind (Gives.mono (Session.gives_save_of_endExists safe ?_ ?_) ?_)
  · exact works
  · exact ends
  · rintro _ b₂ ⟨rfl, same'⟩
    exact gives_pure ⟨⟨_, rfl, rfl, rfl⟩, same'.trans same.tables⟩

/-- If the end of the session does not exist, the login comes to no end and no store changes. -/
theorem run_startSession_of_not_endExists
    (works : Session.saveFault? b app.settings.session.maxAge = none)
    (late : ¬ Session.EndExists b app.settings.session.maxAge) :
    ∃ b', b.run (startSession app request tokens o) = (.error .clockOverflow, b') ∧
      SameStores b b' := by
  obtain ⟨session, b₁, created, maxAge, same, steady⟩ :=
    Session.gives_create_unsaved b app.settings.session
  rw [← Session.saveFault?_of_steady steady, ← maxAge] at works
  rw [← Session.endExists_of_steady steady, ← maxAge] at late
  obtain ⟨b₂, stopped, same'⟩ := Session.run_save_of_not_endExists
    (s := session.authenticate o.user.id request.provider tokens.accessToken) works late
  refine ⟨b₂, ?_, same.trans same'⟩
  unfold startSession
  rw [run_bind created]
  exact run_bind_of_halt stopped

end StartSession

/-- A login that has come to its last stage. -/
theorem afterOnboarding (safe : app.settings.session.HeaderSafe)
    (asked : r.IsTo "POST" "/oauth/token") (steady : Steady b b₃)
    (sessions : b₃.sessions = b.sessions) {tokens : TokenSet} {o : Onboarded}
    (h : b.run (exchangeToken app r) = b₃.run (startSession app request tokens o)) :
    AfterOnboarding app b b₃ (b.run (serve app r)) := by
  have fault₃ : Session.saveFault? b₃ app.settings.session.maxAge
      = Session.saveFault? b app.settings.session.maxAge := Session.saveFault?_of_steady steady
  have ends₃ : Session.EndExists b₃ app.settings.session.maxAge ↔
      Session.EndExists b app.settings.session.maxAge := Session.endExists_of_steady steady
  cases fault : Session.saveFault? b app.settings.session.maxAge with
  | some cause =>
    -- The failure is told, and neither stage has touched the sessions.
    obtain ⟨_, b₄, started, rfl, same⟩ : b₃.Gives (startSession app request tokens o) _ :=
      gives_startSession_of_fault (fault₃.trans fault)
    obtain ⟨_, b₅, reported, rfl, same', -⟩ := gives_report b₄ (.session (.store cause))
    have run := (run_serve_of_result asked (h.trans started)).trans reported
    have kept := same.trans same'
    rw [run]
    exact
      { tables := kept.tables
        failed := fun _ => ⟨⟨_, rfl, rfl, rfl⟩, kept.sessions.trans sessions⟩
        saved := fun works => nomatch fault.symm.trans works
        stopped := fun works => nomatch fault.symm.trans works }
  | none =>
    by_cases ends : Session.EndExists b app.settings.session.maxAge
    · obtain ⟨_, b₄, started, ⟨response, rfl, ok, cookie⟩, tables⟩ :
          b₃.Gives (startSession app request tokens o) _ :=
        gives_startSession_of_endExists safe (fault₃.trans fault) (ends₃.2 ends)
      have run := run_serve_of_result asked (h.trans started)
      rw [run]
      exact
        { tables := tables
          failed := fun fails => nomatch fault ▸ fails
          saved := fun _ _ => ⟨response, rfl, ok, cookie⟩
          stopped := fun _ late => absurd ends late }
    · obtain ⟨b₄, halted, same⟩ :=
        run_startSession_of_not_endExists (o := o) (fault₃.trans fault) (mt ends₃.1 ends)
      have run := run_serve_of_halt asked (h.trans halted)
      rw [run]
      exact
        { tables := same.tables
          failed := fun fails => nomatch fault ▸ fails
          saved := fun _ exist => absurd exist ends
          stopped := fun _ _ => ⟨rfl, same.sessions.trans sessions⟩ }

/-! ## The stages before it -/

/-- What becomes of a login whose identity was fetched, or failed to be. -/
def AfterIdentity (app : App) (request : TokenRequest) (tokens : TokenSet) (b b₂ : Backend)
    (ran : Except Halt Response × Backend) : Except Provider.Error Identity → Prop
  | .error _ => Refused b 500 ran
  | .ok identity => ∃ result b₃,
      b₂.run (Account.onboard request.provider tokens identity) = (.ok result, b₃) ∧
        match result with
        | .error _ => Refused b 500 ran
        | .ok _ => AfterOnboarding app b b₃ ran

/-- What becomes of a login whose code was exchanged, or failed to be. No identity is fetched
without tokens. -/
def AfterExchange (app : App) (request : TokenRequest) (n : Nat) (b b₁ : Backend)
    (ran : Except Halt Response × Backend) : Except Provider.Error TokenSet → Prop
  | .error _ => Refused b 500 ran ∧
      ran.2.calls = b.calls ++ [.exchange n request.grant, .log .error "request failed"]
  | .ok tokens => ∃ result b₂,
      b₁.answer (.identity n tokens.accessToken) = .ok (result, b₂) ∧
        AfterIdentity app request tokens b b₂ ran result

section Stages

variable {tokens : TokenSet} {identity : Identity}

/-- If the exchange of the code fails, so does the look at who logs in. -/
theorem run_verify_of_error (registered : app.registry.adapter request.provider = .ok n)
    {e : Provider.Error} (exchanged : b.answer (.exchange n request.grant) = .ok (.error e, b₁)) :
    b.run (app.registry.verify request.provider request.grant) = (.ok (.error e), b₁) := by
  unfold Provider.Registry.verify
  rw [registered]
  exact run_bind (run_call exchanged)

/-- After the exchange of the code, who logs in is whom the provider names. -/
theorem run_verify (registered : app.registry.adapter request.provider = .ok n)
    (exchanged : b.answer (.exchange n request.grant) = .ok (.ok tokens, b₁))
    {result : Except Provider.Error Identity}
    (identified : b₁.answer (.identity n tokens.accessToken) = .ok (result, b₂)) :
    b.run (app.registry.verify request.provider request.grant)
      = (.ok (result.map fun identity => (tokens, identity)), b₂) := by
  unfold Provider.Registry.verify
  rw [registered]
  dsimp only
  rw [run_bind (run_call exchanged)]
  dsimp only
  rw [run_bind (run_call identified)]
  cases result <;> rfl

/-- If the look at who logs in fails, so does the login. -/
theorem run_login_of_error {e : Provider.Error}
    (verified : b.run (app.registry.verify request.provider request.grant) = (.ok (.error e), b₁)) :
    b.run (login app request) = (.ok (.error (.provider e)), b₁) := by
  unfold login
  exact run_bind verified

/-- If the user can be neither found nor created, the login fails. -/
theorem run_login_of_account_error {e : AccountError}
    (verified : b.run (app.registry.verify request.provider request.grant)
      = (.ok (.ok (tokens, identity)), b₂))
    (onboarded : b₂.run (Account.onboard request.provider tokens identity) = (.ok (.error e), b₃)) :
    b.run (login app request) = (.ok (.error (.account e)), b₃) := by
  unfold login
  rw [run_bind verified]
  exact run_bind onboarded

/-- Once the user is found or created, the login goes on to start the session. -/
theorem run_login {o : Onboarded}
    (verified : b.run (app.registry.verify request.provider request.grant)
      = (.ok (.ok (tokens, identity)), b₂))
    (onboarded : b₂.run (Account.onboard request.provider tokens identity) = (.ok (.ok o), b₃)) :
    b.run (login app request) = b₃.run (startSession app request tokens o) := by
  unfold login
  rw [run_bind verified]
  exact run_bind onboarded

/-- For an acceptable request, the endpoint is the login. -/
theorem exchangeToken_of_acceptable (acceptable : Acceptable app r request n) :
    exchangeToken app r = login app request := by
  unfold exchangeToken
  rw [(acceptable_iff.1 acceptable).1]

/-- A login whose identity was fetched, or failed to be. -/
theorem afterIdentity (safe : app.settings.session.HeaderSafe)
    (asked : r.IsTo "POST" "/oauth/token") (reads : exchangeToken app r = login app request)
    {result : Except Provider.Error Identity} (failsAs : Provider.FailsAs .identityFailed result)
    (verified : b.run (app.registry.verify request.provider request.grant)
      = (.ok (result.map fun identity => (tokens, identity)), b₂))
    (same : SameStores b b₂) (steady : Steady b b₂) :
    AfterIdentity app request tokens b b₂ (b.run (serve app r)) result := by
  cases result with
  | error e =>
    obtain ⟨cause, rfl⟩ := failsAs e rfl
    have failed := run_login_of_error verified
    rw [← reads] at failed
    exact (refused_of_failure asked failed same.tables same.sessions).1
  | ok identity =>
    obtain ⟨result, b₃, onboarded, settles⟩ :=
      Account.gives_onboard_settles b₂ request.provider tokens identity
    have steady₃ : Steady b₂ b₃ := by
      have run := steady_run b₂ (Account.onboard request.provider tokens identity)
      rwa [onboarded] at run
    have sessions₃ : b₃.sessions = b₂.sessions := by
      have run := sessions_run (asks_onboard request.provider tokens identity) b₂
      rwa [onboarded] at run
    have sessions : b₃.sessions = b.sessions := sessions₃.trans same.sessions
    refine ⟨result, b₃, onboarded, ?_⟩
    cases result with
    | error e =>
      obtain ⟨⟨cause, rfl⟩, tables⟩ := settles.spared
      have failed := run_login_of_account_error verified onboarded
      rw [← reads] at failed
      exact (refused_of_failure asked failed (tables.trans same.tables) sessions).1
    | ok o =>
      have started := run_login verified onboarded
      rw [← reads] at started
      exact afterOnboarding safe asked (steady.trans steady₃) sessions started

/-- A login whose request is acceptable. -/
theorem afterExchange (safe : app.settings.session.HeaderSafe)
    (asked : r.IsTo "POST" "/oauth/token") (acceptable : Acceptable app r request n)
    (serves : b.Serves n) : ∃ result b₁,
      b.answer (.exchange n request.grant) = .ok (result, b₁) ∧
        AfterExchange app request n b b₁ (b.run (serve app r)) result := by
  have reads := exchangeToken_of_acceptable acceptable
  obtain ⟨result, b₁, exchanged, failsAs, serves₁⟩ := exists_exchange serves request.grant
  have same₁ : SameStores b b₁ := sameStores_answer rfl exchanged
  refine ⟨result, b₁, exchanged, ?_⟩
  cases result with
  | error e =>
    obtain ⟨cause, rfl⟩ := failsAs e rfl
    have failed := run_login_of_error (run_verify_of_error acceptable.registered exchanged)
    rw [← reads] at failed
    obtain ⟨refused, calls⟩ := refused_of_failure asked failed same₁.tables same₁.sessions
    rw [calls_of_answer exchanged, List.append_assoc] at calls
    exact ⟨refused, calls⟩
  | ok tokens =>
    obtain ⟨result, b₂, identified, failsAs⟩ := exists_identity serves₁ tokens.accessToken
    have same₂ : SameStores b₁ b₂ := sameStores_answer rfl identified
    exact ⟨result, b₂, identified, afterIdentity safe asked reads failsAs
      (run_verify acceptable.registered exchanged identified) (same₁.trans same₂)
      ((steady_of_answer exchanged).trans (steady_of_answer identified))⟩

end Stages

/-! ## All or nothing -/

/-- A request that is not acceptable is refused before anything else is asked for. -/
theorem refused_of_not_acceptable (asked : r.IsTo "POST" "/oauth/token")
    (unacceptable : ∀ request n, ¬ Acceptable app r request n) (b : Backend) :
    Refused b 400 (b.run (serve app r)) ∧
      (b.run (serve app r)).2.calls = b.calls ++ [.log .warning "request rejected"] := by
  obtain ⟨f, status, failed⟩ : ∃ f : Failure, f.status = 400 ∧
      b.run (exchangeToken app r) = (.ok (.error f), b) := by
    cases read : readTokenRequest r with
    | error f =>
      refine ⟨f, status_of_readTokenRequest read, ?_⟩
      unfold exchangeToken
      rw [read]
      rfl
    | ok request =>
      -- The provider must be unknown, so that no adapter is called.
      cases registered : app.registry.adapter request.provider with
      | ok n => exact absurd (acceptable_iff.2 ⟨read, registered⟩) (unacceptable request n)
      | error e =>
        have unknown : e = .unknown request.provider := by
          unfold Provider.Registry.adapter at registered
          split at registered <;> cases registered
          rfl
        refine ⟨.provider e, by rw [unknown]; rfl, ?_⟩
        unfold exchangeToken
        rw [read]
        refine run_login_of_error ?_
        unfold Provider.Registry.verify
        rw [registered]
        rfl
  have refused := refused_of_failure asked failed rfl rfl
  have line : f.line = .log .warning "request rejected" := by
    unfold Failure.line
    rw [status]
    rfl
  rwa [status, line] at refused

/-- The response has a cookie exactly when its status is 200. -/
def CookieWhenOk (ran : Except Halt Response × Backend) : Prop :=
  ∀ response, ran.1 = .ok response → (response.setCookie.isSome ↔ response.status = 200)

/-- A refused login sets no cookie. -/
theorem Refused.cookieWhenOk {status : Nat} (h : Refused b status ran) (other : status ≠ 200) :
    CookieWhenOk ran := by
  intro response responded
  obtain ⟨response', responded', rfl, none⟩ := h.response
  obtain rfl := Except.ok.inj (responded.symm.trans responded')
  rw [none]
  exact ⟨nofun, fun ok => absurd ok other⟩

/-- Once there is a user, a cookie is set just if the login is answered with 200. -/
theorem AfterOnboarding.cookieWhenOk (h : AfterOnboarding app b b₃ ran) : CookieWhenOk ran := by
  intro response responded
  cases fault : Session.saveFault? b app.settings.session.maxAge with
  | some cause =>
    obtain ⟨⟨response', responded', status, none⟩, -⟩ := h.failed (by rw [fault]; rfl)
    obtain rfl := Except.ok.inj (responded.symm.trans responded')
    rw [none, status]
    decide
  | none =>
    by_cases ends : Session.EndExists b app.settings.session.maxAge
    · obtain ⟨response', responded', status, cookie⟩ := h.saved fault ends
      obtain rfl := Except.ok.inj (responded.symm.trans responded')
      exact ⟨fun _ => status, fun _ => cookie⟩
    · obtain ⟨halted, -⟩ := h.stopped fault ends
      cases responded.symm.trans halted

/-- Once there is an identity, a cookie is set just if the login is answered with 200. -/
theorem AfterIdentity.cookieWhenOk {tokens : TokenSet} {result : Except Provider.Error Identity}
    (h : AfterIdentity app request tokens b b₂ ran result) : CookieWhenOk ran := by
  cases result with
  | error e => exact Refused.cookieWhenOk h (by decide)
  | ok identity =>
    obtain ⟨result, b₃, -, after⟩ := h
    cases result with
    | error e => exact Refused.cookieWhenOk after (by decide)
    | ok o => exact after.cookieWhenOk

/-- Once the code was exchanged, a cookie is set just if the login is answered with 200. -/
theorem AfterExchange.cookieWhenOk {result : Except Provider.Error TokenSet}
    (h : AfterExchange app request n b b₁ ran result) : CookieWhenOk ran := by
  cases result with
  | error e => exact h.1.cookieWhenOk (by decide)
  | ok tokens =>
    obtain ⟨result, b₂, -, after⟩ := h
    exact after.cookieWhenOk

/-- A login that runs alone has a cookie in its response exactly when the status is 200. A request
that is not acceptable is refused, and no provider is asked. For any other one the code is
exchanged, and it goes on as `AfterExchange` says: until the person has a user and a link, every
failure leaves users, links and sessions as they were, and after that the session store decides. -/
theorem login_all_or_nothing (app : App) (safe : app.settings.session.HeaderSafe) (b : Backend)
    (serves : ∀ name n, app.registry.adapter name = .ok n → b.Serves n) (r : Request)
    (asked : r.IsTo "POST" "/oauth/token") :
    let ran := b.run (serve app r)
    CookieWhenOk ran ∧
      ((∀ request n, ¬ Acceptable app r request n) →
        Refused b 400 ran ∧ ran.2.calls = b.calls ++ [.log .warning "request rejected"]) ∧
      ∀ request n, Acceptable app r request n → ∃ result b₁,
        b.answer (.exchange n request.grant) = .ok (result, b₁) ∧
          AfterExchange app request n b b₁ ran result := by
  intro ran
  have accepted (request : TokenRequest) (n : Nat) (acceptable : Acceptable app r request n) :=
    afterExchange safe asked acceptable (serves request.provider n acceptable.registered)
  refine ⟨?_, fun unacceptable => refused_of_not_acceptable asked unacceptable b, accepted⟩
  by_cases acceptable : ∃ request n, Acceptable app r request n
  · obtain ⟨request, n, acceptable⟩ := acceptable
    obtain ⟨result, b₁, -, after⟩ := accepted request n acceptable
    exact after.cookieWhenOk
  · have unacceptable : ∀ request n, ¬ Acceptable app r request n :=
      fun request n h => acceptable ⟨request, n, h⟩
    exact (refused_of_not_acceptable asked unacceptable b).1.cookieWhenOk (by decide)

/-- A service with a provider that does not tell who logged in. -/
def silentProvider : App := { registry := .ofNames ["github"] }

/-- The surroundings of the service, in which the provider exchanges codes. -/
def silence : Backend :=
  { (default : Backend) with
    adapters := [.stub { (default : Provider.Stub) with failsIdentity := true }] }

/-- A login with the provider. -/
def silentLogin : TokenRequest := ⟨"github", "c", String.ofList (List.replicate 43 'v'), "a:b"⟩

/-- The request of the login. -/
def silentRequest : Request :=
  ⟨"POST", "/oauth/token", [("content-type", "application/json")],
    "\x7b\"provider\":\"github\",\"authorizationCode\":\"c\",\"redirectUri\":\"a:b\","
      ++ "\"codeVerifier\":\"" ++ String.ofList (List.replicate 43 'v') ++ "\"\x7d"⟩

/-- The code is exchanged, and then the login is refused. -/
theorem login_all_or_nothing_silent :
    silentProvider.settings.session.HeaderSafe ∧
      (∀ name n, silentProvider.registry.adapter name = .ok n → silence.Serves n) ∧
      silentRequest.IsTo "POST" "/oauth/token" ∧
      Acceptable silentProvider silentRequest silentLogin 0 ∧
      Refused silence 500 (silence.run (serve silentProvider silentRequest)) := by
  have safe : silentProvider.settings.session.HeaderSafe :=
    ⟨by decide, by decide, fun _ h => nomatch h⟩
  have serves : ∀ name n, silentProvider.registry.adapter name = .ok n → silence.Serves n := by
    intro name n h
    unfold Provider.Registry.adapter at h
    split at h <;> cases h
    next found =>
      obtain ⟨before, after, held, -⟩ := List.lookup_eq_some_iff.1 found
      have only : (name, n) ∈ [("github", 0)] := by
        rw [show [("github", 0)] = before ++ (name, n) :: after from held]
        simp
      cases List.mem_singleton.1 only
      exact ⟨_, rfl, nofun⟩
  have asked : silentRequest.IsTo "POST" "/oauth/token" := ⟨rfl, by decide⟩
  have body : TokenRequest.parse silentRequest.body = .ok silentLogin := by
    have read : (TokenRequest.parse silentRequest.body).toOption = some silentLogin := by
      decide +kernel
    cases parsed : TokenRequest.parse silentRequest.body with
    | error fault =>
      rw [parsed] at read
      cases read
    | ok request =>
      rw [parsed] at read
      rw [Option.some.inj read]
  have acceptable : Acceptable silentProvider silentRequest silentLogin 0 :=
    { json := by decide +kernel
      size := by decide +kernel
      body := body
      provider := by decide
      code := by decide
      verifier := by decide +kernel
      redirect := isUrl_iff.1 (by decide +kernel)
      registered := rfl }
  refine ⟨safe, serves, asked, acceptable, ?_⟩
  obtain ⟨-, -, accepted⟩ :=
    login_all_or_nothing silentProvider safe silence serves silentRequest asked
  obtain ⟨result, b₁, exchanged, after⟩ := accepted silentLogin 0 acceptable
  cases result with
  | error e => exact after.1
  | ok tokens =>
    cases exchanged
    obtain ⟨result, b₂, identified, after⟩ := after
    cases identified
    exact after

end Web

end FederatedLogin
