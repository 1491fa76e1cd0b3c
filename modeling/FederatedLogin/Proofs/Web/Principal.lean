import FederatedLogin.Proofs.Web.Login

/-!
# Who is logged in

A request is that of a user who is logged in if its cookie names a session whose stored values have
a user and a provider (`SignedIn`). Then the endpoints find them, and the look into the session
store changes nothing (`gives_authenticated`). A request whose session is not there is answered with
the status 401 (`gives_of_absent`).
-/

namespace FederatedLogin

open Program Backend

namespace Web

variable {app : App} {b : Backend} {r : Request} {id userId : Uuid} {issuer : String}

/-- The session store has values under the identifier which have not ended, with the user and the
provider. -/
def Holds (config : Session.Config) (b : Backend) (id userId : Uuid) (issuer : String) : Prop :=
  ∃ e values, b.sessions.get? (Session.key config id) = some e ∧ e.isLive b.uptime = true ∧
    Session.Values.decode? e.value = some values ∧ values.userId = some userId ∧
    values.issuer = some issuer

/-- The cookie of the request names a session in which the user is logged in with the provider. -/
structure SignedIn (app : App) (b : Backend) (r : Request) (id userId : Uuid) (issuer : String) :
    Prop where
  requested : Session.requestedId? app.settings.session (r.headersNamed "cookie") = some id
  held : Holds app.settings.session b id userId issuer
  lasting : 0 ≤ app.settings.session.maxAge

/-- Users stay logged in where the session store and its clock stay the same. -/
theorem SignedIn.of_same {b' : Backend} (h : SignedIn app b r id userId issuer)
    (sessions : b'.sessions = b.sessions) (uptime : b'.uptime = b.uptime) :
    SignedIn app b' r id userId issuer where
  requested := h.requested
  held := by
    unfold Holds
    rw [sessions, uptime]
    exact h.held
  lasting := h.lasting

/-- The look for the session of an identifier. -/
abbrev lookFor (app : App) (id : Uuid) : Call := .loadSession (Session.key app.settings.session id)

theorem gives_lookFor {value : Option String}
    {post : Except Session.Error (Option String) → Backend → Prop} (loads : b.faults.load = none)
    (look : b.sessions.load b.uptime (Session.key app.settings.session id) = (value, b.sessions))
    (h : post (.ok value) (b.record (lookFor app id))) : b.Gives (call (lookFor app id)) post :=
  gives_of_point? rfl
    (congrArg Except.ok (loadSession_of_load (b := b.record (lookFor app id)) loads look)) h

/-- Endpoints find who is logged in. -/
theorem gives_authenticated (loads : b.faults.load = none)
    (h : SignedIn app b r id userId issuer) :
    b.Gives (authenticated app r) fun result b' =>
      (∃ session : Session, result = .ok (session, userId, issuer) ∧ session.id = id) ∧
        b' = b.record (lookFor app id) := by
  obtain ⟨e, values, held, live, decoded, user, provider⟩ := h.held
  have lasting : ¬ app.settings.session.maxAge < 0 := by
    have lasting := h.lasting
    omega
  have principal : (Session.restored app.settings.session id values).principal?
      = some (userId, issuer) := by
    simp [Session.principal?, Session.restored, Session.isEnded, user, provider, lasting]
  unfold authenticated Session.load
  rw [h.requested]
  refine Gives.bind (Gives.bind (Gives.bind
    (gives_lookFor loads (Session.Store.load_of_entry held live) ?_)))
  dsimp only
  rw [decoded]
  refine gives_pure (gives_pure ?_)
  dsimp only
  rw [principal]
  exact gives_pure ⟨⟨_, rfl, rfl⟩, rfl⟩

/-- The cookie of the request names no session that is there. -/
def Absent (app : App) (b : Backend) (r : Request) : Prop :=
  ∀ id, Session.requestedId? app.settings.session (r.headersNamed "cookie") = some id →
    b.sessions.get? (Session.key app.settings.session id) = none

/-- A request whose session is not there gets a new one. -/
theorem gives_load_of_absent (loads : b.faults.load = none) (absent : Absent app b r) :
    b.Gives (Session.load app.settings.session (r.headersNamed "cookie")) fun result b' =>
      (∃ id, result = .ok (Session.fresh app.settings.session id)) ∧ SameStores b b' := by
  have creates (b₁ : Backend) (same : SameStores b b₁) :
      b₁.Gives (Except.ok <$> Session.create app.settings.session :
        Service (Except Session.Error Session)) fun result b' =>
          (∃ id, result = .ok (Session.fresh app.settings.session id)) ∧ SameStores b b' := by
    refine Gives.map ((Session.gives_create_fresh b₁ _).mono ?_)
    rintro _ b₂ ⟨⟨id, rfl⟩, same', -⟩
    exact ⟨⟨id, rfl⟩, same.trans same'⟩
  unfold Session.load
  cases requested : Session.requestedId? app.settings.session (r.headersNamed "cookie") with
  | none => exact creates b (.refl b)
  | some id =>
    have look : b.sessions.load b.uptime (Session.key app.settings.session id)
        = (none, b.sessions) := Session.Store.load_of_none (absent id requested)
    refine Gives.bind (Gives.bind (gives_lookFor loads look ?_))
    exact gives_pure (creates _ (sameStores_record b _))

/-- Endpoints refuse a request whose session is not there. -/
theorem gives_authenticated_of_absent (loads : b.faults.load = none) (absent : Absent app b r) :
    b.Gives (authenticated app r) fun result b' =>
      result = .error .unauthenticated ∧ SameStores b b' := by
  unfold authenticated
  refine Gives.bind ((gives_load_of_absent loads absent).mono ?_)
  rintro _ b₁ ⟨⟨id, rfl⟩, same⟩
  exact gives_pure ⟨rfl, same⟩

/-! ## Requests -/

theorem serve_userInfo (asked : r.IsTo "GET" "/userinfo") :
    serve app r = userInfo app r >>= respond := by
  have listed : routes.find? (fun route => route.path = pathOf r.path)
      = some ⟨"/userinfo", "GET", userInfo⟩ := by
    rw [asked.2]
    rfl
  exact serve_of_route listed asked.1 (by decide)

theorem serve_logout (asked : r.IsTo "POST" "/logout") :
    serve app r = logout app r >>= respond := by
  have listed : routes.find? (fun route => route.path = pathOf r.path)
      = some ⟨"/logout", "POST", logout⟩ := by
    rw [asked.2]
    rfl
  exact serve_of_route listed asked.1 (by decide)

/-- An endpoint that goes on only for those who are logged in refuses a request whose session is not
there. -/
theorem gives_of_absent (loads : b.faults.load = none) (absent : Absent app b r)
    {f : Except Failure (Session × Uuid × String) → Service (Except Failure Response)}
    (refuses : f (.error .unauthenticated) = pure (.error .unauthenticated)) :
    b.Gives (authenticated app r >>= f >>= respond) fun response b' =>
      response.status = 401 ∧ response.setCookie = none ∧ SameStores b b' := by
  refine Gives.bind (Gives.bind ((gives_authenticated_of_absent loads absent).mono ?_))
  rintro _ b₁ ⟨rfl, same⟩
  rw [refuses]
  refine gives_pure ((gives_report b₁ .unauthenticated).mono ?_)
  rintro _ b₂ ⟨rfl, same', -⟩
  exact ⟨rfl, rfl, same.trans same'⟩

theorem gives_userInfo_of_absent (asked : r.IsTo "GET" "/userinfo") (loads : b.faults.load = none)
    (absent : Absent app b r) : b.Gives (serve app r) fun response b' =>
      response.status = 401 ∧ response.setCookie = none ∧ SameStores b b' := by
  rw [serve_userInfo asked]
  exact gives_of_absent loads absent rfl

theorem gives_logout_of_absent (asked : r.IsTo "POST" "/logout") (loads : b.faults.load = none)
    (absent : Absent app b r) : b.Gives (serve app r) fun response b' =>
      response.status = 401 ∧ response.setCookie = none ∧ SameStores b b' := by
  rw [serve_logout asked]
  exact gives_of_absent loads absent rfl

end Web

end FederatedLogin
