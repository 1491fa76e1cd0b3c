import FederatedLogin.Proofs.Backend.Answer
import FederatedLogin.Proofs.Program.Protocol
import FederatedLogin.Proofs.Session.Text
import FederatedLogin.Web.Router

/-!
# What requests do with sessions

A request is watched through the calls on sessions that it makes (`sessionCalls`). It makes no more
calls once it has stored or deleted a session value (`watched`), and its response tells what those
calls were (`Accounted`): only a login stores a value, under a key of its own, and is answered with
the user of the value; who is logged in is told from a value that was found; and a logout deletes a
value that was found. Every request keeps to this (`keeps_serve`), if cookies can be sent.
-/

namespace FederatedLogin

open Program

/-! ## Calls on sessions -/

/-- The call changed a session value. -/
def Answered.writes : Answered → Bool
  | ⟨.storeSession _ _ _, .ok _⟩ => true
  | ⟨.deleteSession _, .ok _⟩ => true
  | _ => false

namespace Web

/-- The calls on sessions among all calls. -/
def sessionCalls (past : List Answered) : List Answered :=
  past.filter fun x => x.call.onSessions

/-- No session value was changed. -/
def Unwritten (s : List Answered) : Prop := ∀ x ∈ s, x.writes = false

/-- Calls that change no session value may be added. -/
theorem unwritten_append {s : List Answered} {x : Answered} (h : Unwritten s)
    (hx : x.writes = false) : Unwritten (s ++ [x]) := by
  intro y hy
  rcases List.mem_append.1 hy with hy | hy
  · exact h y hy
  · rwa [List.mem_singleton.1 hy]

/-- The protocol of programs that make no calls after they have changed a session value. Users are
found under the identifiers that were asked for. -/
def watched : Protocol Call Call.Answer (List Answered) where
  permits s _ := Unwritten s
  answers s c a s' := s' = s ++ sessionCalls [⟨c, a⟩] ∧
    ∀ id u, (⟨c, a⟩ : Answered) = ⟨.userById id, (.ok u : Except StorageError User)⟩ → u.id = id

variable {α β : Type} {s : List Answered}

/-- The rule for a call. -/
theorem keeps_call {c : Call} {post : c.Answer → List Answered → Prop} (unwritten : Unwritten s)
    (h : ∀ a, post a (s ++ sessionCalls [⟨c, a⟩])) : (call c).Keeps watched post s := by
  rintro _ rfl
  refine ⟨unwritten, ?_⟩
  rintro a _ ⟨rfl, -⟩ _ rfl
  exact h a

/-! ## Programs without sessions -/

/-- The program makes no calls on sessions. -/
abbrev AsksElsewhere (p : Service α) : Prop := p.Asks fun c => !c.onSessions

/-- A program that makes no calls on sessions leaves the calls on sessions as they are. -/
theorem AsksElsewhere.keeps {p : Service α} (h : AsksElsewhere p) (unwritten : Unwritten s) :
    p.Keeps watched (fun _ t => t = s) s := by
  refine Asks.keeps h (fun t d => d.symm) fun c hc => ⟨unwritten, ?_⟩
  rintro a _ ⟨rfl, -⟩
  have elsewhere : c.onSessions = false := by simpa using hc
  unfold sessionCalls
  rw [List.filter_cons_of_neg (by simp [elsewhere]), List.filter_nil, List.append_nil]

/-- A call that is none on sessions is made elsewhere. -/
theorem asks_call {c : Call} (h : c.onSessions = false) : AsksElsewhere (call c) :=
  asks_question (by simp [h])

/-- A transaction makes no calls on sessions if its work makes none. -/
theorem asks_inTransaction {work : Service (Except StorageError α)} (h : AsksElsewhere work) :
    AsksElsewhere (Account.inTransaction work) := by
  refine (asks_call rfl).bind fun began => ?_
  split
  · exact asks_done _
  · refine h.bind fun worked => ?_
    split
    · exact asks_done _
    · refine (asks_call rfl).bind fun committed => ?_
      split <;> exact asks_done _

/-- One attempt at a login makes no calls on sessions. -/
theorem asks_resolve (issuer : String) (tokens : TokenSet) (identity : Identity) :
    AsksElsewhere (Account.resolve issuer tokens identity) := by
  refine (asks_call rfl).bind fun now => (asks_call rfl).bind fun user => ?_
  split
  · refine (asks_call rfl).bind fun id => ((asks_inTransaction ?_).map _)
    refine (asks_call rfl).bind fun inserted => ?_
    split
    · exact asks_done _
    · exact asks_call rfl
  · exact asks_done _
  · refine (asks_call rfl).bind fun link => ?_
    split
    · exact (asks_inTransaction (asks_call rfl)).map _
    · exact asks_done _
    · unfold Account.refreshLink
      split
      · exact (asks_call rfl).bind fun _ => (asks_call rfl).map _
      · exact (asks_call rfl).map _

/-- Finding or creating the user of a login makes no calls on sessions. -/
theorem asks_onboard (issuer : String) (tokens : TokenSet) (identity : Identity) :
    AsksElsewhere (Account.onboard issuer tokens identity) := by
  refine (asks_resolve issuer tokens identity).bind fun result => ?_
  split
  · exact (asks_call rfl).bind fun _ => asks_resolve issuer tokens identity
  · exact asks_done _

/-- Removing the tokens of a link makes no calls on sessions. -/
theorem asks_revokeLink (userId : Uuid) (issuer : String) :
    AsksElsewhere (Account.revokeLink userId issuer) := by
  refine (asks_call rfl).bind fun now => (asks_call rfl).bind fun stored => ?_
  split
  · exact asks_done _
  · refine (asks_call rfl).bind fun _ => (asks_call rfl).bind fun updated => ?_
    split <;> exact asks_done _

/-- Asking a provider who logs in makes no calls on sessions. -/
theorem asks_verify (registry : Provider.Registry) (name : String) (grant : Provider.Grant) :
    AsksElsewhere (registry.verify name grant) := by
  unfold Provider.Registry.verify
  split
  · exact asks_done _
  · refine (asks_call rfl).bind fun tokens => ?_
    split
    · exact asks_done _
    · refine (asks_call rfl).bind fun identity => ?_
      split <;> exact asks_done _

/-- A user is looked up under an identifier. -/
theorem keeps_userById (id : Uuid) (unwritten : Unwritten s) :
    (Account.userById id).Keeps watched (fun r t => t = s ∧ ∀ u, r = .ok u → u.id = id) s := by
  refine keeps_ask_bind ?_
  rintro _ rfl
  refine ⟨unwritten, ?_⟩
  rintro (e | u) _ ⟨rfl, honest⟩
  · rintro _ rfl
    exact ⟨List.append_nil s, fun _ h => nomatch h⟩
  · rintro _ rfl
    refine ⟨List.append_nil s, ?_⟩
    rintro _ ⟨⟩
    exact honest id u rfl

/-! ## Loading and saving -/

section Sessions

variable {config : Session.Config} {headers : List String}

/-- A session is created with an identifier that was made for it, and nothing is stored. -/
theorem keeps_create (unwritten : Unwritten s) :
    (Session.create config).Keeps watched
      (fun session t => session = Session.fresh config session.id ∧
        t = s ++ [Answered.made session.id]) s := by
  refine Keeps.bind (keeps_call unwritten fun id => ?_)
  rintro _ rfl
  exact ⟨rfl, rfl⟩

/-- The session belongs to the identifier that a client presents, and its values were found. -/
structure Presented (config : Session.Config) (headers : List String) (session : Session)
    (s : List Answered) : Prop where
  requested : Session.requestedId? config headers = some session.id
  found : ∃ blob, Answered.found (Session.key config session.id) blob ∈ s ∧
    Session.Values.decode? blob = some session.values

/-- A session that is found has the values that were found under its key. -/
theorem keeps_get (id : Uuid) (unwritten : Unwritten s) :
    (Session.get config id).Keeps watched
      (fun r t => Unwritten t ∧ ∀ session, r = .ok (some session) → session.id = id ∧
        ∃ blob, Answered.found (Session.key config id) blob ∈ t ∧
          Session.Values.decode? blob = some session.values) s := by
  refine Keeps.bind (keeps_call unwritten fun r => ?_)
  have still : Unwritten (s ++ sessionCalls [⟨.loadSession (Session.key config id), r⟩]) :=
    unwritten_append unwritten rfl
  rcases r with e | _ | blob
  · rintro _ rfl
    exact ⟨still, fun _ h => nomatch h⟩
  · rintro _ rfl
    exact ⟨still, fun _ h => nomatch h⟩
  · dsimp only
    cases hv : Session.Values.decode? blob with
    | none =>
      refine Keeps.bind (((asks_call rfl).keeps still).mono fun _ t ht => ?_)
      rintro _ rfl
      exact ⟨ht ▸ still, fun _ h => nomatch h⟩
    | some values =>
      rintro _ rfl
      refine ⟨still, ?_⟩
      rintro _ ⟨⟩
      exact ⟨rfl, blob, List.mem_append_right _ (List.mem_singleton.2 rfl), hv⟩

/-- A session that is loaded has no user, or it was presented. -/
theorem keeps_load (unwritten : Unwritten s) :
    (Session.load config headers).Keeps watched
      (fun r t => Unwritten t ∧ ∀ session, r = .ok session → session.values = {} ∨
        Presented config headers session t) s := by
  -- Without a stored session there is a fresh one, which has no values.
  have create {u : List Answered} (unwritten : Unwritten u) :
      (Except.ok <$> Session.create config : Service (Except Session.Error Session)).Keeps watched
        (fun r t => Unwritten t ∧ ∀ session, r = .ok session → session.values = {} ∨
          Presented config headers session t) u := by
    refine Keeps.map ((keeps_create unwritten).mono fun session t h => ?_)
    obtain ⟨fresh, rfl⟩ := h
    refine ⟨unwritten_append unwritten rfl, ?_⟩
    rintro _ ⟨⟩
    rw [fresh]
    exact .inl rfl
  unfold Session.load
  cases hid : Session.requestedId? config headers with
  | none => exact create unwritten
  | some id =>
    refine Keeps.bind ((keeps_get id unwritten).mono fun r t h => ?_)
    obtain ⟨still, known⟩ := h
    rcases r with e | _ | session
    · rintro _ rfl
      exact ⟨still, fun _ h => nomatch h⟩
    · exact create still
    · rintro _ rfl
      refine ⟨still, ?_⟩
      rintro _ ⟨⟩
      obtain ⟨rfl, found⟩ := known session rfl
      exact .inr ⟨hid, found⟩

/-- The call that saves a session. -/
def saved (config : Session.Config) (session : Session) : Answered :=
  if session.isEnded then Answered.deleted (Session.key config session.id)
  else Answered.stored (Session.key config session.id) session.values.encode
    (Session.lifetime? session)

/-- Writing a session changes one value, that of its key, and fails only with the store. -/
theorem keeps_write (session : Session) (unwritten : Unwritten s) :
    (Session.write config session).Keeps watched
      (fun r t => match r with
        | .error _ => Unwritten t
        | .ok _ => t = s ++ [saved config session]) s := by
  unfold Session.write saved
  cases session.isEnded with
  | true =>
    refine keeps_call unwritten ?_
    rintro (e | ⟨⟩)
    · exact unwritten_append unwritten rfl
    · rfl
  | false =>
    refine keeps_call unwritten ?_
    rintro (e | ⟨⟩)
    · exact unwritten_append unwritten rfl
    · rfl

/-- A session that cannot be saved leaves nothing behind, where cookies can be sent. -/
theorem keeps_save (safe : config.HeaderSafe) (session : Session) (unwritten : Unwritten s) :
    (Session.save config session).Keeps watched
      (fun r t => match r with
        | .error _ => Unwritten t
        | .ok cookie => cookie = Session.cookieText config session ∧
          t = s ++ [saved config session]) s := by
  refine Keeps.bind ((keeps_write session unwritten).mono fun r t h => ?_)
  cases r with
  | error e =>
    rintro _ rfl
    exact h
  | ok _ =>
    rintro _ rfl
    rw [Session.cookie_of_headerSafe safe]
    exact ⟨rfl, h⟩

end Sessions

/-! ## Responses -/

/-- The request is one to an endpoint. -/
def Request.IsTo (r : Request) (method path : String) : Prop :=
  r.method = method ∧ pathOf r.path = path

/-- The response gives a session to a user who logged in. -/
structure Grants (config : Session.Config) (response : Response) (id userId : Uuid) : Prop where
  status : response.status = 200
  cookie : ∃ attributes, response.setCookie
    = some (config.cookieName ++ "=" ++ id.render ++ "; Path=" ++ attributes)
  body : ∃ user link, response.body = some (loginValue user link) ∧ user.id = userId

/-- What the response to a request tells about the calls on sessions that were made for it. -/
structure Accounted (app : App) (r : Request) (response : Response) (s : List Answered) :
    Prop where
  login : ∀ key value lifetime, Answered.stored key value lifetime ∈ s →
    r.IsTo "POST" "/oauth/token" ∧ ∃ id values userId, Answered.made id ∈ s ∧
      key = Session.key app.settings.session id ∧ value = Session.Values.encode values ∧
      values.userId = some userId ∧ Grants app.settings.session response id userId
  userInfo : r.IsTo "GET" "/userinfo" → response.status = 200 → ∃ session user,
    Presented app.settings.session (r.headersNamed "cookie") session s ∧
      session.values.userId = some user.id ∧
      response.body = some (.object [("user", User.toValue user)])
  logout : r.IsTo "POST" "/logout" → response.status = 204 → ∃ session,
    Presented app.settings.session (r.headersNamed "cookie") session s ∧
      Answered.deleted (Session.key app.settings.session session.id) ∈ s

/-- What an endpoint leaves behind: a response, or a failure and no changed value. -/
def Settled (app : App) (r : Request) : Except Failure Response → List Answered → Prop
  | .ok response, s => Accounted app r response s
  | .error _, s => Unwritten s

variable {app : App} {r : Request}

/-- Where no session value was changed, none was stored. -/
theorem Unwritten.not_stored (h : Unwritten s) {key value : String} {lifetime : Option Nat} :
    Answered.stored key value lifetime ∉ s := by
  intro stored
  have written : (Answered.stored key value lifetime).writes = true := rfl
  rw [h _ stored] at written
  cases written

/-- A response that refuses a request tells nothing. -/
theorem accounted_of_refused {response : Response} (unwritten : Unwritten s)
    (refused : 400 ≤ response.status) : Accounted app r response s where
  login _ _ _ h := absurd h unwritten.not_stored
  userInfo _ h := absurd refused (by omega)
  logout _ h := absurd refused (by omega)

/-- A request that reads leaves out the body. -/
theorem Accounted.withoutBody {response : Response} (h : Accounted app r response s)
    (head : r.method = "HEAD") : Accounted app r { response with body := none } s where
  login key value lifetime stored :=
    absurd (head.symm.trans (h.login key value lifetime stored).1.1) (by decide)
  userInfo asked := absurd (head.symm.trans asked.1) (by decide)
  logout asked := absurd (head.symm.trans asked.1) (by decide)

/-- Every failure is told with a status that says so. -/
theorem le_status (f : Failure) : 400 ≤ f.status := by
  unfold Failure.status
  split <;> decide

/-- The response to a failure gives no session away. -/
theorem keeps_report (f : Failure) (unwritten : Unwritten s) :
    f.report.Keeps watched (Accounted app r) s := by
  have log {c : Call} (hc : c.onSessions = false) :
      (call c >>= fun _ => pure f.response : Service Response).Keeps watched
        (Accounted app r) s := by
    refine Keeps.bind (((asks_call hc).keeps unwritten).mono fun _ t ht => ?_)
    rintro _ rfl
    exact accounted_of_refused (ht ▸ unwritten) (le_status f)
  unfold Failure.report
  split
  · exact log rfl
  · exact log rfl

/-- What an endpoint leaves behind is accounted for in the response. -/
theorem keeps_answerWith {endpoint : Endpoint}
    (h : (endpoint app r).Keeps watched (Settled app r) []) :
    (answerWith endpoint app r).Keeps watched (Accounted app r) [] := by
  refine Keeps.bind (h.mono fun result t settled => ?_)
  cases result with
  | error f => exact keeps_report f settled
  | ok response =>
    rintro _ rfl
    exact settled

/-! ## Endpoints -/

theorem unwritten_nil : Unwritten [] := fun _ h => nomatch h

/-- A session that was stored when it was saved is not over, and its key and values were. -/
theorem eq_of_stored_eq_saved {config : Session.Config} {session : Session} {key value : String}
    {lifetime : Option Nat} (h : Answered.stored key value lifetime = saved config session) :
    session.isEnded = false ∧ key = Session.key config session.id ∧
      value = session.values.encode := by
  unfold saved at h
  cases he : session.isEnded with
  | true =>
    rw [he, if_pos rfl] at h
    cases h
  | false =>
    rw [he, if_neg (by decide)] at h
    injection h with h
    injection h with hk hv
    exact ⟨rfl, hk, hv⟩

/-- A session that is started is stored and handed out, or nothing is stored for good. -/
theorem keeps_startSession (safe : app.settings.session.HeaderSafe)
    (asked : r.IsTo "POST" "/oauth/token") (request : TokenRequest) (tokens : TokenSet)
    (o : Onboarded) : (startSession app request tokens o).Keeps watched (Settled app r) [] := by
  refine Keeps.bind ((keeps_create unwritten_nil).mono fun session t h => ?_)
  obtain ⟨-, rfl⟩ := h
  have still : Unwritten ([] ++ [Answered.made session.id]) := unwritten_append unwritten_nil rfl
  refine Keeps.bind ((keeps_save safe _ still).mono fun result t h => ?_)
  cases result with
  | error e =>
    rintro _ rfl
    exact h
  | ok cookie =>
    obtain ⟨rfl, rfl⟩ := h
    rintro _ rfl
    refine ⟨fun key value lifetime stored => ⟨asked, ?_⟩, ?_, ?_⟩
    · -- Nothing is stored but the values of the new session, unless it has ended already.
      rcases List.mem_append.1 stored with old | new
      · exact absurd old still.not_stored
      · obtain ⟨live, rfl, rfl⟩ := eq_of_stored_eq_saved (List.mem_singleton.1 new)
        refine ⟨session.id, _, o.user.id, ?_, rfl, rfl, rfl, rfl, ?_, o.user, o.link, rfl, rfl⟩
        · exact List.mem_append_left _ (List.mem_singleton.2 rfl)
        · obtain ⟨attributes, text⟩ := Session.exists_cookieText live
          exact ⟨attributes, congrArg some text⟩
    · intro other
      exact absurd (asked.1.symm.trans other.1) (by decide)
    · intro other
      exact absurd (asked.2.symm.trans other.2) (by decide)

/-- A login hands out a session only after it stored one for the user whom it logged in. -/
theorem keeps_exchangeToken (safe : app.settings.session.HeaderSafe)
    (asked : r.IsTo "POST" "/oauth/token") :
    (exchangeToken app r).Keeps watched (Settled app r) [] := by
  unfold exchangeToken
  split
  · rintro _ rfl
    exact unwritten_nil
  · next request _ =>
    refine Keeps.bind (((asks_verify _ _ _).keeps unwritten_nil).mono fun verified t ht => ?_)
    subst ht
    rcases verified with e | ⟨tokens, identity⟩
    · rintro _ rfl
      exact unwritten_nil
    · refine Keeps.bind (((asks_onboard _ _ _).keeps unwritten_nil).mono fun onboarded t ht => ?_)
      subst ht
      cases onboarded with
      | error e =>
        rintro _ rfl
        exact unwritten_nil
      | ok o => exact keeps_startSession safe asked request tokens o

/-- Who is logged in with a session stands in its values. -/
theorem userId_of_principal? {session : Session} {userId : Uuid} {issuer : String}
    (h : session.principal? = some (userId, issuer)) : session.values.userId = some userId := by
  unfold Session.principal? at h
  split at h
  · split at h <;> cases h
    assumption
  · cases h

/-- Only who presents a stored session is authenticated. -/
theorem keeps_authenticated : (authenticated app r).Keeps watched
    (fun result t => Unwritten t ∧ ∀ session userId issuer, result = .ok (session, userId, issuer) →
      Presented app.settings.session (r.headersNamed "cookie") session t ∧
        session.values.userId = some userId) [] := by
  refine Keeps.bind ((keeps_load unwritten_nil).mono fun loaded t h => ?_)
  obtain ⟨still, known⟩ := h
  cases loaded with
  | error e =>
    rintro _ rfl
    exact ⟨still, fun _ _ _ h => nomatch h⟩
  | ok session =>
    dsimp only
    cases hp : session.principal? with
    | none =>
      rintro _ rfl
      exact ⟨still, fun _ _ _ h => nomatch h⟩
    | some principal =>
      rintro _ rfl
      refine ⟨still, ?_⟩
      rintro _ userId issuer ⟨⟩
      have user := userId_of_principal? hp
      -- A session without values has no user.
      rcases known session rfl with none | presented
      · rw [none] at user
        cases user
      · exact ⟨presented, user⟩

/-- A look at the user stores nothing and tells of the user of the session that was presented. -/
theorem keeps_userInfo (path : pathOf r.path = "/userinfo") :
    (userInfo app r).Keeps watched (Settled app r) [] := by
  refine Keeps.bind (keeps_authenticated.mono fun result t h => ?_)
  obtain ⟨still, known⟩ := h
  rcases result with f | ⟨session, userId, issuer⟩
  · rintro _ rfl
    exact still
  · obtain ⟨presented, same⟩ := known session userId issuer rfl
    refine Keeps.bind ((keeps_userById userId still).mono fun found u h => ?_)
    obtain ⟨rfl, honest⟩ := h
    cases found with
    | error e =>
      rintro _ rfl
      exact still
    | ok user =>
      rintro _ rfl
      refine ⟨fun _ _ _ h => absurd h still.not_stored, fun _ _ => ?_, fun asked => ?_⟩
      · rw [← honest user rfl] at same
        exact ⟨session, user, presented, same, rfl⟩
      · exact absurd (path.symm.trans asked.2) (by decide)

/-- A session that ends is deleted. -/
theorem keeps_endSession (safe : app.settings.session.HeaderSafe) (path : pathOf r.path = "/logout")
    {session : Session} (unwritten : Unwritten s)
    (presented : Presented app.settings.session (r.headersNamed "cookie") session s) :
    (endSession app session).Keeps watched (Settled app r) s := by
  refine Keeps.bind ((keeps_save safe session.finish unwritten).mono fun result t h => ?_)
  cases result with
  | error e =>
    rintro _ rfl
    exact h
  | ok cookie =>
    obtain ⟨-, rfl⟩ := h
    -- A session that ends has a negative lifetime, and keeps its identifier.
    have deletes : saved app.settings.session session.finish
        = Answered.deleted (Session.key app.settings.session session.id) := rfl
    rw [deletes]
    rintro _ rfl
    refine ⟨fun key value lifetime stored => ?_, fun asked => ?_, fun _ _ => ?_⟩
    · rcases List.mem_append.1 stored with old | new
      · exact absurd old unwritten.not_stored
      · cases List.mem_singleton.1 new
    · exact absurd (path.symm.trans asked.2) (by decide)
    · obtain ⟨blob, found, decoded⟩ := presented.found
      exact ⟨session, ⟨presented.requested, blob, List.mem_append_left _ found, decoded⟩,
        List.mem_append_right _ (List.mem_singleton.2 rfl)⟩

/-- A logout ends the session that was presented. -/
theorem keeps_logout (safe : app.settings.session.HeaderSafe) (path : pathOf r.path = "/logout") :
    (logout app r).Keeps watched (Settled app r) [] := by
  refine Keeps.bind (keeps_authenticated.mono fun result t h => ?_)
  obtain ⟨still, known⟩ := h
  rcases result with f | ⟨session, userId, issuer⟩
  · rintro _ rfl
    exact still
  · obtain ⟨presented, -⟩ := known session userId issuer rfl
    refine Keeps.bind (((asks_revokeLink _ _).keeps still).mono fun revoked u hu => ?_)
    subst hu
    rcases revoked with e | link
    · cases e with
      | linkNotFound =>
        refine Keeps.bind (((asks_call rfl).keeps still).mono fun _ u hu => ?_)
        subst hu
        exact keeps_endSession safe path still presented
      | userNotFound =>
        rintro _ rfl
        exact still
      | storage e =>
        rintro _ rfl
        exact still
    · exact keeps_endSession safe path still presented

/-- A look at the health of the service has nothing to do with sessions. -/
theorem keeps_health (path : pathOf r.path = "/healthcheck") :
    (health app r).Keeps watched (Settled app r) [] := by
  refine Keeps.bind (((asks_call rfl).keeps unwritten_nil).mono fun host t ht => ?_)
  subst ht
  rintro _ rfl
  show Accounted app r _ []
  refine ⟨fun _ _ _ h => absurd h unwritten_nil.not_stored, fun asked => ?_, fun asked => ?_⟩
  · exact absurd (path.symm.trans asked.2) (by decide)
  · exact absurd (path.symm.trans asked.2) (by decide)

/-- Every request keeps to the protocol, and its response accounts for its calls on sessions. -/
theorem keeps_serve (safe : app.settings.session.HeaderSafe) (r : Request) :
    (serve app r).Keeps watched (Accounted app r) [] := by
  unfold serve
  split
  · rintro _ rfl
    exact accounted_of_refused unwritten_nil (by decide)
  · next route hr =>
    have path : route.path = pathOf r.path := by simpa using List.find?_some hr
    have known : route ∈ routes := List.mem_of_find?_eq_some hr
    split
    · next allowed =>
      have settled : (route.endpoint app r).Keeps watched (Settled app r) [] := by
        simp only [routes, List.mem_cons, List.not_mem_nil, or_false] at known
        rcases known with rfl | rfl | rfl | rfl
        · exact keeps_exchangeToken safe ⟨List.mem_singleton.1 allowed, path.symm⟩
        · exact keeps_userInfo path.symm
        · exact keeps_logout safe path.symm
        · exact keeps_health path.symm
      refine Keeps.bind ((keeps_answerWith settled).mono fun response t accounted => ?_)
      rintro _ rfl
      split
      · next head => exact accounted.withoutBody head
      · exact accounted
    · rintro _ rfl
      have refused : 400 ≤ (Response.empty 405).status := by decide
      exact accounted_of_refused unwritten_nil refused

end Web

end FederatedLogin
