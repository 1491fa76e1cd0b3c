import FederatedLogin.Proofs.Session.Looking
import FederatedLogin.Proofs.Web.Logout

/-!
# Who is admitted

A request that is for users who are logged in only is refused if its cookies name no session, if the
session store fails, and if no session with a user and a provider is stored under the name
(`Admits`). To find that out makes no calls on users and links (`asks_authenticated`), and leaves
all session values that have not ended as they are (`undisturbed_run`). The look at the user of a
session goes on to the tables and a logout to the link, each exactly for those who are admitted. All
this is `admission_exact`, for any content of the session store.
-/

namespace FederatedLogin

open Program

/-! ## Looking -/

namespace Call

/-- The call is on the session store. -/
def onStore : Call → Bool
  | loadSession _ | storeSession _ _ _ | deleteSession _ => true
  | _ => false

/-- The call is one of those, or a look for a user. -/
def looksOn : Call → Bool
  | userById _ => true
  | c => c.looks

theorem looksOn_of_looks (c : Call) (h : c.looks = true) : c.looksOn = true := by
  cases c with
  | userById id => rfl
  | _ => exact h

end Call

namespace Backend

variable {α β : Type} {b b' : Backend} {c : Call} {a : c.Answer}

/-- If the store fails to load, no session is loaded and nothing changes. -/
theorem loadSession_of_fault {cause : String} (fails : b.faults.load = some cause) (key : String) :
    b.loadSession key = (.error (.store cause), b) := by
  simp only [loadSession, fails]

theorem loadSession_of_works (works : b.faults.load = none) (key : String) :
    b.loadSession key = (.ok (b.sessions.load b.uptime key).1,
      { b with sessions := (b.sessions.load b.uptime key).2 }) := by
  simp only [loadSession, works]

/-- The second surroundings have the users and links of the first ones, and the session values that
have not ended. -/
structure Undisturbed (b b' : Backend) : Prop where
  tables : b'.tables = b.tables
  uptime : b'.uptime = b.uptime
  live : ∀ key, (b'.sessions.get? key).filter (·.isLive b.uptime)
    = (b.sessions.get? key).filter (·.isLive b.uptime)

theorem Undisturbed.refl (b : Backend) : Undisturbed b b := ⟨rfl, rfl, fun _ => rfl⟩

theorem Undisturbed.trans {b₁ b₂ b₃ : Backend} (h : Undisturbed b₁ b₂) (h' : Undisturbed b₂ b₃) :
    Undisturbed b₁ b₃ where
  tables := h'.tables.trans h.tables
  uptime := h'.uptime.trans h.uptime
  live key := by rw [← h.live key, ← h.uptime, h'.live key]

/-- A call that only looks disturbs nothing. -/
theorem undisturbed_of_answer (looks : c.looksOn = true) (h : b.answer c = .ok (a, b')) :
    Undisturbed b b' := by
  have uptime := (steady_of_answer h).uptime
  by_cases stores : touchesStores c = false
  · have same := sameStores_answer stores h
    exact ⟨same.tables, uptime, fun key => by rw [same.sessions]⟩
  · cases c with
    | loadSession key =>
      rw [answer_of_point? b rfl] at h
      simp only [perform, loadSession] at h
      split at h <;> cases h
      · exact ⟨rfl, rfl, fun _ => rfl⟩
      · exact ⟨rfl, rfl, fun k => Session.Store.live_load b.sessions b.uptime key k⟩
    | updateLink | begin | insertUser | insertLink | commit | storeSession | deleteSession =>
      cases looks
    | _ => exact absurd rfl stores

/-- Programs that only look disturb nothing. -/
theorem undisturbed_run {p : Service α} (asks : p.Asks Call.looksOn) (b : Backend) :
    Undisturbed b (b.run p).2 := by
  refine run_invariant_of_asks (I := Undisturbed b) ?_ ?_ asks (.refl b)
  · intro b₁ c _ same
    exact same.trans ⟨rfl, (steady_record b₁ c).uptime, fun _ => rfl⟩
  · intro b₁ c a b₂ looks answered same
    exact same.trans (undisturbed_of_answer looks answered)

/-- Writing down a look uses up no failure. -/
theorem faults_record (looks : c.looks = true) (b : Backend) : (b.record c).faults = b.faults := by
  cases c with
  | newSessionId | loadSession | log => rfl
  | _ => cases looks

/-- The failures that are still to come are the same after a look for a session. -/
theorem faults_run {p : Service α} (asks : p.Asks Call.looks) (b : Backend) :
    (b.run p).2.faults = b.faults := by
  refine run_invariant_of_asks (I := fun b' => b'.faults = b.faults) ?_ ?_ asks rfl
  · intro b₁ c looks same
    rw [faults_record looks, same]
  · intro b₁ c a b₂ looks answered same
    rw [faults_of_answer answered, faults_record looks, same]

end Backend

namespace Web

open Backend

variable {app : App} {b b₁ : Backend} {r : Request}

/-! ## Who is admitted -/

/-- The identifier of the session that the cookies of a request name. -/
abbrev named (app : App) (r : Request) : Option Uuid :=
  Session.requestedId? app.settings.session (r.headersNamed "cookie")

/-- Why a request is refused, or who is admitted with it. -/
inductive Admits (app : App) (b : Backend) (r : Request) :
    Except Failure (Session × Uuid × String) → Prop
  | unnamed : named app r = none → Admits app b r (.error .unauthenticated)
  | unavailable {id : Uuid} {cause : String} :
      named app r = some id → b.faults.load = some cause →
      Admits app b r (.error (.session (.store cause)))
  | nobody {id : Uuid} :
      named app r = some id → b.faults.load = none →
      (∀ userId issuer, ¬ Holds app.settings.session b id userId issuer) →
      Admits app b r (.error .unauthenticated)
  | somebody {id userId : Uuid} {issuer : String} (session : Session) :
      named app r = some id → b.faults.load = none →
      Holds app.settings.session b id userId issuer →
      Admits app b r (.ok (session, userId, issuer))

/-- A session has at most one user and one provider. -/
theorem Holds.unique {config : Session.Config} {id userId userId' : Uuid} {issuer issuer' : String}
    (h : Holds config b id userId issuer) (h' : Holds config b id userId' issuer') :
    userId' = userId ∧ issuer' = issuer := by
  obtain ⟨e, values, held, -, decoded, user, provider⟩ := h
  obtain ⟨e', values', held', -, decoded', user', provider'⟩ := h'
  cases held.symm.trans held'
  cases decoded.symm.trans decoded'
  exact ⟨Option.some.inj (user'.symm.trans user), Option.some.inj (provider'.symm.trans provider)⟩

/-- In a session that lasts, just the user and the provider of its values are logged in. -/
theorem principal?_restored_iff {config : Session.Config} (lasting : 0 ≤ config.maxAge)
    {id userId : Uuid} {issuer : String} {values : Session.Values} :
    (Session.restored config id values).principal? = some (userId, issuer) ↔
      values.userId = some userId ∧ values.issuer = some issuer := by
  have live : (Session.restored config id values).isEnded = false :=
    decide_eq_false (by show ¬ config.maxAge < 0; omega)
  obtain ⟨user, provider, token⟩ := values
  unfold Session.principal?
  rw [live]
  unfold Session.restored
  cases user with
  | none => simp
  | some user =>
    cases provider with
    | none => simp
    | some provider => simp

/-- Who is logged in is told by the values that a look into the session store finds. -/
theorem holds_iff {config : Session.Config} (lasting : 0 ≤ config.maxAge) {id userId : Uuid}
    {issuer : String} : Holds config b id userId issuer ↔ ∃ values,
      (b.sessions.load b.uptime (Session.key config id)).1.bind Session.Values.decode?
          = some values ∧
        (Session.restored config id values).principal? = some (userId, issuer) := by
  constructor
  · rintro ⟨e, values, held, live, decoded, both⟩
    have looked := Session.Store.load_eq_some_iff.2 ⟨e, held, live, rfl⟩
    exact ⟨values, Option.bind_eq_some_iff.2 ⟨e.value, looked, decoded⟩,
      (principal?_restored_iff lasting).2 both⟩
  · rintro ⟨values, found, principal⟩
    obtain ⟨blob, looked, decoded⟩ := Option.bind_eq_some_iff.1 found
    obtain ⟨e, held, live, rfl⟩ := Session.Store.load_eq_some_iff.1 looked
    exact ⟨e, values, held, live, decoded, (principal?_restored_iff lasting).1 principal⟩

/-- A look for a session finds the values that are stored for it, if they can be read. -/
theorem gives_get_stored {config : Session.Config} (loads : b.faults.load = none) (id : Uuid) :
    b.Gives (Session.get config id) fun result _ => result = .ok
      (((b.sessions.load b.uptime (Session.key config id)).1.bind Session.Values.decode?).map
        (Session.restored config id)) := by
  unfold Session.get
  have looked : (b.record (.loadSession (Session.key config id))).loadSession
      (Session.key config id) = (.ok (b.sessions.load b.uptime (Session.key config id)).1, _) :=
    loadSession_of_works (b := b.record (.loadSession (Session.key config id))) loads _
  refine Gives.bind (gives_of_point? rfl (congrArg Except.ok looked) ?_)
  cases (b.sessions.load b.uptime (Session.key config id)).1 with
  | none => exact gives_pure rfl
  | some blob =>
    dsimp only
    rw [Option.bind_some]
    cases Session.Values.decode? blob with
    | some values => exact gives_pure rfl
    | none => exact Gives.bind (gives_onAccounts rfl fun _ _ _ => gives_pure rfl)

/-- A new session knows nobody. -/
theorem gives_create_unknown (b : Backend) (config : Session.Config) :
    b.Gives (Except.ok <$> Session.create config : Service (Except Session.Error Session))
      fun result _ => ∃ id, result = .ok (Session.fresh config id) := by
  refine Gives.map ((Session.gives_create_fresh b config).mono ?_)
  rintro _ b₁ ⟨⟨id, rfl⟩, -⟩
  exact ⟨id, rfl⟩

/-- If the store fails to load, so does the look for a session. -/
theorem gives_lookFor_of_fault {cause : String} (id : Uuid) (fails : b.faults.load = some cause)
    {post : Except Session.Error (Option String) → Backend → Prop}
    (h : post (.error (.store cause)) (b.record (lookFor app id))) :
    b.Gives (call (lookFor app id)) post :=
  gives_of_point? rfl
    (congrArg Except.ok (loadSession_of_fault (b := b.record (lookFor app id)) fails _)) h

/-- Who is admitted depends on what the cookies name and on what is stored under it. -/
theorem gives_admits (lasting : 0 ≤ app.settings.session.maxAge) (b : Backend) (r : Request) :
    b.Gives (authenticated app r) fun result _ => Admits app b r result := by
  unfold authenticated Session.load
  cases requested : Session.requestedId? app.settings.session (r.headersNamed "cookie") with
  | none =>
    refine Gives.bind ((gives_create_unknown b _).mono ?_)
    rintro _ b₁ ⟨id, rfl⟩
    exact gives_pure (.unnamed requested)
  | some id =>
    cases loads : b.faults.load with
    | some cause =>
      refine Gives.bind (Gives.bind (Gives.bind (gives_lookFor_of_fault id loads ?_)))
      exact gives_pure (gives_pure (gives_pure (.unavailable requested loads)))
    | none =>
      refine Gives.bind (Gives.bind ((gives_get_stored loads id).mono ?_))
      rintro _ b₁ rfl
      cases found : (b.sessions.load b.uptime (Session.key app.settings.session id)).1.bind
          Session.Values.decode? with
      | none =>
        refine (gives_create_unknown b₁ _).mono ?_
        rintro _ b₂ ⟨id', rfl⟩
        refine gives_pure (.nobody requested loads ?_)
        intro userId issuer holds
        obtain ⟨values, found', -⟩ := (holds_iff lasting).1 holds
        cases found.symm.trans found'
      | some values =>
        refine gives_pure ?_
        dsimp only
        cases principal : (Session.restored app.settings.session id values).principal? with
        | none =>
          refine gives_pure (.nobody requested loads ?_)
          intro userId issuer holds
          obtain ⟨values', found', principal'⟩ := (holds_iff lasting).1 holds
          cases found.symm.trans found'
          cases principal.symm.trans principal'
        | some who =>
          have holds := (holds_iff lasting).2 ⟨values, found, principal⟩
          exact gives_pure (.somebody _ requested loads holds)

/-! ## The calls that this takes -/

section Asks

variable {kind : Call → Bool}

/-- Who finds out who is logged in makes identifiers and warns, and looks into the session store if
the cookies name a session. -/
theorem asks_authenticated (creates : kind .newSessionId = true)
    (warns : ∀ text, kind (.log .warning text) = true)
    (finds : ∀ id, named app r = some id → kind (lookFor app id) = true) :
    (authenticated app r).Asks kind := by
  refine (Session.asks_load creates finds warns).bind fun result => ?_
  split
  · exact asks_done _
  · split <;> exact asks_done _

/-- Telling a failure makes no call but a line in the log. -/
theorem asks_report (logs : ∀ level text, kind (.log level text) = true) (f : Failure) :
    f.report.Asks kind := by
  unfold Failure.report
  split <;> exact (asks_question (logs _ _)).bind fun _ => asks_done _

/-- A look at the user makes a session or looks for one, looks for the user, and writes to the log.
-/
theorem asks_userInfo (creates : kind .newSessionId = true)
    (logs : ∀ level text, kind (.log level text) = true)
    (finds : ∀ id, named app r = some id → kind (lookFor app id) = true)
    (users : ∀ id, kind (.userById id) = true) : (userInfo app r >>= respond).Asks kind := by
  have responds (result : Except Failure Response) : (respond result).Asks kind := by
    cases result with
    | ok response => exact asks_done _
    | error f => exact asks_report logs f
  refine Asks.bind ?_ responds
  refine (asks_authenticated creates (logs _) finds).bind fun result => ?_
  split
  · exact asks_done _
  · refine Asks.bind ((asks_question (users _)).bind fun found => ?_) fun user => ?_
    · split <;> exact asks_done _
    · split <;> exact asks_done _

end Asks

/-- Finding out who is logged in only looks. -/
theorem asks_authenticated_looks (app : App) (r : Request) :
    (authenticated app r).Asks Call.looks :=
  asks_authenticated rfl (fun _ => rfl) fun _ _ => rfl

/-! ## A look at the user of a session -/

/-- The response denies the request, with a status and a code, and sets no cookie. -/
structure Denial (response : Response) (status : Nat) (code : String) : Prop where
  status : response.status = status
  code : response.body.bind (·.member? "error") = some (.string code)
  cookie : response.setCookie = none

/-- The response to a failure denies the request with the status and the code of the failure. -/
theorem denial_response (f : Failure) : Denial f.response f.status f.code := ⟨rfl, rfl, rfl⟩

/-- The response to a look at the user of a session, and the calls that it took. -/
inductive Shows (app : App) (b : Backend) (r : Request) (made : List Call) (response : Response) :
    Prop
  /-- The cookies name no session, and the session store is not asked. -/
  | unnamed :
      named app r = none → (∀ c ∈ made, c.onStore = false) →
      Denial response 401 "unauthenticated" → Shows app b r made response
  | unavailable {id : Uuid} {cause : String} :
      named app r = some id → b.faults.load = some cause →
      Denial response 500 "session_unavailable" → Shows app b r made response
  /-- There is no session of the name with a user and a provider that has not ended. -/
  | nobody {id : Uuid} :
      named app r = some id → b.faults.load = none →
      (∀ userId issuer, ¬ Holds app.settings.session b id userId issuer) →
      Denial response 401 "unauthenticated" → Shows app b r made response
  | removed {id userId : Uuid} {issuer : String} :
      named app r = some id → b.faults.load = none →
      Holds app.settings.session b id userId issuer → b.tables.userById? userId = none →
      Denial response 404 "user_not_found" → Shows app b r made response
  | user {id userId : Uuid} {issuer : String} {user : User} :
      named app r = some id → b.faults.load = none →
      Holds app.settings.session b id userId issuer → b.tables.userById? userId = some user →
      response = .json 200 (.object [("user", user.toValue)]) → Shows app b r made response

/-- A look at the user of a session disturbs nothing. -/
theorem undisturbed_userInfo (app : App) (b : Backend) (r : Request) :
    Undisturbed b (b.run (userInfo app r >>= respond)).2 :=
  undisturbed_run (asks_userInfo rfl (fun _ _ => rfl) (fun _ _ => rfl) fun _ => rfl) b

/-- Whose cookies name no session makes no calls on the session store. -/
theorem not_onStore_of_unnamed (unnamed : named app r = none) (b : Backend) :
    ∀ c ∈ b.made (userInfo app r >>= respond), c.onStore = false := by
  have asks : (userInfo app r >>= respond).Asks fun c => !c.onStore := by
    refine asks_userInfo rfl (fun _ _ => rfl) ?_ fun _ => rfl
    intro id requested
    rw [unnamed] at requested
    cases requested
  intro c hc
  simpa using made_of_asks asks b c hc

/-- An endpoint that goes on only for those who are admitted tells the others why not. -/
theorem run_of_refused {f : Failure}
    {goesOn : Except Failure (Session × Uuid × String) → Service (Except Failure Response)}
    (refuses : goesOn (.error f) = pure (.error f))
    (ran : b.run (authenticated app r) = (.ok (.error f), b₁)) :
    b.run (authenticated app r >>= goesOn >>= respond) = b₁.run f.report := by
  have refused : b.run (authenticated app r >>= goesOn) = (.ok (.error f), b₁) := by
    rw [run_bind ran, refuses]
    rfl
  rw [run_bind refused]
  rfl

/-- The user of an identifier is found, if there is one. -/
theorem gives_userById_of_works (works : b.faults.next .userById = none) (userId : Uuid) :
    b.Gives (Account.userById userId) fun result _ =>
      result = ((b.tables.userById? userId).map Except.ok).getD (.error .userNotFound) := by
  unfold Account.userById
  refine Gives.bind (gives_of_dueFault_none works rfl ?_)
  rw [record_tables]
  cases b.tables.userById? userId with
  | none => exact gives_pure rfl
  | some user => exact gives_pure rfl

/-- Those who are admitted are told the user, or that there is none. -/
theorem gives_userInfo_of_admitted {session : Session} {userId : Uuid} {issuer : String}
    (works : b₁.faults.next .userById = none)
    (ran : b.run (authenticated app r) = (.ok (.ok (session, userId, issuer)), b₁)) :
    b.Gives (userInfo app r >>= respond) fun response _ =>
      (b₁.tables.userById? userId = none ∧ response = (Failure.account .userNotFound).response) ∨
        ∃ user, b₁.tables.userById? userId = some user ∧
          response = .json 200 (.object [("user", user.toValue)]) := by
  refine Gives.bind (Gives.bind ⟨_, b₁, ran, ?_⟩)
  refine Gives.bind ((gives_userById_of_works works userId).mono ?_)
  rintro _ b₂ rfl
  cases found : b₁.tables.userById? userId with
  | none =>
    refine gives_pure ((gives_report b₂ (.account .userNotFound)).mono ?_)
    rintro _ b₃ ⟨rfl, -⟩
    exact .inl ⟨rfl, rfl⟩
  | some user => exact gives_pure (gives_pure (.inr ⟨user, rfl, rfl⟩))

/-- Who is refused has no session, or the session store has failed. -/
theorem Admits.status {f : Failure} (h : Admits app b r (.error f)) :
    f.status = 401 ∨ f.status = 500 := by
  cases h with
  | unnamed | nobody => exact .inl rfl
  | unavailable => exact .inr rfl

/-- What a look at the user of a session comes to, from what the look for the session came to. -/
theorem exists_shows {result : Except Failure (Session × Uuid × String)}
    (works : b.faults.next .userById = none) (admits : Admits app b r result)
    (ran : b.run (authenticated app r) = (.ok result, b₁)) :
    ∃ response b₂, b.run (userInfo app r >>= respond) = (.ok response, b₂) ∧
      Shows app b r (b.made (userInfo app r >>= respond)) response ∧
      ((∃ who, result = .ok who) ↔ response.status = 200 ∨ response.status = 404) ∧
      ∀ f, result = .error f → b₁.run f.report = (.ok response, b₂) := by
  cases result with
  | error f =>
    obtain ⟨_, b₂, reported, rfl, -⟩ := gives_report b₁ f
    have run : b.run (userInfo app r >>= respond) = b₁.run f.report := by
      unfold userInfo
      exact run_of_refused rfl ran
    refine ⟨f.response, b₂, run.trans reported, ?_, ?_, ?_⟩
    · cases admits with
      | unnamed requested =>
        exact .unnamed requested (not_onStore_of_unnamed requested b) (denial_response _)
      | unavailable requested fails => exact .unavailable requested fails (denial_response _)
      | nobody requested loads none => exact .nobody requested loads none (denial_response _)
    · constructor
      · rintro ⟨who, ⟨⟩⟩
      · intro admitted
        have status : f.response.status = f.status := rfl
        have refused := admits.status
        omega
    · rintro _ ⟨⟩
      exact reported
  | ok who =>
    -- The failures to come and the tables are those from before the look for the session.
    have looks := asks_authenticated_looks app r
    have faults := faults_run looks b
    have tables := (undisturbed_run (looks.mono Call.looksOn_of_looks) b).tables
    rw [ran] at faults tables
    cases admits with
    | somebody session requested loads holds =>
      obtain ⟨response, b₂, run, shown⟩ := gives_userInfo_of_admitted (by rw [faults, works]) ran
      rw [tables] at shown
      refine ⟨response, b₂, run, ?_, ?_, nofun⟩
      · rcases shown with ⟨none, rfl⟩ | ⟨user, known, rfl⟩
        · exact .removed requested loads holds none (denial_response _)
        · exact .user requested loads holds known rfl
      · refine iff_of_true ⟨_, rfl⟩ ?_
        rcases shown with ⟨-, rfl⟩ | ⟨user, -, rfl⟩
        · exact .inr rfl
        · exact .inl rfl

/-! ## A logout -/

/-- A logout goes on to a link. -/
def Admitted (app : App) (b : Backend) (r : Request) : Prop :=
  ∃ userId issuer, Call.linkOf userId issuer ∈ b.made (serve app r)

/-- A logout is admitted just if somebody is logged in. -/
theorem admitted_iff {result : Except Failure (Session × Uuid × String)}
    (asked : r.IsTo "POST" "/logout") (ran : b.run (authenticated app r) = (.ok result, b₁)) :
    Admitted app b r ↔ ∃ who, result = .ok who := by
  have looks := made_of_asks (asks_authenticated_looks app r) b
  unfold Admitted
  rw [serve_logout asked]
  unfold logout
  rw [bind_assoc, made_bind ran]
  cases result with
  | error f =>
    refine iff_of_false ?_ (by rintro ⟨who, ⟨⟩⟩)
    rintro ⟨userId, issuer, found⟩
    rcases List.mem_append.1 found with before | after
    · cases looks _ before
    · cases made_of_asks (asks_report (fun _ _ => rfl) f : f.report.Asks Call.looks) b₁ _ after
  | ok who =>
    obtain ⟨session, userId, issuer⟩ := who
    refine iff_of_true ⟨userId, issuer, List.mem_append_right _ ?_⟩ ⟨_, rfl⟩
    -- The clock is read first.
    obtain ⟨now, b₂, answered⟩ := exists_answer b₁ (show onAccounts .now = true from rfl)
    refine (made_ask answered).symm ▸ List.mem_cons_of_mem _ ?_
    exact mem_made_ask b₂ (.linkOf userId issuer) _

/-- Who is admitted does not depend on the path and the method, but on the cookies only. -/
theorem authenticated_of_cookies {r' : Request}
    (cookies : r'.headersNamed "cookie" = r.headersNamed "cookie") :
    authenticated app r' = authenticated app r := by
  unfold authenticated
  rw [cookies]

/-- A look at the user of a session is answered, whatever the session store holds, and disturbs
nothing. If the cookies name no session the answer has the status 401, without a look into the
session store; if the session store fails it has the status 500; if no session with a user and a
provider is stored that has not ended, 401; if there is no such user, 404; and otherwise it is the
user. Of storage only the session store may fail here. A logout with the same cookies goes on to the
link exactly if the status is 200 or 404, and otherwise it has the same response. -/
theorem admission_exact (app : App) (lasting : 0 ≤ app.settings.session.maxAge) (b : Backend)
    (works : b.faults.next .userById = none) (r : Request) (asked : r.IsTo "GET" "/userinfo") :
    ∃ response b', b.run (serve app r) = (.ok response, b') ∧
      Shows app b r (b.made (serve app r)) response ∧ Undisturbed b b' ∧
      ∀ r' : Request, r'.IsTo "POST" "/logout" →
        r'.headersNamed "cookie" = r.headersNamed "cookie" →
        (Admitted app b r' ↔ response.status = 200 ∨ response.status = 404) ∧
          (¬ Admitted app b r' → b.run (serve app r') = (.ok response, b')) := by
  obtain ⟨result, b₁, ran, admits⟩ := gives_admits lasting b r
  obtain ⟨response, b₂, run, shows, status, refused⟩ := exists_shows works admits ran
  have undisturbed := undisturbed_userInfo app b r
  rw [run] at undisturbed
  rw [serve_userInfo asked]
  refine ⟨response, b₂, run, shows, undisturbed, ?_⟩
  intro r' asked' cookies
  rw [← authenticated_of_cookies cookies] at ran
  have admitted := admitted_iff asked' ran
  refine ⟨admitted.trans status, ?_⟩
  intro excluded
  rw [admitted] at excluded
  cases result with
  | ok who => exact absurd ⟨who, rfl⟩ excluded
  | error f =>
    rw [serve_logout asked']
    unfold logout
    exact (run_of_refused rfl ran).trans (refused f rfl)

/-- A look at the user of the second session. -/
def lookRequest : Request := { logoutRequest with method := "GET", path := "/userinfo" }

/-- The user of two sessions looks who is logged in with one of them, and may log out. -/
theorem admission_exact_twoDevices :
    0 ≤ oneProvider.settings.session.maxAge ∧ twoDevices.faults.next .userById = none ∧
      lookRequest.IsTo "GET" "/userinfo" ∧
      ∃ response b', twoDevices.run (serve oneProvider lookRequest) = (.ok response, b') ∧
        response = .json 200 (.object [("user", (default : User).toValue)]) ∧
        Undisturbed twoDevices b' ∧ Admitted oneProvider twoDevices logoutRequest := by
  have lasting : 0 ≤ oneProvider.settings.session.maxAge := by decide
  have asked : lookRequest.IsTo "GET" "/userinfo" := ⟨rfl, by decide⟩
  have requested : named oneProvider lookRequest = some (startedSession 1).id := by decide +kernel
  have entry : twoDevices.sessions.get?
      (Session.key oneProvider.settings.session (startedSession 1).id)
        = some ⟨(startedSession 1).values.encode, none⟩ := by
    decide +kernel
  have holds : Holds oneProvider.settings.session twoDevices (startedSession 1).id
      (default : User).id "github" :=
    ⟨_, (startedSession 1).values, entry, rfl, Session.Values.decode?_encode _, rfl, rfl⟩
  obtain ⟨response, b', run, shows, undisturbed, logout⟩ :=
    admission_exact oneProvider lasting twoDevices rfl lookRequest asked
  have told : response = .json 200 (.object [("user", (default : User).toValue)]) := by
    cases shows with
    | unnamed unnamed => cases unnamed.symm.trans requested
    | unavailable _ fails => cases fails
    | nobody requested' _ none =>
      cases requested.symm.trans requested'
      exact absurd holds (none _ _)
    | removed requested' _ holds' none =>
      cases requested.symm.trans requested'
      obtain ⟨rfl, -⟩ := holds.unique holds'
      cases none
    | user requested' _ holds' known response =>
      cases requested.symm.trans requested'
      obtain ⟨rfl, -⟩ := holds.unique holds'
      cases known
      exact response
  have admitted := (logout logoutRequest ⟨rfl, by decide⟩ rfl).1
  exact ⟨lasting, rfl, asked, response, b', run, told, undisturbed,
    admitted.2 (.inl (congrArg Response.status told))⟩

end Web

end FederatedLogin
