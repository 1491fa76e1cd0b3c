import FederatedLogin.Proofs.Web.Authenticity
import FederatedLogin.Proofs.Web.Principal

/-!
# Logins that can be used

A login that is answered with the status 200 leaves a user in the tables and a session in the store,
and its cookie names the session (`exists_of_run_login`). So who sends the cookie back is told that
user, whatever other cookies come along. With a negative lifetime it is otherwise: sessions are over
as soon as they begin, the cookie is empty, and who sends it back is refused. All this is
`login_usable`.
-/

namespace FederatedLogin

open Program Backend

namespace Account

/-- The user of a login is in the tables after it. -/
theorem Settles.user_mem {t t' : Tables} {issuer : String} {tokens : TokenSet}
    {identity : Identity} {o : Onboarded} (h : Settles t issuer tokens identity (.ok o) t') :
    o.user ∈ t'.users := by
  cases h with
  | refreshed now known held stored =>
    rw [(Tables.bindings_of_updateLink stored).1]
    exact (Tables.userByEmail?_eq_some known).1
  | linked now known added =>
    obtain ⟨-, -, -, rfl⟩ := Tables.addLink_eq_ok_iff.1 added
    exact (Tables.userByEmail?_eq_some known).1
  | created id now added =>
    rw [(Tables.rows_of_apply added).1]
    exact List.mem_append_right _ (List.mem_singleton.2 rfl)

end Account

namespace Backend

variable {b b' : Backend} {c : Call} {a : c.Answer}

/-- The tables satisfy their constraints, and no call that reads is going to fail. -/
structure Orderly (b : Backend) : Prop where
  sound : b.tables.Sound
  quiet : b.Quiet
  loads : b.faults.load = none

theorem Orderly.record (h : b.Orderly) (c : Call) : (b.record c).Orderly where
  sound := h.sound
  quiet := h.quiet.record c
  loads := (load_record b c).trans h.loads

theorem Orderly.of_answer (ha : b.answer c = .ok (a, b')) (h : b.Orderly) : b'.Orderly where
  sound := sound_of_answer ha h.sound
  quiet := by
    unfold Quiet
    rw [faults_of_answer ha]
    exact h.quiet.record c
  loads := by
    rw [faults_of_answer ha]
    exact (h.record c).loads

theorem Orderly.of_run {α : Type} {p : Service α} {r : Except Halt α} (h : b.Orderly)
    (run : b.run p = (r, b')) : b'.Orderly := by
  have kept := run_invariant (fun _ c h => Orderly.record h c) Orderly.of_answer p h
  rwa [run] at kept

end Backend

namespace Web

variable {app : App} {b b' : Backend} {r : Request} {request : TokenRequest} {tokens : TokenSet}
  {o : Onboarded} {response : Response}

/-! ## What a login leaves -/

/-- What a login that was answered with the status 200 leaves behind. -/
structure Usable (app : App) (response : Response) (user : User) (session : Session)
    (b' : Backend) : Prop where
  member : user ∈ b'.tables.users
  body : ∃ link, response.body = some (loginValue user link)
  lifetime : session.maxAge = app.settings.session.maxAge
  cookie : response.setCookie = some (Session.cookieText app.settings.session session)
  held : ¬ session.maxAge < 0 → ∃ issuer, Holds app.settings.session b' session.id user.id issuer

theorem exists_of_run_startSession (safe : app.settings.session.HeaderSafe)
    (member : o.user ∈ b.tables.users)
    (h : b.run (startSession app request tokens o) = (.ok (.ok response), b')) :
    ∃ session, Usable app response o.user session b' := by
  obtain ⟨_, b₁, created, ⟨id, rfl⟩, same, -⟩ :=
    Session.gives_create_fresh b app.settings.session
  unfold startSession at h
  rw [run_bind created] at h
  obtain ⟨saved, b₂, ran, rest⟩ := exists_of_run_bind h
  cases saved with
  | error e => cases rest
  | ok text =>
    cases rest
    obtain ⟨wrote, cookie⟩ := Session.of_run_save ran
    rw [Session.cookie_of_headerSafe safe] at cookie
    obtain rfl := Except.ok.inj cookie
    refine ⟨_, ?_, ⟨o.link, rfl⟩, rfl, rfl, fun live => ?_⟩
    · rw [Session.tables_of_run_write wrote, same.tables]
      exact member
    · obtain ⟨e, held, isLive, value⟩ := Session.entry_of_run_write live wrote
      refine ⟨request.provider, e, ⟨o.user.id, request.provider, tokens.accessToken⟩, held, isLive,
        ?_, rfl, rfl⟩
      rw [value, Session.Values.decode?_encode]
      rfl

/-- A login that is answered with the status 200 leaves a user and a session. -/
theorem exists_of_run_login (safe : app.settings.session.HeaderSafe)
    (asked : r.IsTo "POST" "/oauth/token") (h : b.run (serve app r) = (.ok response, b'))
    (ok : response.status = 200) : ∃ user session, Usable app response user session b' := by
  rw [serve_login asked] at h
  obtain ⟨result, b₁, ran, responded⟩ := exists_of_run_bind h
  cases result with
  | error f =>
    obtain ⟨_, b₂, reported, rfl, -⟩ := gives_report b₁ f
    cases reported.symm.trans responded
    exact absurd (le_status f) (by rw [show f.status = 200 from ok]; decide)
  | ok answered =>
    cases responded
    unfold exchangeToken at ran
    split at ran
    · cases ran
    · next request _ =>
      obtain ⟨verified, b₂, -, goes⟩ := exists_of_run_bind ran
      cases verified with
      | error e => cases goes
      | ok proven =>
        obtain ⟨tokens, identity⟩ := proven
        obtain ⟨onboarded, b₃, opened, started⟩ := exists_of_run_bind goes
        cases onboarded with
        | error e => cases started
        | ok o =>
          obtain ⟨_, _, settled, settles⟩ :=
            Account.gives_onboard_settles b₂ request.provider tokens identity
          cases settled.symm.trans opened
          exact ⟨o.user, exists_of_run_startSession safe settles.user_mem started⟩

/-! ## What it is good for -/

variable {user : User} {session : Session} {look : Request}

/-- The value of the cookie of a session that has not ended is read as the identifier. -/
theorem requestedId?_of_cookieValue {config : Session.Config} (readable : config.Readable)
    (live : ¬ session.maxAge < 0) {headers : List String}
    (first : Session.FirstCookie config.cookieName.toList session.cookieValue.toList headers) :
    Session.requestedId? config headers = some session.id := by
  have value : session.cookieValue = session.id.render :=
    Session.cookieValue_of_live (decide_eq_false live)
  have spelled := Uuid.parse?_render session.id
  rw [Session.requestedId?_of_firstCookie readable first, value,
    Session.trim_of_spelling (Uuid.read?_eq_some_iff.1 spelled)]
  exact spelled

/-- The cookie of a session that has ended names no session. -/
theorem requestedId?_of_ended {config : Session.Config} (readable : config.Readable)
    (ended : session.maxAge < 0) {headers : List String}
    (first : Session.FirstCookie config.cookieName.toList session.cookieValue.toList headers) :
    Session.requestedId? config headers = none := by
  have value : session.cookieValue = "" := Session.cookieValue_of_ended (decide_eq_true ended)
  rw [Session.requestedId?_of_firstCookie readable first, value]
  decide

/-- Who is logged in is told the user. -/
theorem gives_userInfo {issuer : String} (orderly : b.Orderly) (member : user ∈ b.tables.users)
    (asked : look.IsTo "GET" "/userinfo")
    (signedIn : SignedIn app b look session.id user.id issuer) :
    b.Gives (serve app look) fun answer _ =>
      answer.status = 200 ∧ answer.body = some (.object [("user", user.toValue)]) := by
  rw [serve_userInfo asked]
  unfold userInfo
  refine Gives.bind (Gives.bind ((gives_authenticated orderly.loads signedIn).mono ?_))
  rintro _ b₁ ⟨⟨found, rfl, -⟩, rfl⟩
  have known : b.tables.userById? user.id = some user := orderly.sound.userById?_of_mem member
  refine Gives.bind (Gives.bind (gives_userById (orderly.quiet.record _) fun b₁ _ => ?_))
  rw [record_tables, known]
  exact gives_pure (gives_pure (gives_pure ⟨rfl, rfl⟩))

/-- If a login is answered with the status 200, its cookie can be sent back in any request, among
other cookies, to be told the user of the login. Where the lifetime of sessions is negative, the
cookie is empty, and who sends it back is refused. -/
theorem login_usable (app : App) (readable : app.settings.session.Readable)
    (separate : ';' ∉ app.settings.session.cookieName.toList) (b : Backend) (orderly : b.Orderly)
    (r : Request) (asked : r.IsTo "POST" "/oauth/token") (response : Response) (b' : Backend)
    (run : b.run (serve app r) = (.ok response, b')) (ok : response.status = 200) :
    ∃ user link setCookie value,
      response.body = some (loginValue user link) ∧ response.setCookie = some setCookie ∧
      (Session.cookies setCookie).head?
        = some (app.settings.session.cookieName ++ "=" ++ value).toList ∧
      (app.settings.session.maxAge < 0 → value = "") ∧
      ∀ look : Request, look.IsTo "GET" "/userinfo" →
        Session.FirstCookie app.settings.session.cookieName.toList value.toList
          (look.headersNamed "cookie") →
        b'.Gives (serve app look) fun answer _ =>
          if app.settings.session.maxAge < 0 then answer.status = 401
          else answer.status = 200 ∧
            answer.body = some (.object [("user", user.toValue)]) := by
  obtain ⟨user, session, usable⟩ := exists_of_run_login readable.headerSafe asked run ok
  have orderly' := orderly.of_run run
  obtain ⟨link, body⟩ := usable.body
  refine ⟨user, link, _, session.cookieValue, body, usable.cookie,
    Session.head?_cookies_cookieText separate session, ?_, ?_⟩
  · intro ended
    rw [← usable.lifetime] at ended
    exact Session.cookieValue_of_ended (decide_eq_true ended)
  · intro look asked' first
    rw [← usable.lifetime]
    by_cases ended : session.maxAge < 0
    · have absent : Absent app b' look := by
        intro id requested
        cases (requestedId?_of_ended readable ended first).symm.trans requested
      refine (gives_userInfo_of_absent asked' orderly'.loads absent).mono ?_
      rintro answer b₂ ⟨status, -⟩
      rwa [if_pos ended]
    · obtain ⟨issuer, held⟩ := usable.held ended
      have signedIn : SignedIn app b' look session.id user.id issuer :=
        { requested := requestedId?_of_cookieValue readable ended first
          held := held
          lasting := by rw [← usable.lifetime]; omega }
      simp only [if_neg ended]
      exact gives_userInfo orderly' usable.member asked' signedIn

theorem orderly_onePerson : onePerson.Orderly where
  sound := Tables.sound_empty
  quiet := fun _ h => nomatch h
  loads := rfl

/-- A login that is answered with the status 200, whose cookie can be sent back. -/
theorem login_usable_onePerson :
    oneProvider.settings.session.Readable ∧ ';' ∉ oneProvider.settings.session.cookieName.toList ∧
      onePerson.Orderly ∧ silentRequest.IsTo "POST" "/oauth/token" ∧
      ∃ response b', onePerson.run (serve oneProvider silentRequest) = (.ok response, b') ∧
        response.status = 200 ∧ ∃ user value, ∀ look : Request, look.IsTo "GET" "/userinfo" →
          Session.FirstCookie "idlink_session".toList value (look.headersNamed "cookie") →
          b'.Gives (serve oneProvider look) fun answer _ => answer.status = 200 ∧
            answer.body = some (.object [("user", User.toValue user)]) := by
  have readable : oneProvider.settings.session.Readable :=
    ⟨by decide, by decide, by decide, by decide, nofun⟩
  have separate : ';' ∉ oneProvider.settings.session.cookieName.toList := by decide
  have asked : silentRequest.IsTo "POST" "/oauth/token" := ⟨rfl, by decide⟩
  have succeeds : (onePerson.run (serve oneProvider silentRequest)).1.toOption.any
      (fun response => response.status = 200) = true := by decide +kernel
  obtain ⟨response, told, ok⟩ := Option.any_eq_true _ _ |>.1 succeeds
  rw [decide_eq_true_eq] at ok
  obtain ⟨b', run⟩ :
      ∃ b', onePerson.run (serve oneProvider silentRequest) = (.ok response, b') := by
    cases ran : onePerson.run (serve oneProvider silentRequest) with
    | mk result b' =>
      rw [ran] at told
      cases result with
      | error halt => cases told
      | ok answered =>
        cases told
        exact ⟨b', rfl⟩
  obtain ⟨user, link, setCookie, value, -, -, -, -, usable⟩ := login_usable oneProvider readable
    separate onePerson orderly_onePerson silentRequest asked response b' run ok
  exact ⟨readable, separate, orderly_onePerson, asked, response, b', run, ok, user, value.toList,
    usable⟩

/-- The service with sessions of a negative lifetime. -/
def endedSessions : App := { oneProvider with settings.session.maxAge := -1 }

/-- The request that sends the empty cookie back. -/
def emptyCookie : Request := ⟨"GET", "/userinfo", [("cookie", "idlink_session=")], ""⟩

/-- With sessions of a negative lifetime a login is answered with the status 200 and an empty
cookie, and who sends the cookie back is refused. -/
theorem login_not_usable_ended :
    (onePerson.run (serve endedSessions silentRequest)).1.toOption.any (fun response =>
        response.status = 200 && response.setCookie.any fun setCookie =>
          (Session.cookies setCookie).head? = some "idlink_session=".toList) = true ∧
      ((onePerson.run (serve endedSessions silentRequest)).2.run
        (serve endedSessions emptyCookie)).1.toOption.any (fun answer => answer.status = 401)
          = true := by
  decide +kernel

end Web

end FederatedLogin
