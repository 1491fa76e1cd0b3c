import FederatedLogin.Proofs.Account.Revoking
import FederatedLogin.Proofs.Web.Authenticity
import FederatedLogin.Proofs.Web.Principal

/-!
# Logouts

A logout first removes the tokens of one link and then deletes one session, and each of the two may
fail. If storage fails for the link (`Obstructed`), or the session store fails to delete, the answer
has the status 500 and the session is still there. Otherwise the session is gone and no other is
(`SignedOut`), and the same request is refused when it comes again. What becomes of the tables is
`Account.Revokes` in all cases. All this is `logout_ends_one_session`, for a request that runs
alone.
-/

namespace FederatedLogin

open Program Backend

namespace Web

variable {app : App} {b b' : Backend} {r : Request} {id userId : Uuid} {issuer : String}

/-- Storage keeps the tokens of the link from being removed. To say that there is no link is no
failure here. -/
def Obstructed (b : Backend) (userId : Uuid) (issuer : String) : Prop :=
  ∃ e, Account.revokeFault? b userId issuer = some e ∧ e ≠ .notFound

/-- What a logout that succeeds leaves behind. -/
structure SignedOut (app : App) (b : Backend) (r : Request) (id : Uuid) (response : Response)
    (b' : Backend) : Prop where
  status : response.status = 204
  cookie : ∃ attributes, response.setCookie = some (app.settings.session.cookieName ++ "=; Path="
    ++ app.settings.session.cookiePath ++ "; Max-Age=0" ++ attributes)
  gone : b'.sessions.get? (Session.key app.settings.session id) = none
  others : ∀ key ≠ Session.key app.settings.session id,
    b'.sessions.get? key = b.sessions.get? key
  /-- The same request is refused when it comes again, and changes nothing. -/
  again : b'.Gives (serve app r) fun answer b'' =>
    answer.status = 401 ∧ answer.setCookie = none ∧ SameStores b' b''

/-- What a logout that fails leaves behind. -/
structure StillSignedIn (app : App) (b : Backend) (r : Request) (id userId : Uuid)
    (issuer : String) (response : Response) (b' : Backend) : Prop where
  status : response.status = 500
  cookie : response.setCookie = none
  sessions : b'.sessions = b.sessions
  signedIn : SignedIn app b' r id userId issuer

/-! ## The link -/

/-- Removing the tokens of a link tells whether storage failed: if not, the result is a link or that
there is none. -/
theorem obstructed_or {revoked : Except AccountError Link} {t : Tables}
    (h : Account.Revokes b userId issuer revoked t) :
    (Obstructed b userId issuer ∧ ∃ e, revoked = .error (.storage e)) ∨
      (¬ Obstructed b userId issuer ∧
        (revoked = .error .linkNotFound ∨ ∃ link, revoked = .ok link)) := by
  cases h with
  | @failed e fault =>
    by_cases absent : e = .notFound
    · subst absent
      refine .inr ⟨?_, .inl rfl⟩
      rintro ⟨e', fault', other⟩
      exact other (Option.some.inj (fault'.symm.trans fault))
    · refine .inl ⟨⟨e, fault, absent⟩, e, ?_⟩
      cases e <;> first | rfl | exact absurd rfl absent
  | missing works _ =>
    exact .inr ⟨fun ⟨_, fault, _⟩ => (nomatch works.symm.trans fault), .inl rfl⟩
  | revoked works _ _ _ =>
    exact .inr ⟨fun ⟨_, fault, _⟩ => (nomatch works.symm.trans fault), .inr ⟨_, rfl⟩⟩

/-- Removing the tokens of a link leaves the sessions and their store alone. -/
theorem gives_revokeLink_apart (sound : b.tables.Sound) (userId : Uuid) (issuer : String) :
    b.Gives (Account.revokeLink userId issuer) fun revoked b' =>
      Account.Revokes b userId issuer revoked b'.tables ∧ b'.sessions = b.sessions ∧
        Steady b b' := by
  obtain ⟨revoked, b', run, revokes⟩ := Account.gives_revokeLink sound userId issuer
  have sessions := sessions_run (asks_revokeLink userId issuer) b
  have steady := steady_run b (Account.revokeLink userId issuer)
  rw [run] at sessions steady
  exact ⟨revoked, b', run, revokes, sessions, steady⟩

/-! ## The session -/

/-- The result of a logout and the session store after it, from the surroundings before it. -/
inductive Ends (app : App) (b : Backend) (id userId : Uuid) (issuer : String) :
    Except Failure Response → Session.Store → Prop
  | ended (session : Session) :
      ¬ Obstructed b userId issuer → b.faults.delete = none →
      Ends app b id userId issuer
        (.ok ((Response.empty 204).withCookie
          (Session.cookieText app.settings.session session.finish)))
        (b.sessions.erase (Session.key app.settings.session id))
  | kept {cause : String} :
      ¬ Obstructed b userId issuer → b.faults.delete = some cause →
      Ends app b id userId issuer (.error (.session (.store cause))) b.sessions
  | obstructed {e : StorageError} :
      Obstructed b userId issuer →
      Ends app b id userId issuer (.error (.account (.storage e))) b.sessions

/-- A session ends unless the session store fails to delete it. -/
theorem gives_endSession {b₁ : Backend} (safe : app.settings.session.HeaderSafe)
    (free : ¬ Obstructed b userId issuer) (sessions : b₁.sessions = b.sessions)
    (steady : Steady b b₁) (session : Session) :
    b₁.Gives (endSession app session) fun result b' =>
      Ends app b session.id userId issuer result b'.sessions ∧ b'.tables = b₁.tables := by
  have negative : session.finish.maxAge < 0 := Int.negSucc_lt_zero 0
  unfold endSession
  cases delete : b₁.faults.delete with
  | none =>
    refine Gives.bind ((Session.gives_save_of_ended safe negative delete).mono ?_)
    rintro _ b₂ ⟨rfl, tables, erased⟩
    refine gives_pure ⟨?_, tables⟩
    rw [erased, sessions]
    exact .ended session free (steady.delete.symm.trans delete)
  | some cause =>
    have fault : Session.saveFault? b₁ session.finish.maxAge = some cause :=
      (if_pos negative).trans delete
    refine Gives.bind ((Session.gives_save_of_fault cause fault).mono ?_)
    rintro _ b₂ ⟨rfl, same⟩
    refine gives_pure ⟨?_, same.tables⟩
    rw [same.sessions, sessions]
    exact .kept free (steady.delete.symm.trans delete)

/-! ## The request -/

/-- A logout removes the tokens of the link and ends the session, each as its relation says. -/
theorem gives_logout (safe : app.settings.session.HeaderSafe) (sound : b.tables.Sound)
    (loads : b.faults.load = none) (signedIn : SignedIn app b r id userId issuer) :
    b.Gives (logout app r) fun result b' =>
      (∃ revoked, Account.Revokes b userId issuer revoked b'.tables) ∧
        Ends app b id userId issuer result b'.sessions := by
  unfold logout
  refine Gives.bind ((gives_authenticated loads signedIn).mono ?_)
  rintro _ b₁ ⟨⟨session, rfl, rfl⟩, rfl⟩
  have recorded := steady_record b (lookFor app session.id)
  refine Gives.bind ((gives_revokeLink_apart (b := b.record _) sound userId issuer).mono ?_)
  rintro revoked b₂ ⟨revokes, sessions, steady⟩
  replace revokes := revokes.of_record rfl
  replace steady := recorded.trans steady
  have ends (free : ¬ Obstructed b userId issuer) (b₃ : Backend) (same : SameStores b₂ b₃)
      (steady₃ : Steady b₂ b₃) : b₃.Gives (endSession app session) fun result b' =>
        (∃ revoked, Account.Revokes b userId issuer revoked b'.tables) ∧
          Ends app b session.id userId issuer result b'.sessions := by
    refine (gives_endSession safe free (same.sessions.trans sessions) (steady.trans steady₃)
      session).mono ?_
    rintro result b₄ ⟨ended, tables⟩
    rw [tables, same.tables]
    exact ⟨⟨revoked, revokes⟩, ended⟩
  obtain ⟨obstructed, e, rfl⟩ | ⟨free, rfl | ⟨link, rfl⟩⟩ := obstructed_or revokes
  · refine gives_pure ⟨⟨_, revokes⟩, ?_⟩
    rw [sessions]
    exact .obstructed obstructed
  · exact Gives.bind (gives_onAccounts rfl fun _ b₃ warned =>
      ends free b₃ (sameStores_answer rfl warned) (steady_of_answer warned))
  · exact ends free b₂ (.refl b₂) (.refl b₂)

/-- A session that was deleted is absent for the requests that name it. -/
theorem absent_of_erase (requested : Session.requestedId? app.settings.session
      (r.headersNamed "cookie") = some id)
    (sessions : b'.sessions = b.sessions.erase (Session.key app.settings.session id)) :
    Absent app b' r := by
  intro id' requested'
  cases requested.symm.trans requested'
  rw [sessions, Session.Store.get?_erase, if_pos rfl]

/-- Telling about a failure leaves the user logged in. -/
theorem gives_report_still {b₁ : Backend} {f : Failure} (failed : f.status = 500)
    (signedIn : SignedIn app b r id userId issuer) (steady : Steady b b₁)
    (sessions : b₁.sessions = b.sessions) : b₁.Gives f.report fun response b' =>
      b'.tables = b₁.tables ∧ StillSignedIn app b r id userId issuer response b' := by
  obtain ⟨_, b₂, reported, rfl, same, -⟩ := gives_report b₁ f
  have after := steady_run b₁ f.report
  rw [reported] at after
  refine ⟨_, b₂, reported, same.tables, failed, rfl, same.sessions.trans sessions, ?_⟩
  exact signedIn.of_same (same.sessions.trans sessions) (steady.trans after).uptime

/-- A logout request that runs alone is answered. The link of the user for the provider loses its
tokens, unless storage fails, and no other row changes. If nothing fails, the session is gone, no
other session changes, and the same request is refused when it comes again. If something fails, the
answer has the status 500 and the user is still logged in. -/
theorem logout_ends_one_session (app : App) (safe : app.settings.session.HeaderSafe) (b : Backend)
    (sound : b.tables.Sound) (loads : b.faults.load = none) (r : Request)
    (asked : r.IsTo "POST" "/logout") (id userId : Uuid) (issuer : String)
    (signedIn : SignedIn app b r id userId issuer) :
    ∃ response b' revoked, b.run (serve app r) = (.ok response, b') ∧
      Account.Revokes b userId issuer revoked b'.tables ∧
      (¬ Obstructed b userId issuer → b.faults.delete = none → SignedOut app b r id response b') ∧
      (Obstructed b userId issuer ∨ b.faults.delete.isSome →
        StillSignedIn app b r id userId issuer response b') := by
  obtain ⟨result, b₁, ran, ⟨revoked, revokes⟩, ends⟩ := gives_logout safe sound loads signedIn
  have steady := steady_run b (logout app r)
  have load := (load_run b (logout app r)).trans loads
  rw [ran] at steady load
  rw [serve_logout asked, run_bind ran]
  generalize kept : b₁.sessions = store at ends
  cases ends with
  | ended session free works =>
    refine ⟨_, b₁, revoked, rfl, revokes, fun _ _ => ?_, ?_⟩
    · exact
        { status := rfl
          cookie := (Session.exists_cookieText_of_ended (s := session.finish) rfl).imp
            fun _ => congrArg some
          gone := by rw [kept, Session.Store.get?_erase, if_pos rfl]
          others := fun key other => by rw [kept, Session.Store.get?_erase, if_neg other]
          again := gives_logout_of_absent asked load (absent_of_erase signedIn.requested kept) }
    · rintro (obstructed | fails)
      · exact absurd obstructed free
      · rw [works] at fails
        cases fails
  | @kept cause free fault =>
    obtain ⟨response, b₂, reported, tables, still⟩ :=
      gives_report_still (f := .session (.store cause)) rfl signedIn steady kept
    refine ⟨response, b₂, revoked, reported, tables ▸ revokes, fun _ works => ?_, fun _ => still⟩
    cases works.symm.trans fault
  | @obstructed e obstructed =>
    obtain ⟨response, b₂, reported, tables, still⟩ :=
      gives_report_still (f := .account (.storage e)) rfl signedIn steady kept
    exact ⟨response, b₂, revoked, reported, tables ▸ revokes,
      fun free => absurd obstructed free, fun _ => still⟩

/-- A session that was started by a login with the first provider. -/
def startedSession (n : Nat) : Session :=
  (Session.fresh oneProvider.settings.session (Uuid.ofRandom n)).authenticate
    (default : User).id "github" "t"

/-- What the session store holds of a session. -/
def storedSession (session : Session) : String × Session.Entry :=
  (Session.key oneProvider.settings.session session.id, ⟨session.values.encode, none⟩)

/-- One user who has links for two providers, and two sessions. -/
def twoDevices : Backend :=
  { (default : Backend) with
    tables.users := [default]
    tables.links :=
      [{ (default : Link) with issuer := "github", accessToken := "t" },
       { (default : Link) with issuer := "google", accessToken := "u" }]
    sessions.entries := [storedSession (startedSession 0), storedSession (startedSession 1)] }

/-- The user logs out of the second session. -/
def logoutRequest : Request where
  method := "POST"
  path := "/logout"
  headers := [("cookie", "idlink_session=" ++ (startedSession 1).id.render)]

/-- The user of two sessions logs out of one of them. -/
theorem logout_ends_one_session_twoDevices :
    oneProvider.settings.session.HeaderSafe ∧ twoDevices.tables.Sound ∧
      twoDevices.faults.load = none ∧ logoutRequest.IsTo "POST" "/logout" ∧
      SignedIn oneProvider twoDevices logoutRequest (startedSession 1).id (default : User).id
        "github" ∧
      ∃ response b', twoDevices.run (serve oneProvider logoutRequest) = (.ok response, b') ∧
        SignedOut oneProvider twoDevices logoutRequest (startedSession 1).id response b' ∧
        b'.tables.links.map Link.isRevoked = [true, false] := by
  have safe : oneProvider.settings.session.HeaderSafe :=
    ⟨by decide, by decide, nofun⟩
  have sound : twoDevices.tables.Sound :=
    ⟨by decide, by decide, by decide, by decide, by decide⟩
  have asked : logoutRequest.IsTo "POST" "/logout" := ⟨rfl, by decide⟩
  have held : twoDevices.sessions.get?
      (Session.key oneProvider.settings.session (startedSession 1).id)
        = some ⟨(startedSession 1).values.encode, none⟩ := by
    decide +kernel
  have signedIn : SignedIn oneProvider twoDevices logoutRequest (startedSession 1).id
      (default : User).id "github" :=
    { requested := by decide +kernel
      held := ⟨_, (startedSession 1).values, held, rfl, Session.Values.decode?_encode _, rfl, rfl⟩
      lasting := by decide }
  obtain ⟨response, b', revoked, run, revokes, ends, -⟩ :=
    logout_ends_one_session oneProvider safe twoDevices sound rfl logoutRequest asked
      (startedSession 1).id (default : User).id "github" signedIn
  have works : Account.revokeFault? twoDevices (default : User).id "github" = none := rfl
  have free : ¬ Obstructed twoDevices (default : User).id "github" := by
    rintro ⟨e, fault, -⟩
    cases works.symm.trans fault
  refine ⟨safe, sound, rfl, asked, signedIn, response, b', run, ends free rfl, ?_⟩
  generalize b'.tables = t at revokes
  cases revokes with
  | failed fault => cases works.symm.trans fault
  | missing _ none => exact absurd ⟨_, List.mem_cons_self, rfl, rfl⟩ none
  | @revoked link before after _ rows owner issued =>
    -- The revoked link is the first one, since the second one is of another provider.
    match before, rows with
    | [], rows =>
      cases rows
      rfl
    | [_], rows =>
      cases rows
      exact absurd issued (by decide)
    | _ :: _ :: _, rows => simp [twoDevices] at rows

end Web

end FederatedLogin
