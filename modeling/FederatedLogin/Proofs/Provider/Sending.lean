import FederatedLogin.Proofs.Url.Form
import FederatedLogin.Proofs.Web.TokenRequest
import FederatedLogin.Provider.Adapter

/-!
# What an exchange sends

An exchange of a code asks its surroundings nothing if the redirect URI is no URL, and otherwise
hands one request to the HTTP client (`run_exchange_of_error`, `run_exchange_of_ok`). Whatever the
texts are, the body of that request is a form that says the code, the verifier, the credentials of
the service and the redirect URI as they were given, each once, and the headers tell nothing of them
(`exchange_sends`). Whether the client then puts it on the wire depends on the scheme of the
endpoint.
-/

namespace FederatedLogin.Provider

variable {α : Type}

/-! ## Surroundings -/

/-- Surroundings of an adapter that may do anything: what they answer to a question may depend on
all the questions before it. -/
abbrev Peer := List HttpCall → (q : HttpCall) → q.Answer

namespace Peer

/-- Answers a question and writes it down. -/
def answer (peer : Peer) (q : HttpCall) : StateM (List HttpCall) q.Answer := fun past =>
  (peer past q, past ++ [q])

/-- The result of a program and the questions that it asked. -/
def run (peer : Peer) (p : Traffic α) : α × List HttpCall := (p.run peer.answer).run []

/-- A peer that cannot be reached. -/
def silent : Peer
  | _, .now => Time.Instant.epoch
  | _, .log _ _ => ()
  | _, .send _ => none

end Peer

/-- The requests among some questions. -/
def requests (asked : List HttpCall) : List HttpRequest :=
  asked.filterMap fun q =>
    match q with
    | .send request => some request
    | _ => none

/-- With what a request says who sends it. -/
def HttpRequest.authorizations (r : HttpRequest) : List String :=
  (r.headers.filter fun h => h.1 = "authorization").map Prod.snd

/-! ## Exchanges -/

variable {a : Adapter} {grant : Grant}

/-- Without a URL to come back to, nothing is asked. -/
theorem run_exchange_of_error {fault : Url.Fault} (h : Url.parse grant.redirectUri = .error fault)
    (peer : Peer) : peer.run (a.exchange grant)
      = (.error (.exchangeFailed ("Invalid redirect URI: " ++ fault.message)), []) := by
  unfold Adapter.exchange
  rw [h]
  rfl

/-- Otherwise one request is handed to the client, and then only the log and the clock are used. -/
theorem run_exchange_of_ok {url : Url} (h : Url.parse grant.redirectUri = .ok url) (peer : Peer) :
    requests (peer.run (a.exchange grant)).2
      = [exchangeRequest a.tokenUrl a.clientId a.clientSecret grant] := by
  have sends (f : Option HttpResponse → Traffic (Except Error TokenSet)) (request : HttpRequest) :
      (peer.run (Traffic.send request >>= f)).2
        = (((f (peer [] (.send request))).run peer.answer).run [.send request]).2 := rfl
  unfold Adapter.exchange
  rw [h]
  dsimp only
  rw [sends]
  split
  · rfl
  · rfl

/-! ## User names in URLs -/

theorem userHeader_eq_nil {u : Url} (h : u.username = [] ∧ u.password = []) : userHeader u = [] :=
  if_pos h

theorem nameless_readFile {cs : List Char} {url : Url} (h : Url.readFile cs = .ok url) :
    url.username = [] ∧ url.password = [] := by
  unfold Url.readFile at h
  split at h
  · cases h
    exact ⟨rfl, rfl⟩
  · dsimp only at h
    split at h
    · cases h
      exact ⟨rfl, rfl⟩
    · obtain ⟨name, -, made⟩ := Json.bind_eq_ok_iff.1 h
      cases made
      exact ⟨rfl, rfl⟩

/-- The user name stands before an at sign. -/
theorem nameless_readAuthority {scheme cs : List Char} {endsUrl : Bool} {parts : Url.Authority}
    (noAt : '@' ∉ cs) (h : Url.readAuthority scheme cs endsUrl = .ok parts) :
    parts.username = [] ∧ parts.password = [] := by
  have cut : Url.cutUser cs = (none, cs) := by
    have none : Text.cut? '@' cs.reverse = none := by
      rw [Text.cut?_eq_none_iff, List.mem_reverse]
      exact noAt
    unfold Url.cutUser
    rw [none]
  have user : Url.readUser [] = ([], []) := rfl
  unfold Url.readAuthority at h
  simp only [cut, Option.getD_none, user] at h
  split at h
  · cases h
  · -- The host is read in one of two ways.
    split at h
    all_goals
      obtain ⟨host, -, made⟩ := Json.bind_eq_ok_iff.1 h
      split at made
      · cases made
      · cases made
        exact ⟨rfl, rfl⟩

theorem nameless_readHierarchy {scheme cs : List Char} {endsUrl : Bool} {url : Url}
    (noAt : '@' ∉ cs) (h : Url.readHierarchy scheme cs endsUrl = .ok url) :
    url.username = [] ∧ url.password = [] := by
  unfold Url.readHierarchy at h
  split at h
  · exact nameless_readFile h
  · obtain ⟨parts, read, made⟩ := Json.bind_eq_ok_iff.1 h
    cases made
    refine nameless_readAuthority (fun inside => noAt ?_) read
    exact (List.dropWhile_sublist _).subset ((List.takeWhile_sublist _).subset inside)
  · split at h
    · next rest two =>
      obtain ⟨parts, read, made⟩ := Json.bind_eq_ok_iff.1 h
      cases made
      refine nameless_readAuthority (fun inside => noAt ?_) read
      unfold Url.afterTwoSlashes? at two
      split at two
      · split at two
        · cases two
          have after := (List.takeWhile_sublist _).subset inside
          exact List.mem_cons_of_mem _ (List.mem_cons_of_mem _ after)
        · cases two
      · cases two
    · split at h
      · cases h
        exact ⟨rfl, rfl⟩
      · cases h
        exact ⟨rfl, rfl⟩

theorem mem_of_mem_cleaned {c : Char} {cs : List Char} (h : c ∈ Url.cleaned cs) : c ∈ cs := by
  have trimmed := (List.mem_filter.1 h).1
  rw [List.mem_reverse] at trimmed
  have front := (List.dropWhile_sublist _).subset trimmed
  rw [List.mem_reverse] at front
  exact (List.dropWhile_sublist _).subset front

theorem not_mem_of_readScheme? {c : Char} {cs scheme rest : List Char} (no : c ∉ cs)
    (h : Url.readScheme? cs = some (scheme, rest)) : c ∉ rest := by
  intro inside
  unfold Url.readScheme? at h
  obtain ⟨⟨front, back⟩, cut, read⟩ := Option.bind_eq_some_iff.1 h
  obtain ⟨whole, -⟩ := Text.cut?_eq_some_iff.1 cut
  dsimp only at read
  split at read
  · split at read
    · cases read
      refine no ?_
      rw [whole]
      exact List.mem_append_right _ (List.mem_cons_of_mem _ inside)
    · cases read
  · cases read

/-- A query or a fragment is cut off behind. -/
theorem not_mem_of_cut {c sep : Char} {cs front : List Char} {back : Option (List Char)}
    (no : c ∉ cs) (h : (match Text.cut? sep cs with
      | none => (cs, none)
      | some (front, back) => (front, some back)) = (front, back)) : c ∉ front := by
  split at h
  · cases h
    exact no
  · next cut =>
    cases h
    obtain ⟨whole, -⟩ := Text.cut?_eq_some_iff.1 cut
    intro inside
    refine no ?_
    rw [whole]
    exact List.mem_append_left _ inside

/-- A URL without an at sign names no user. -/
theorem nameless_of_parse {s : String} {url : Url} (noAt : '@' ∉ s.toList)
    (h : Url.parse s = .ok url) : url.username = [] ∧ url.password = [] := by
  unfold Url.parse Url.read at h
  split at h
  · cases h
  · next scheme cs read =>
    have behind := not_mem_of_readScheme? (fun inside => noAt (mem_of_mem_cleaned inside)) read
    split at h
    next cs₁ fragment cut₁ =>
      split at h
      next cs₂ query cut₂ =>
        obtain ⟨url', read', made⟩ := Json.bind_eq_ok_iff.1 h
        cases made
        show url'.username = [] ∧ url'.password = []
        exact nameless_readHierarchy (not_mem_of_cut (not_mem_of_cut behind cut₁) cut₂) read'

/-! ## What is said -/

/-- The URL alone makes a request say who sends it. -/
theorem authorizations_exchangeRequest (endpoint : Url) (clientId clientSecret : String)
    (grant : Grant) : (exchangeRequest endpoint clientId clientSecret grant).authorizations
      = (userHeader endpoint).map Prod.snd := by
  unfold HttpRequest.authorizations exchangeRequest userHeader
  split <;> simp

/-- An adapter exchanges codes at the endpoint that was configured, with the credentials that
were. -/
theorem eq_of_ofCredentials {kind : Kind} {c : Credentials} {lifetimes : Lifetimes}
    (h : Adapter.ofCredentials kind c lifetimes = .ok a) :
    Url.parse (c.tokenUrl.getD kind.tokenUrl) = .ok a.tokenUrl ∧
      a.clientId = c.clientId ∧ a.clientSecret = c.clientSecret := by
  unfold Adapter.ofCredentials at h
  split at h
  · cases h
  · next read =>
    cases h
    exact ⟨read, rfl, rfl⟩

/-- Whatever the credentials of a service and the texts of a grant are, an exchange of it sends
nothing if the redirect URI is no URL, and fails as an exchange. Otherwise it hands one request for
the endpoint to the client. As a form its body says six things, each once and as it was given; the
redirect URI is not normalized. The headers tell nothing of the credentials: only a URL of the
endpoint that itself has an at sign makes them say who sends the request. -/
theorem exchange_sends {kind : Kind} {c : Credentials} {lifetimes : Lifetimes}
    (configured : Adapter.ofCredentials kind c lifetimes = .ok a) (grant : Grant) (peer : Peer) :
    (∀ fault, Url.parse grant.redirectUri = .error fault →
      peer.run (a.exchange grant)
        = (.error (.exchangeFailed ("Invalid redirect URI: " ++ fault.message)), [])) ∧
    (∀ url, Url.parse grant.redirectUri = .ok url → ∃ request,
      requests (peer.run (a.exchange grant)).2 = [request] ∧
      request.method = "POST" ∧ request.url = withoutUser a.tokenUrl ∧
      ("content-type", "application/x-www-form-urlencoded") ∈ request.headers ∧
      Url.readForm? request.body.toList = some
        [("grant_type", "authorization_code"), ("code", grant.code),
         ("code_verifier", grant.verifier), ("client_id", c.clientId),
         ("client_secret", c.clientSecret), ("redirect_uri", grant.redirectUri)] ∧
      request.authorizations = (userHeader a.tokenUrl).map Prod.snd ∧
      ((∀ s ∈ c.tokenUrl, '@' ∉ s.toList) → request.authorizations = [])) := by
  obtain ⟨endpoint, id, secret⟩ := eq_of_ofCredentials configured
  refine ⟨fun fault h => run_exchange_of_error h peer, fun url h => ?_⟩
  refine ⟨_, run_exchange_of_ok h peer, rfl, rfl, List.mem_append_right _ (by simp), ?_,
    authorizations_exchangeRequest _ _ _ _, fun noAt => ?_⟩
  · unfold exchangeRequest
    rw [String.toList_ofList, Url.readForm?_formBody, id, secret]
    rfl
  · have noAt' : '@' ∉ (c.tokenUrl.getD kind.tokenUrl).toList := by
      cases configured : c.tokenUrl with
      | none => cases kind <;> decide
      | some s => exact noAt s configured
    rw [authorizations_exchangeRequest, userHeader_eq_nil (nameless_of_parse noAt' endpoint)]
    rfl

/-- Credentials and a grant whose texts look like pieces of a form. -/
def lookalike : Credentials × Grant :=
  (⟨"id&client_id=other", "s+e %63ret=", some "http://[::1]/token", none⟩,
    ⟨"c&code=ключ", "", "HTTPS://[::1]:443/a/../cb?x=ü&code=1"⟩)

/-- The marks of forms in the texts neither hide a thing that is said nor add one, and the redirect
URI stays as it is although it could be written otherwise. -/
theorem exchange_sends_lookalike : ∃ a url request,
    Adapter.ofCredentials .google lookalike.1 ⟨3600, 2592000⟩ = .ok a ∧
    Url.parse lookalike.2.redirectUri = .ok url ∧ url.render = "https://[::1]/cb?x=%C3%BC&code=1" ∧
    requests (Peer.silent.run (a.exchange lookalike.2)).2 = [request] ∧
    Url.readForm? request.body.toList = some
      [("grant_type", "authorization_code"), ("code", "c&code=ключ"), ("code_verifier", ""),
       ("client_id", "id&client_id=other"), ("client_secret", "s+e %63ret="),
       ("redirect_uri", "HTTPS://[::1]:443/a/../cb?x=ü&code=1")] ∧
    request.authorizations = [] ∧
    Peer.silent.run (a.exchange { lookalike.2 with redirectUri := "//[::1]/cb" })
      = (.error (.exchangeFailed "Invalid redirect URI: relative URL without a base"), []) := by
  obtain ⟨a, configured⟩ : ∃ a,
      Adapter.ofCredentials .google lookalike.1 ⟨3600, 2592000⟩ = .ok a := by
    obtain ⟨endpoint, parsed⟩ : ∃ url, Url.parse "http://[::1]/token" = .ok url :=
      Web.isUrl_iff.1 (by decide +kernel)
    unfold Adapter.ofCredentials lookalike
    simp only [Option.getD_some, parsed]
    exact ⟨_, rfl⟩
  obtain ⟨url, parsed⟩ : ∃ url, Url.parse lookalike.2.redirectUri = .ok url :=
    Web.isUrl_iff.1 (by decide +kernel)
  have normalized : (Url.parse lookalike.2.redirectUri).toOption.map Url.render
      = some "https://[::1]/cb?x=%C3%BC&code=1" := by decide +kernel
  rw [parsed] at normalized
  obtain ⟨request, sent, -, -, -, body, -, unsigned⟩ :=
    (exchange_sends configured lookalike.2 Peer.silent).2 url parsed
  have relative : Url.parse "//[::1]/cb" = .error .relative := by rfl
  have refused := (exchange_sends configured { lookalike.2 with redirectUri := "//[::1]/cb" }
    Peer.silent).1 .relative relative
  refine ⟨a, url, request, configured, parsed, Option.some.inj normalized, sent, body,
    unsigned ?_, refused⟩
  rintro _ ⟨⟩
  decide

end FederatedLogin.Provider
