import FederatedLogin.Account.Link
import FederatedLogin.Proofs.Account.Tokens
import FederatedLogin.Proofs.Json.Written
import FederatedLogin.Proofs.Web.TokenRequest
import FederatedLogin.Provider.Adapter

/-!
# Refresh tokens that do not come again

A provider may leave the refresh token out of a response, or send an empty one, which is the same
(`Bears` says which responses have one). The tokens of such a response have none, and what it says
about the lifetime of a refresh token does not count. So the link that is refreshed with them keeps
the refresh token that it has, together with its expiry; the access token and its expiry are always
those of the response. All this is `refresh_token_survives`, for the exchange of any adapter.
-/

namespace FederatedLogin

open Time Json

namespace Provider

variable {members : List (String × Value)} {response : TokenResponse} {now : Instant}
  {lifetimes : Lifetimes} {http : Option HttpResponse}

/-! ## Responses -/

/-- The body of a response begins with an object of these members. -/
def Sends (http : Option HttpResponse) (members : List (String × Value)) : Prop :=
  ∃ r body, http = some r ∧ r.body = some body ∧
    readPrefix? (readValue .keep maxDepth) body = some (.object members)

/-- The members have a refresh token that is not empty. -/
def Bears (members : List (String × Value)) (token : String) : Prop :=
  onlyMember? "refresh_token" members = some (.string token) ∧ token ≠ ""

/-- What the members of an object say about the response that it stands for. -/
structure StandsFor (members : List (String × Value)) (response : TokenResponse) : Prop where
  accessToken : onlyMember? "access_token" members = some (.string response.accessToken)
  expiresIn : (onlyMember? "expires_in" members).bind word64? = some response.expiresIn
  refreshToken : onlyMember? "refresh_token" members = some (.ofOption response.refreshToken)
  refreshExpiresIn : (onlyMember? "refresh_token_expires_in" members).bind word64?
    = some response.refreshExpiresIn

theorem standsFor_of_ofValue? (h : TokenResponse.ofValue? (.object members) = some response) :
    StandsFor members response := by
  simp only [TokenResponse.ofValue?, Option.bind_eq_bind, Option.bind_eq_some_iff,
    Option.some.injEq] at h
  obtain ⟨_, access, accessToken, read, _, _, _, _, _, expires, _, expiresIn, _, refresh, _,
    refreshToken, _, _, _, _, _, refreshExpires, _, refreshExpiresIn, rfl⟩ := h
  constructor
  · rw [access, Value.string?_eq_some_iff.1 read]
  · rw [expires]
    exact expiresIn
  · rw [refresh, Value.optionalString?_eq_some_iff.1 refreshToken]
  · rw [refreshExpires]
    exact refreshExpiresIn

/-- A response that is read has a body of members, and these stand for it. -/
theorem exists_sends (reads : readTokenResponse http = .ok response) :
    ∃ members, Sends http members ∧ StandsFor members response := by
  unfold readTokenResponse at reads
  split at reads
  · cases reads
  · split at reads
    · cases reads
    · next r body sent =>
      split at reads
      · cases reads
      · split at reads
        · cases reads
        · split at reads
          · cases reads
          · split at reads
            · next response' found =>
              cases reads
              obtain ⟨v, object, read⟩ := Option.bind_eq_some_iff.1 found
              cases v with
              | object members =>
                exact ⟨members, ⟨_, body, rfl, sent, object⟩, standsFor_of_ofValue? read⟩
              | _ => cases read
            · cases reads

theorem Sends.unique {members' : List (String × Value)} (h : Sends http members)
    (h' : Sends http members') : members' = members := by
  obtain ⟨r, body, rfl, sent, object⟩ := h
  obtain ⟨_, _, ⟨⟩, sent', object'⟩ := h'
  cases sent.symm.trans sent'
  cases object.symm.trans object'
  rfl

/-- A response bears the refresh token that its members say, unless it is empty. -/
theorem StandsFor.bears_iff (h : StandsFor members response) {token : String} :
    Bears members token ↔ response.refreshToken.filter (· ≠ "") = some token := by
  unfold Bears
  rw [h.refreshToken]
  cases response.refreshToken with
  | none =>
    constructor
    · rintro ⟨⟨⟩, -⟩
    · rintro ⟨⟩
  | some s =>
    rw [Option.filter_eq_some_iff, decide_eq_true_eq]
    simp only [Value.ofOption, Option.some.injEq, Value.string.injEq]

theorem StandsFor.refreshToken_eq_none (h : StandsFor members response)
    (bare : ∀ token, ¬ Bears members token) : response.refreshToken.filter (· ≠ "") = none := by
  rw [Option.eq_none_iff_forall_ne_some]
  intro token same
  exact bare token (h.bears_iff.2 same)

/-- Two responses without a refresh token that say the same about the access token have the same
tokens. -/
theorem tokens_eq {members' : List (String × Value)} {response' : TokenResponse}
    (h : StandsFor members response) (h' : StandsFor members' response')
    (access : onlyMember? "access_token" members' = onlyMember? "access_token" members)
    (expires : onlyMember? "expires_in" members' = onlyMember? "expires_in" members)
    (bare : ∀ token, ¬ Bears members token) (bare' : ∀ token, ¬ Bears members' token) :
    response'.tokens now lifetimes = response.tokens now lifetimes := by
  have token : response'.accessToken = response.accessToken := by
    have same := h'.accessToken
    rw [access, h.accessToken] at same
    injection same with same
    injection same with same
    exact same.symm
  have lifetime : response'.expiresIn = response.expiresIn := by
    have same := h'.expiresIn
    rw [expires, h.expiresIn] at same
    exact (Option.some.inj same).symm
  unfold TokenResponse.tokens
  rw [h.refreshToken_eq_none bare, h'.refreshToken_eq_none bare', token, lifetime]
  rfl

/-! ## Exchanges -/

/-- The request with which an adapter exchanges a code. -/
abbrev Adapter.request (a : Adapter) (grant : Grant) : HttpRequest :=
  exchangeRequest a.tokenUrl a.clientId a.clientSecret grant

theorem run_send_bind {α : Type} (answer : (q : HttpCall) → q.Answer) (request : HttpRequest)
    (f : Option HttpResponse → Traffic α) :
    (Traffic.send request >>= f).run (m := Id) answer
      = (f (answer (.send request))).run (m := Id) answer :=
  rfl

/-- An exchange gives the tokens of the response, issued at the time that the clock shows. -/
theorem run_exchange {a : Adapter} {grant : Grant} {answer : (q : HttpCall) → q.Answer}
    (redirects : ∃ url, Url.parse grant.redirectUri = .ok url)
    (reads : readTokenResponse (answer (.send (a.request grant))) = .ok response) :
    (a.exchange grant).run (m := Id) answer
      = .ok (response.tokens (answer .now) a.lifetimes) := by
  obtain ⟨url, redirects⟩ := redirects
  unfold Adapter.exchange
  rw [redirects]
  refine (run_send_bind answer (a.request grant) _).trans ?_
  rw [reads]
  rfl

/-- A number of seconds in a response as a lifetime, if it is not too long. -/
def lifetime? (n : Option Nat) : Option Int :=
  (n.filter (· ≤ (twoPow 63 - 1) / 1000)).map fun n : Nat => seconds n

theorem expires_accessExpires (response : TokenResponse) (now : Instant) (lifetimes : Lifetimes) :
    Expires now (lifetime? response.expiresIn) (seconds lifetimes.access)
      (response.tokens now lifetimes).accessExpires := by
  unfold lifetime?
  rw [← filter_map_eq seconds_le_longestSpan_iff]
  exact expires_iff.2 rfl

theorem expires_refreshExpires {token : String}
    (bears : (response.tokens now lifetimes).refreshToken = some token) :
    Expires now (lifetime? response.refreshExpiresIn) (seconds lifetimes.refresh)
      (response.tokens now lifetimes).refreshExpires := by
  have there : (response.refreshToken.filter (· ≠ "")).isSome := by
    have same : response.refreshToken.filter (· ≠ "") = some token := bears
    rw [same]
    rfl
  unfold lifetime?
  rw [← filter_map_eq seconds_le_longestSpan_iff]
  exact expires_iff.2 (if_pos there)

/-- The tokens of a response are put into a link. The access token and its expiry are those of the
response. If it bears a refresh token, so are the refresh token and its expiry, and otherwise the
link keeps both. -/
structure Refreshes (members : List (String × Value)) (response : TokenResponse) (now : Instant)
    (lifetimes : Lifetimes) (link link' : Link) : Prop where
  accessToken : onlyMember? "access_token" members = some (.string link'.accessToken)
  accessExpires :
    Expires now (lifetime? response.expiresIn) (seconds lifetimes.access) link'.accessExpires
  replaced : ∀ token, Bears members token → link'.refreshToken = token ∧
    Expires now (lifetime? response.refreshExpiresIn) (seconds lifetimes.refresh)
      link'.refreshExpires
  kept : (∀ token, ¬ Bears members token) →
    link'.refreshToken = link.refreshToken ∧ link'.refreshExpires = link.refreshExpires

theorem StandsFor.refreshes (h : StandsFor members response) (now : Instant)
    (lifetimes : Lifetimes) (link : Link) (changed : Instant) :
    Refreshes members response now lifetimes link
      (link.refresh (response.tokens now lifetimes) changed) where
  accessToken := h.accessToken
  accessExpires := expires_accessExpires response now lifetimes
  replaced := by
    intro token bears
    have same : (response.tokens now lifetimes).refreshToken = some token := h.bears_iff.1 bears
    unfold Link.refresh
    rw [same]
    exact ⟨rfl, expires_refreshExpires same⟩
  kept := by
    intro bare
    have absent : (response.tokens now lifetimes).refreshToken = none :=
      h.refreshToken_eq_none bare
    unfold Link.refresh
    rw [absent]
    exact ⟨rfl, rfl⟩

/-- An exchange whose response is read gives tokens: the access token to the letter, and a refresh
token exactly if the response bears one, so never an empty one. Without one it does not matter
whether the response says an empty refresh token or none, nor what it says about the lifetime of
refresh tokens. A link that is refreshed with the tokens keeps its refresh token and the expiry of
it exactly in that case. -/
theorem refresh_token_survives (a : Adapter) (grant : Grant) (answer : (q : HttpCall) → q.Answer)
    (redirects : ∃ url, Url.parse grant.redirectUri = .ok url) (response : TokenResponse)
    (reads : readTokenResponse (answer (.send (a.request grant))) = .ok response) :
    ∃ (tokens : TokenSet) (members : List (String × Value)),
      (a.exchange grant).run (m := Id) answer = .ok tokens ∧
      Sends (answer (.send (a.request grant))) members ∧ StandsFor members response ∧
      onlyMember? "access_token" members = some (.string tokens.accessToken) ∧
      (∀ token, tokens.refreshToken = some token ↔ Bears members token) ∧
      tokens.refreshToken ≠ some "" ∧
      (∀ (answer' : (q : HttpCall) → q.Answer) members' response',
        readTokenResponse (answer' (.send (a.request grant))) = .ok response' →
        Sends (answer' (.send (a.request grant))) members' →
        answer' .now = answer .now →
        onlyMember? "access_token" members' = onlyMember? "access_token" members →
        onlyMember? "expires_in" members' = onlyMember? "expires_in" members →
        (∀ token, ¬ Bears members token) → (∀ token, ¬ Bears members' token) →
        (a.exchange grant).run (m := Id) answer' = .ok tokens) ∧
      ∀ (link : Link) (changed : Instant),
        Refreshes members response (answer .now) a.lifetimes link
          (link.refresh tokens changed) := by
  obtain ⟨members, sends, stands⟩ := exists_sends reads
  refine ⟨_, members, run_exchange redirects reads, sends, stands, stands.accessToken,
    fun token => stands.bears_iff.symm, ?_, ?_, ?_⟩
  · intro empty
    exact (stands.bears_iff.2 empty).2 rfl
  · intro answer' members' response' reads' sends' now access expires bare bare'
    obtain ⟨_, sent, stands'⟩ := exists_sends reads'
    cases sends'.unique sent
    have ran := run_exchange redirects reads'
    rw [now] at ran
    exact ran.trans (congrArg Except.ok (tokens_eq stands stands' access expires bare bare'))
  · intro link changed
    exact stands.refreshes (answer .now) a.lifetimes link changed

/-- The members are sent at the Unix epoch, whatever is asked. -/
def sent (members : List (String × Value)) : (q : HttpCall) → q.Answer
  | .now => .epoch
  | .log _ _ => ()
  | .send _ => some ⟨200, [], some (Text.toBytes (Value.object members).text)⟩

/-- Members that are texts are read off the front of the body that is made of them. -/
theorem sends_sent (request : HttpRequest) (texts : ∀ m ∈ members, ∃ s, m.2 = .string s) :
    Sends (sent members (.send request)) members := by
  have written : ValueText true maxDepth (.object members) (Value.object members).text := by
    refine valueText_object fun m hm => ?_
    obtain ⟨s, text⟩ := texts m hm
    rw [text]
    exact valueText_string _ s
  refine ⟨_, _, rfl, rfl, ?_⟩
  unfold readPrefix?
  rw [Text.ofBytes?_toBytes]
  show ((readValue .keep maxDepth (Value.object members).text).toOption.bind fun r => some r.1) = _
  rw [readValue_text written]
  rfl

theorem readTokenResponse_sent (request : HttpRequest) (texts : ∀ m ∈ members, ∃ s, m.2 = .string s)
    (stands : TokenResponse.ofValue? (.object members) = some response) :
    readTokenResponse (sent members (.send request)) = .ok response := by
  obtain ⟨_, body, ⟨⟩, ⟨⟩, object⟩ := sends_sent request texts
  have there : Text.toBytes (Value.object members).text ≠ [] := by
    show Text.toBytes ('{' :: _) ≠ []
    nofun
  show readTokenResponse (some ⟨200, [], some (Text.toBytes (Value.object members).text)⟩) = _
  unfold readTokenResponse
  simp only [object, Option.bind_some, stands]
  rw [if_neg (by decide), if_neg (by simp [hasJsonType, HttpResponse.header?]), if_neg there]

/-- A client of a provider. -/
def client : Adapter where
  kind := .github
  clientId := "id"
  clientSecret := "secret"
  tokenUrl := ⟨"https".toList, [], [], none, none, .segments [], none, none⟩
  userinfoUrl := ""
  lifetimes := ⟨3600, 2592000⟩

/-- A response with an empty refresh token. -/
def emptyToken : List (String × Value) :=
  [("access_token", .string "new"), ("token_type", .string "bearer"), ("refresh_token", .string "")]

/-- The response without the refresh token. -/
def noToken : List (String × Value) :=
  [("access_token", .string "new"), ("token_type", .string "bearer")]

/-- A link keeps the refresh token that it has where the response has an empty one, and the same
tokens come out where it has none. -/
theorem refresh_token_survives_emptyToken :
    let grant : Grant := ⟨"code", "verifier", "app:back"⟩
    (∃ url, Url.parse grant.redirectUri = .ok url) ∧
    readTokenResponse (sent emptyToken (.send (client.request grant)))
      = .ok ⟨"new", none, some "", none⟩ ∧
    ∃ tokens : TokenSet, (client.exchange grant).run (m := Id) (sent emptyToken) = .ok tokens ∧
      (client.exchange grant).run (m := Id) (sent noToken) = .ok tokens ∧
      tokens.refreshToken = none ∧
      ∀ (link : Link) (changed : Instant),
        (link.refresh tokens changed).accessToken = "new" ∧
        (link.refresh tokens changed).refreshToken = link.refreshToken ∧
        (link.refresh tokens changed).refreshExpires = link.refreshExpires := by
  intro grant
  have redirects : ∃ url, Url.parse grant.redirectUri = .ok url :=
    Web.isUrl_iff.1 (by decide +kernel)
  have texts : ∀ m ∈ emptyToken, ∃ s, m.2 = .string s := by simp [emptyToken]
  have texts' : ∀ m ∈ noToken, ∃ s, m.2 = .string s := by simp [noToken]
  have reads : readTokenResponse (sent emptyToken (.send (client.request grant)))
      = .ok ⟨"new", none, some "", none⟩ := readTokenResponse_sent _ texts rfl
  have reads' : readTokenResponse (sent noToken (.send (client.request grant)))
      = .ok ⟨"new", none, none, none⟩ := readTokenResponse_sent _ texts' rfl
  have bare (token : String) : ¬ Bears emptyToken token := by
    rintro ⟨⟨⟩, filled⟩
    exact filled rfl
  have bare' (token : String) : ¬ Bears noToken token := by
    rintro ⟨⟨⟩, -⟩
  obtain ⟨tokens, members, ran, sends, -, -, holds, -, alike, refreshes⟩ :=
    refresh_token_survives client grant (sent emptyToken) redirects _ reads
  cases (sends_sent _ texts).unique sends
  refine ⟨redirects, reads, tokens, ran, alike (sent noToken) noToken _ reads'
    (sends_sent _ texts') rfl rfl rfl bare bare', ?_, ?_⟩
  · rw [Option.eq_none_iff_forall_ne_some]
    intro token same
    exact bare token ((holds token).1 same)
  · intro link changed
    have refreshed := refreshes link changed
    have same := refreshed.accessToken
    injection same with same
    injection same with same
    exact ⟨same.symm, refreshed.kept bare⟩

end Provider
end FederatedLogin
