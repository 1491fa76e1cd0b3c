import FederatedLogin.Web.Endpoints

/-!
# Reading login requests

Which requests are read as login requests. A body that is not sent as JSON, or is too long, or is
not of the shape, or breaks a rule, is refused as a bad request, and every other one is read
(`readTokenRequest_eq_ok_iff`). The rules ask for no more than `violations_eq_nil_iff` says.
-/

namespace FederatedLogin.Web

variable {r : Request} {request : TokenRequest}

/-! ## Rules -/

theorem rule_eq_nil_iff {kept : Bool} {field code message : String} :
    TokenRequest.rule kept field code message = [] ↔ kept = true := by
  unfold TokenRequest.rule
  cases kept <;> simp

theorem isUrl_iff {s : String} : TokenRequest.isUrl s = true ↔ ∃ url, Url.parse s = .ok url := by
  unfold TokenRequest.isUrl
  cases Url.parse s with
  | error fault => exact ⟨nofun, nofun⟩
  | ok url => exact ⟨fun _ => ⟨url, rfl⟩, fun _ => rfl⟩

theorem one_le_length_iff {s : String} : 1 ≤ s.length ↔ s ≠ "" := by
  rw [Nat.one_le_iff_ne_zero, ne_eq, String.length_eq_zero_iff]

/-- A login request breaks no rule exactly if provider and code are there, the verifier has the
right length, and the redirect is a URL. -/
theorem violations_eq_nil_iff : request.violations = [] ↔
    request.provider ≠ "" ∧ request.authorizationCode ≠ "" ∧
      (43 ≤ request.codeVerifier.length ∧ request.codeVerifier.length ≤ 128) ∧
      ∃ url, Url.parse request.redirectUri = .ok url := by
  unfold TokenRequest.violations
  simp only [List.append_eq_nil_iff, rule_eq_nil_iff, isUrl_iff, decide_eq_true_eq,
    Bool.and_eq_true, one_le_length_iff, and_assoc]

/-! ## Requests -/

theorem readTokenRequest_eq_ok_iff : readTokenRequest r = .ok request ↔
    (r.headersNamed "content-type").head?.any isJsonMediaType = true ∧
      r.body.utf8ByteSize ≤ bodyLimit ∧ TokenRequest.parse r.body = .ok request ∧
      request.violations = [] := by
  unfold readTokenRequest
  constructor
  · intro h
    split at h
    · cases h
    · next json =>
      split at h
      · cases h
      · next size =>
        split at h
        · cases h
        · cases h
        · next read body =>
          split at h <;> cases h
          next kept => exact ⟨by simpa using json, Nat.le_of_not_lt size, body, kept⟩
  · rintro ⟨json, size, body, kept⟩
    rw [json, if_neg (by decide), if_neg (Nat.not_lt.2 size), body]
    dsimp only
    rw [kept]

/-- A request that cannot be read is refused as a bad one. -/
theorem status_of_readTokenRequest {f : Failure} (h : readTokenRequest r = .error f) :
    f.status = 400 := by
  unfold readTokenRequest at h
  split at h
  · cases h
    rfl
  · split at h
    · cases h
      rfl
    · split at h
      · cases h
        rfl
      · cases h
        rfl
      · split at h <;> cases h
        rfl

end FederatedLogin.Web
