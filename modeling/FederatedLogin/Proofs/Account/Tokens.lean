import FederatedLogin.Account.Tokens
import FederatedLogin.Proofs.Time.Addition
import FederatedLogin.Settings.Basic

/-!
# When tokens expire

`Expires` says when a token expires, apart from how that instant is computed: after the lifetime
that was given, if that instant exists, otherwise after the lifetime that is assumed, if that
instant exists, and otherwise at the last instant. A lifetime counts as given only if it is no
longer than the longest span. Both expiries of a token set are as the relation says, each by its own
lifetimes, and neither comes before the tokens are issued unless a lifetime that is assumed is
negative (`expiries_exact`).
-/

namespace FederatedLogin

open Time

variable {issued e : Instant} {lifetime : Option Int} {assumed : Int}

/-- The instant at which a token expires that was issued at another one. -/
inductive Expires (issued : Instant) (lifetime : Option Int) (assumed : Int) : Instant → Prop
  | given {span : Int} {e : Instant} :
      lifetime = some span → issued.After span e → Expires issued lifetime assumed e
  | assumed {e : Instant} :
      (∀ span, lifetime = some span → ∀ u, ¬ issued.After span u) → issued.After assumed e →
      Expires issued lifetime assumed e
  | last :
      (∀ span, lifetime = some span → ∀ u, ¬ issued.After span u) →
      (∀ u, ¬ issued.After assumed u) → Expires issued lifetime assumed .last

/-- Lifetimes of which none ends are those whose sums do not exist. -/
theorem bind_add?_eq_none_iff :
    lifetime.bind issued.add? = none ↔
      ∀ span, lifetime = some span → ∀ u, ¬ issued.After span u := by
  constructor
  · rintro none span rfl
    exact Instant.add?_eq_none_iff.1 none
  · intro ends
    cases lifetime with
    | none => rfl
    | some span => exact Instant.add?_eq_none_iff.2 (ends span rfl)

/-- The expiry that is computed is the one of the relation. -/
theorem expires_iff :
    Expires issued (lifetime.filter (· ≤ longestSpan)) assumed e ↔
      e = expiry issued lifetime assumed := by
  unfold expiry
  generalize lifetime.filter (· ≤ longestSpan) = given
  constructor
  · intro h
    cases h with
    | given same after =>
      subst same
      rw [Option.bind_some, Instant.add?_eq_some_iff.2 after]
      rfl
    | assumed ends after =>
      rw [bind_add?_eq_none_iff.2 ends, Instant.add?_eq_some_iff.2 after]
      rfl
    | last ends ends' =>
      rw [bind_add?_eq_none_iff.2 ends, Instant.add?_eq_none_iff.2 ends']
      rfl
  · rintro rfl
    cases sum : given.bind issued.add? with
    | some e =>
      obtain ⟨span, rfl, added⟩ := Option.bind_eq_some_iff.1 sum
      exact .given rfl (Instant.add?_eq_some_iff.1 added)
    | none =>
      have ends := bind_add?_eq_none_iff.1 sum
      cases sum' : issued.add? assumed with
      | some e => exact .assumed ends (Instant.add?_eq_some_iff.1 sum')
      | none => exact .last ends (Instant.add?_eq_none_iff.1 sum')

/-- No token expires before it is issued, if no lifetime is negative. -/
theorem Expires.not_before (h : Expires issued lifetime assumed e)
    (given : ∀ span, lifetime = some span → 0 ≤ span) (passes : 0 ≤ assumed)
    (inRange : ¬ Instant.last.before issued = true) : ¬ e.before issued = true := by
  cases h with
  | given same after => exact Instant.not_before_of_after after (given _ same)
  | assumed _ after => exact Instant.not_before_of_after after passes
  | last => exact inRange

/-! ## Lifetimes that are given -/

/-- Numbers that give a lifetime are no longer than the longest span up to a limit. -/
theorem filter_map_eq {lifetimeOf : Nat → Int} {limit : Nat}
    (fits : ∀ n, lifetimeOf n ≤ longestSpan ↔ n ≤ limit) (n : Option Nat) :
    (n.map lifetimeOf).filter (· ≤ longestSpan) = (n.filter (· ≤ limit)).map lifetimeOf := by
  cases n with
  | none => rfl
  | some n =>
    by_cases h : n ≤ limit
    · simp [Option.filter_some, h, (fits n).2 h]
    · simp [Option.filter_some, h, mt (fits n).1 h]

/-- The limit for nanoseconds: as many milliseconds as a signed word of 64 bits holds. -/
theorem nanos_le_longestSpan_iff (n : Nat) :
    (n : Int) ≤ longestSpan ↔ n ≤ (twoPow 63 - 1) * 1000000 := by
  rw [show longestSpan = 9223372036854775807000000 from rfl,
    show twoPow 63 = 9223372036854775808 from rfl]
  omega

/-- The limit for whole seconds. -/
theorem seconds_le_longestSpan_iff (n : Nat) :
    seconds n ≤ longestSpan ↔ n ≤ (twoPow 63 - 1) / 1000 := by
  rw [show longestSpan = 9223372036854775807000000 from rfl,
    show twoPow 63 = 9223372036854775808 from rfl]
  unfold seconds nanosPerSecond
  omega

theorem seconds_nonneg (n : Nat) : 0 ≤ seconds n := by
  unfold seconds nanosPerSecond
  omega

theorem nonneg_of_map_eq_some {lifetimeOf : Nat → Int} (nonneg : ∀ n, 0 ≤ lifetimeOf n)
    {n : Option Nat} : ∀ span, n.map lifetimeOf = some span → 0 ≤ span := by
  intro span same
  obtain ⟨n, -, rfl⟩ := Option.map_eq_some_iff.1 same
  exact nonneg n

/-! ## Token sets -/

namespace TokenSet

/-- When the tokens of a token set expire. The access token may be given a lifetime in nanoseconds
and the refresh token one in seconds, and each counts up to the longest span. Without a refresh
token its expiry is the instant of issue. Each expiry depends on its own lifetimes only, and does
not come before the instant of issue if the lifetime to assume is not negative, as those of the
settings are. (Only the leap second at the end of the calendar is past the last instant.) -/
theorem expiries_exact (issued : Instant) (accessToken : String) (refreshToken : Option String)
    (accessNanos refreshSeconds : Option Nat) (accessDefault refreshDefault : Int) :
    let accessLifetime := accessNanos.map fun n : Nat => (n : Int)
    let refreshLifetime := refreshSeconds.map fun n : Nat => seconds n
    let tokens := issuedAt issued accessToken refreshToken accessLifetime refreshLifetime
      accessDefault refreshDefault
    (∀ e, Expires issued
        ((accessNanos.filter (· ≤ (twoPow 63 - 1) * 1000000)).map fun n : Nat => (n : Int))
        accessDefault e ↔ e = tokens.accessExpires) ∧
      (refreshToken.isSome → ∀ e, Expires issued
        ((refreshSeconds.filter (· ≤ (twoPow 63 - 1) / 1000)).map fun n : Nat => seconds n)
        refreshDefault e ↔ e = tokens.refreshExpires) ∧
      (refreshToken = none → tokens.refreshExpires = issued) ∧
      (∀ accessToken' refreshToken' refreshLifetime' refreshDefault',
        (issuedAt issued accessToken' refreshToken' accessLifetime refreshLifetime' accessDefault
          refreshDefault').accessExpires = tokens.accessExpires) ∧
      (∀ accessToken' refreshToken' accessLifetime' accessDefault',
        refreshToken'.isSome = refreshToken.isSome →
        (issuedAt issued accessToken' refreshToken' accessLifetime' refreshLifetime accessDefault'
          refreshDefault).refreshExpires = tokens.refreshExpires) ∧
      (¬ Instant.last.before issued = true →
        (0 ≤ accessDefault → ¬ tokens.accessExpires.before issued = true) ∧
        (0 ≤ refreshDefault → ¬ tokens.refreshExpires.before issued = true)) ∧
      ∀ settings : Settings.Tokens,
        0 ≤ seconds settings.lifetimes.access ∧ 0 ≤ seconds settings.lifetimes.refresh := by
  intro accessLifetime refreshLifetime tokens
  have access (e : Instant) : Expires issued
      ((accessNanos.filter (· ≤ (twoPow 63 - 1) * 1000000)).map fun n : Nat => (n : Int))
      accessDefault e ↔ e = tokens.accessExpires := by
    rw [← filter_map_eq nanos_le_longestSpan_iff]
    exact expires_iff
  have refresh (there : refreshToken.isSome) (e : Instant) : Expires issued
      ((refreshSeconds.filter (· ≤ (twoPow 63 - 1) / 1000)).map fun n : Nat => seconds n)
      refreshDefault e ↔ e = tokens.refreshExpires := by
    rw [← filter_map_eq seconds_le_longestSpan_iff]
    show _ ↔ e = if refreshToken.isSome then _ else _
    rw [if_pos there]
    exact expires_iff
  have without (none : refreshToken = none) : tokens.refreshExpires = issued := by
    subst none
    rfl
  refine ⟨access, refresh, without, fun _ _ _ _ => rfl, ?_, ?_, ?_⟩
  · intro accessToken' refreshToken' accessLifetime' accessDefault' same
    show (if refreshToken'.isSome then _ else _) = if refreshToken.isSome then _ else _
    rw [same]
  · intro inRange
    constructor
    · intro passes
      exact ((access _).2 rfl).not_before (nonneg_of_map_eq_some Int.natCast_nonneg) passes inRange
    · intro passes
      by_cases there : refreshToken.isSome
      · exact ((refresh there _).2 rfl).not_before (nonneg_of_map_eq_some seconds_nonneg) passes
          inRange
      · rw [without (Option.not_isSome_iff_eq_none.1 there), Instant.before_iff]
        omega
  · intro settings
    exact ⟨seconds_nonneg settings.accessLifetime, seconds_nonneg settings.refreshLifetime⟩

/-- The beginning of the last second of the calendar. -/
def lateMoment : Instant := { Instant.last with nanos := 0, isSubsecond := rfl }

/-- Tokens that are issued late: the access token has a lifetime that fits in to the nanosecond, and
the refresh token one that is a nanosecond too long, as the one to assume is. -/
def lateTokens : TokenSet :=
  issuedAt lateMoment "access" (some "refresh") (some 999999999) (some (seconds 1))
    (seconds 3600) (seconds 2592000)

/-- Lifetimes at the end of the calendar. -/
theorem expiries_exact_lateTokens :
    ¬ Instant.last.before lateMoment = true ∧ 0 ≤ seconds 3600 ∧ 0 ≤ seconds 2592000 ∧
      Expires lateMoment (some 999999999) (seconds 3600) lateTokens.accessExpires ∧
      (∀ u, ¬ lateMoment.After (seconds 1) u) ∧
      Expires lateMoment (some (seconds 1)) (seconds 2592000) lateTokens.refreshExpires ∧
      lateTokens.accessExpires = .last ∧ lateTokens.refreshExpires = .last ∧
      ¬ lateTokens.accessExpires.before lateMoment = true ∧
      ¬ lateTokens.refreshExpires.before lateMoment = true := by
  have inRange : ¬ Instant.last.before lateMoment = true := by decide
  have hour : 0 ≤ seconds 3600 := by decide
  have month : 0 ≤ seconds 2592000 := by decide
  have unending : ∀ u, ¬ lateMoment.After (seconds 1) u := by
    rw [← not_exists, Instant.exists_after_iff (by decide)]
    decide
  obtain ⟨access, refresh, -, -, -, after, -⟩ := expiries_exact lateMoment "access" (some "refresh")
    (some 999999999) (some 1) (seconds 3600) (seconds 2592000)
  exact ⟨inRange, hour, month, (access _).2 rfl, unending, (refresh rfl _).2 rfl, by decide,
    by decide, (after inRange).1 hour, (after inRange).2 month⟩

end TokenSet

end FederatedLogin
