import FederatedLogin.Time.Instant

/-!
# Adding spans to instants

What a sum of an instant and a span is, apart from how it is computed: `Instant.After` says that an
instant lies a span after another one. Of all leap seconds only the one that the sum starts in has a
length. The sum that is computed is that instant, and it exists exactly if there is such an instant
(`add?_eq_some_iff`, `add?_eq_none_iff`). A span that is not negative never leads to an earlier
instant (`not_before_of_after`).
-/

namespace FederatedLogin.Time

/-- The bound on the part of a second. -/
theorem nanos_lt_of_isSubsecond {s : Int} {n : Nat} (h : isSubsecond s n = true) :
    n < 2 * nanosPerSecond := by
  unfold isSubsecond at h
  simp only [Bool.or_eq_true, Bool.and_eq_true, decide_eq_true_eq] at h
  omega

namespace Instant

variable {t u : Instant} {span : Int}

theorem of?_eq_some_iff {s : Int} {n : Nat} : of? s n = some u ↔ u.seconds = s ∧ u.nanos = n := by
  unfold of?
  constructor
  · intro h
    split at h
    · split at h
      · cases h
        exact ⟨rfl, rfl⟩
      · cases h
    · cases h
  · rintro ⟨rfl, rfl⟩
    rw [dif_pos u.onCalendar, dif_pos u.isSubsecond]

/-- The instant of a number of nanoseconds is the one of that number that is no leap second. -/
theorem ofNanos?_eq_some_iff {n : Int} :
    ofNanos? n = some u ↔ u.nanos < nanosPerSecond ∧ u.toNanos = n := by
  unfold ofNanos?
  rw [of?_eq_some_iff]
  unfold toNanos nanosPerSecond
  omega

/-! ## The specification -/

/-- The second instant lies a span after the first one. Leap seconds between them have no length,
except for the one in which the first instant lies. -/
inductive After (t : Instant) (span : Int) (u : Instant) : Prop
  /-- The first instant lies in no leap second, or the second one comes before its end. -/
  | plain :
      t.nanos < nanosPerSecond ∨ u.seconds ≤ t.seconds → u.nanos < nanosPerSecond →
      u.toNanos = t.toNanos + span → After t span u
  /-- Both instants lie in the same leap second. -/
  | inside :
      nanosPerSecond ≤ t.nanos → nanosPerSecond ≤ u.nanos → u.seconds = t.seconds →
      u.toNanos = t.toNanos + span → After t span u
  /-- The first instant lies in a leap second, and the second one comes after its end. -/
  | past :
      nanosPerSecond ≤ t.nanos → t.seconds < u.seconds → u.nanos < nanosPerSecond →
      u.toNanos + nanosPerSecond = t.toNanos + span → After t span u

/-- Whole seconds of a span are counted toward zero. -/
theorem tdiv_neg_iff : span.tdiv nanosPerSecond < 0 ↔ span ≤ -nanosPerSecond := by
  rw [Int.tdiv_eq_ediv, show (nanosPerSecond : Int).sign = 1 from rfl]
  unfold nanosPerSecond
  split <;> omega

theorem tdiv_pos_iff : 0 < span.tdiv nanosPerSecond ↔ nanosPerSecond ≤ span := by
  rw [Int.tdiv_eq_ediv, show (nanosPerSecond : Int).sign = 1 from rfl]
  unfold nanosPerSecond
  split <;> omega

/-- Outside leap seconds, the nanoseconds of the sum are the sum of the nanoseconds. -/
theorem after_iff_of_no_leap (h : t.nanos < nanosPerSecond) :
    t.After span u ↔ u.nanos < nanosPerSecond ∧ u.toNanos = t.toNanos + span := by
  constructor
  · intro after
    cases after with
    | plain _ nanos sum => exact ⟨nanos, sum⟩
    | inside leap => omega
    | past leap => omega
  · rintro ⟨nanos, sum⟩
    exact .plain (.inl h) nanos sum

/-- What is a second or more before a leap second comes before its end. -/
theorem after_iff_of_le (leap : nanosPerSecond ≤ t.nanos) (far : span ≤ -nanosPerSecond) :
    t.After span u ↔ u.nanos < nanosPerSecond ∧ u.toNanos = t.toNanos + span := by
  have bound := nanos_lt_of_isSubsecond t.isSubsecond
  constructor
  · intro after
    cases after with
    | plain _ nanos sum => exact ⟨nanos, sum⟩
    | inside _ leap' same sum => unfold toNanos at sum; rw [same] at sum; omega
    | past _ later _ sum => unfold toNanos nanosPerSecond at *; omega
  · rintro ⟨nanos, sum⟩
    refine .plain (.inr ?_) nanos sum
    unfold toNanos nanosPerSecond at *
    omega

/-- What lies after the end of a leap second misses the length of that second. -/
theorem after_iff_of_past (leap : nanosPerSecond ≤ t.nanos)
    (far : nanosPerSecond ≤ span ∨ 2 * (nanosPerSecond : Int) ≤ t.nanos + span) :
    t.After span u ↔
      u.nanos < nanosPerSecond ∧ u.toNanos = t.toNanos - nanosPerSecond + span := by
  constructor
  · intro after
    have bound := nanos_lt_of_isSubsecond u.isSubsecond
    cases after with
    | plain early nanos sum => unfold toNanos nanosPerSecond at *; omega
    | inside _ _ same sum => unfold toNanos nanosPerSecond at *; omega
    | past _ _ nanos sum => exact ⟨nanos, by omega⟩
  · rintro ⟨nanos, sum⟩
    refine .past leap ?_ nanos (by omega)
    unfold toNanos nanosPerSecond at *
    omega

/-- What is less than a second away and not past the end of a leap second has the same second. -/
theorem after_iff_of_near (leap : nanosPerSecond ≤ t.nanos) (near : -nanosPerSecond < span)
    (ends : t.nanos + span < 2 * (nanosPerSecond : Int)) :
    t.After span u ↔ u.seconds = t.seconds ∧ u.nanos = (t.nanos + span).toNat := by
  constructor
  · intro after
    cases after with
    | plain early nanos sum => unfold toNanos nanosPerSecond at *; omega
    | inside _ _ same sum => unfold toNanos nanosPerSecond at *; omega
    | past _ later _ sum => unfold toNanos nanosPerSecond at *; omega
  · rintro ⟨same, nanos⟩
    have sum : u.toNanos = t.toNanos + span := by
      unfold toNanos
      rw [same, nanos]
      omega
    by_cases inside : nanosPerSecond ≤ u.nanos
    · exact .inside leap inside same sum
    · exact .plain (.inr (by omega)) (by omega) sum

/-! ## The sum that is computed -/

/-- The sum of an instant and a span is the instant that lies the span after it. -/
theorem add?_eq_some_iff : t.add? span = some u ↔ t.After span u := by
  unfold add?
  by_cases leap : t.nanos < nanosPerSecond
  · rw [if_pos leap, ofNanos?_eq_some_iff, after_iff_of_no_leap leap]
  · have leap' : nanosPerSecond ≤ t.nanos := by omega
    rw [if_neg leap]
    by_cases before : span.tdiv nanosPerSecond < 0
    · rw [if_pos before, ofNanos?_eq_some_iff, after_iff_of_le leap' (tdiv_neg_iff.1 before)]
    · rw [if_neg before]
      rw [tdiv_neg_iff] at before
      by_cases past : 0 < span.tdiv nanosPerSecond ∨ 2 * (nanosPerSecond : Int) ≤ t.nanos + span
      · rw [if_pos past, ofNanos?_eq_some_iff,
          after_iff_of_past leap' (past.imp_left tdiv_pos_iff.1)]
      · rw [if_neg past, of?_eq_some_iff, after_iff_of_near leap' (by omega) (by omega)]

/-- There is no sum exactly if no instant lies the span after the first one. -/
theorem add?_eq_none_iff : t.add? span = none ↔ ∀ u, ¬ t.After span u := by
  rw [Option.eq_none_iff_forall_ne_some]
  simp only [ne_eq, add?_eq_some_iff]

/-- Outside leap seconds, a sum exists exactly if it lies on the calendar. -/
theorem exists_after_iff (h : t.nanos < nanosPerSecond) :
    (∃ u, t.After span u) ↔
      firstSecond * nanosPerSecond ≤ t.toNanos + span ∧ t.toNanos + span ≤ last.toNanos := by
  have latest : last.toNanos = lastSecond * nanosPerSecond + 999999999 := rfl
  simp only [after_iff_of_no_leap h]
  rw [latest]
  constructor
  · rintro ⟨u, nanos, sum⟩
    obtain ⟨first, final⟩ := u.onCalendar
    rw [← sum]
    unfold toNanos nanosPerSecond at *
    omega
  · rintro ⟨first, final⟩
    generalize t.toNanos + span = n at *
    have onCalendar : firstSecond ≤ n / nanosPerSecond ∧ n / nanosPerSecond ≤ lastSecond := by
      unfold nanosPerSecond at *
      omega
    have nanos : (n % nanosPerSecond).toNat < nanosPerSecond := by
      unfold nanosPerSecond
      omega
    have part : Time.isSubsecond (n / nanosPerSecond) (n % nanosPerSecond).toNat = true := by
      unfold Time.isSubsecond
      rw [decide_eq_true nanos, Bool.true_or]
    have counted : toNanos ⟨_, _, onCalendar, part⟩ = n := by
      unfold toNanos nanosPerSecond
      dsimp only
      omega
    exact ⟨_, nanos, counted⟩

/-! ## Order -/

theorem before_iff : t.before u = true ↔
    t.seconds < u.seconds ∨ (t.seconds = u.seconds ∧ t.nanos < u.nanos) := by
  unfold before
  simp only [Bool.or_eq_true, Bool.and_eq_true, decide_eq_true_eq]

/-- Time that passes does not lead to an earlier instant. -/
theorem not_before_of_after (after : t.After span u) (passes : 0 ≤ span) :
    ¬ u.before t = true := by
  rw [before_iff]
  have bound := nanos_lt_of_isSubsecond t.isSubsecond
  cases after with
  | plain early nanos sum => unfold toNanos nanosPerSecond at *; omega
  | inside _ _ same sum => unfold toNanos at sum; rw [same] at sum ⊢; omega
  | past _ later _ _ => omega

end Instant

end FederatedLogin.Time
