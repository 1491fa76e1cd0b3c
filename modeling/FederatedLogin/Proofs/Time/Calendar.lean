import FederatedLogin.Time.Calendar
import Mathlib.Data.Int.Init

/-!
# The days of the calendar

Which date a day falls on is said by counting: the days from the first of January 1970 are gone
through one by one, in both directions, by the lengths of the months alone (`Falls`). The numbers
that `Date.toDays` and `Date.ofDays` compute are those of this count (`falls_iff`, `falls_ofDays`),
for every day there is. The computation counts years from March on, so that the leap day is the last
one of its year; `MarchDay` says which months and days such a year has, and both functions are
understood on it (`ofDays_marchDays`, `toDays_ofMarch`).
-/

namespace FederatedLogin.Time.Date

/-! ## Counting days -/

/-- The date after another one. -/
def next (d : Date) : Date :=
  if d.day < daysInMonth d.year d.month then ⟨d.year, d.month, d.day + 1⟩
  else if d.month < 12 then ⟨d.year, d.month + 1, 1⟩
  else ⟨d.year + 1, 1, 1⟩

/-- The day with the number, counted from the first of January 1970, falls on the date. -/
inductive Falls : Int → Date → Prop where
  | epoch : Falls 0 ⟨1970, 1, 1⟩
  | next {n : Int} {d : Date} (before : Falls n d) : Falls (n + 1) d.next
  | previous {n : Int} {d : Date} (valid : d.isValid = true) (after : Falls (n + 1) d.next) :
      Falls n d

theorem isValid_iff {d : Date} : d.isValid = true ↔
    (1 ≤ d.month ∧ d.month ≤ 12) ∧ 1 ≤ d.day ∧ d.day ≤ daysInMonth d.year d.month := by
  simp only [isValid, Bool.and_eq_true, decide_eq_true_eq, and_assoc]

/-- The days of a month, with the rule for leap years written out. -/
theorem daysInMonth_eq (year : Int) (month : Nat) : daysInMonth year month =
    if month = 2 then
      (if year % 4 = 0 ∧ (year % 100 ≠ 0 ∨ year % 400 = 0) then 29 else 28)
    else if month = 4 ∨ month = 6 ∨ month = 9 ∨ month = 11 then 30
    else 31 := by
  simp only [daysInMonth, isLeapYear, Bool.and_eq_true, Bool.or_eq_true, decide_eq_true_eq]

theorem isValid_next {d : Date} (valid : d.isValid = true) : d.next.isValid = true := by
  obtain ⟨months, first, -⟩ := isValid_iff.1 valid
  have first_valid (year : Int) (month : Nat) : 1 ≤ daysInMonth year month := by
    unfold daysInMonth
    split <;> split <;> decide
  unfold next
  split
  · next early => exact isValid_iff.2 ⟨months, Nat.le_add_left 1 d.day, early⟩
  · split
    · next notLast =>
      exact isValid_iff.2
        ⟨⟨Nat.le_add_left 1 d.month, notLast⟩, Nat.le_refl 1, first_valid _ _⟩
    · exact isValid_iff.2 ⟨⟨Nat.le_refl 1, Nat.le_add_left 1 11⟩, Nat.le_refl 1, first_valid _ _⟩

/-! ## Years that start in March -/

/-- The days before the March with which a year starts. -/
def daysBeforeMarch (y : Int) : Int := 365 * y + y / 4 - y / 100 + y / 400

/-- The years of an era and the days of an era before them make up all days. -/
theorem daysBeforeMarch_eq (y : Int) :
    daysBeforeMarch y = 146097 * (y / 400) + daysBeforeYear (y - 400 * (y / 400)) := by
  unfold daysBeforeMarch daysBeforeYear
  omega

/-- The year that starts in March has the month and the day, both counted from zero. -/
structure MarchDay (y m j : Int) : Prop where
  month : 0 ≤ m ∧ m ≤ 11
  day : 0 ≤ j ∧ j < daysBeforeMonth (m + 1) - daysBeforeMonth m
  /-- The last day of the year is there in leap years only. -/
  inYear : daysBeforeMonth m + j < if isLeapYear (y + 1) then 366 else 365

/-- The number of a day. -/
def marchDays (y m j : Int) : Int := daysBeforeMarch y + daysBeforeMonth m + j - 719468

/-- The months from March to January are as long in every year. -/
theorem length_month {m : Int} (h : 0 ≤ m ∧ m ≤ 10) :
    daysBeforeMonth (m + 1) - daysBeforeMonth m
      = if m = 1 ∨ m = 3 ∨ m = 6 ∨ m = 8 then 30 else 31 := by
  unfold daysBeforeMonth
  rcases (by omega : m = 0 ∨ m = 1 ∨ m = 2 ∨ m = 3 ∨ m = 4 ∨ m = 5 ∨ m = 6 ∨ m = 7 ∨ m = 8 ∨ m = 9 ∨
    m = 10) with rfl | rfl | rfl | rfl | rfl | rfl | rfl | rfl | rfl | rfl | rfl <;> rfl

/-- The date of a day. January and February are in the next year. -/
def ofMarch (y m j : Int) : Date :=
  if m < 10 then ⟨y, (m + 3).toNat, (j + 1).toNat⟩ else ⟨y + 1, (m - 9).toNat, (j + 1).toNat⟩

variable {y m j : Int} {d : Date}

theorem toDays_ofMarch (h : MarchDay y m j) : (ofMarch y m j).toDays = marchDays y m j := by
  obtain ⟨⟨first, last⟩, ⟨low, -⟩, -⟩ := h
  have years := daysBeforeMarch_eq y
  unfold ofMarch marchDays toDays
  split
  · have month : ((m + 3).toNat : Int) - 3 = m := by omega
    have day : ((j + 1).toNat : Int) - 1 = j := by omega
    have late : ¬ (m + 3).toNat ≤ 2 := by omega
    simp only [if_neg late, month, day]
    omega
  · have month : ((m - 9).toNat : Int) + 9 = m := by omega
    have day : ((j + 1).toNat : Int) - 1 = j := by omega
    have early : (m - 9).toNat ≤ 2 := by omega
    simp only [if_pos early, month, day, Int.add_sub_cancel]
    omega

theorem isValid_ofMarch (h : MarchDay y m j) : (ofMarch y m j).isValid = true := by
  obtain ⟨⟨first, last⟩, ⟨low, high⟩, inYear⟩ := h
  rw [isValid_iff]
  unfold ofMarch
  split
  · rw [length_month ⟨first, by omega⟩] at high
    simp only [daysInMonth_eq]
    refine ⟨by omega, by omega, ?_⟩
    rw [if_neg (by omega)]
    split at high <;> split <;> omega
  · simp only [isLeapYear, Bool.and_eq_true, Bool.or_eq_true, decide_eq_true_eq] at inYear
    unfold daysBeforeMonth at high inYear
    simp only [daysInMonth_eq]
    refine ⟨by omega, by omega, ?_⟩
    split
    · split at inYear <;> split <;> omega
    · rw [if_neg (by omega)]
      omega

/-- Every date is one of a year that starts in March. -/
theorem exists_march (valid : d.isValid = true) : ∃ y m j, MarchDay y m j ∧ d = ofMarch y m j := by
  obtain ⟨year, month, day⟩ := d
  obtain ⟨⟨first, last⟩, low, high⟩ := isValid_iff.1 valid
  simp only [daysInMonth_eq] at first last low high
  by_cases early : month ≤ 2
  · refine ⟨year - 1, month + 9, day - 1, ⟨by omega, ?_, ?_⟩, ?_⟩
    · unfold daysBeforeMonth
      split at high
      · split at high <;> omega
      · rw [if_neg (by omega)] at high
        omega
    · simp only [isLeapYear, Bool.and_eq_true, Bool.or_eq_true, decide_eq_true_eq,
        Int.sub_add_cancel]
      unfold daysBeforeMonth
      split at high
      · split at high <;> split <;> omega
      · rw [if_neg (by omega)] at high
        split <;> omega
    · unfold ofMarch
      rw [if_neg (by omega)]
      congr 1 <;> omega
  · rw [if_neg (by omega)] at high
    have length := length_month (m := month - 3) (by omega)
    refine ⟨year, month - 3, day - 1, ⟨by omega, ⟨by omega, ?_⟩, ?_⟩, ?_⟩
    · rw [length]
      split at high <;> split <;> omega
    · unfold daysBeforeMonth at *
      split at high <;> split <;> omega
    · unfold ofMarch
      rw [if_pos (by omega)]
      congr 1 <;> omega

/-! ## From days to dates -/

/-- The year of an era to which one of its days belongs. -/
def yearOf (left : Int) : Int := (left - left / 1460 + left / 36524 - left / 146096) / 365

/-- A year is the one of a run of four years in a century of its era. -/
theorem exists_run (y : Int) : ∃ c q r : Int, y - 400 * (y / 400) = 100 * c + 4 * q + r ∧
    (0 ≤ c ∧ c ≤ 3) ∧ (0 ≤ q ∧ q ≤ 24) ∧ (0 ≤ r ∧ r ≤ 3) :=
  ⟨y % 400 / 100, y % 100 / 4, y % 4, by omega, by omega, by omega, by omega⟩

section Run

variable {c q r k : Int} (hc : 0 ≤ c ∧ c ≤ 3) (hq : 0 ≤ q ∧ q ≤ 24) (hr : 0 ≤ r ∧ r ≤ 3)

include hq hr in
theorem daysBeforeYear_run :
    daysBeforeYear (100 * c + 4 * q + r) = 36524 * c + 1461 * q + 365 * r := by
  have quarters : (100 * c + 4 * q + r) / 4 = 25 * c + q := by omega
  have centuries : (100 * c + 4 * q + r) / 100 = c := by omega
  unfold daysBeforeYear
  rw [quarters, centuries]
  omega

include hc hq hr in
/-- The leap days before a day shift it by less than a year. -/
theorem yearOf_run (hk : 0 ≤ k ∧ (k < 365 ∨ k = 365 ∧ r = 3 ∧ (q < 24 ∨ c = 3))) :
    yearOf (36524 * c + 1461 * q + 365 * r + k) = 100 * c + 4 * q + r := by
  have leaps : ∃ e : Int, (36524 * c + 1461 * q + 365 * r + k) / 1460 = 25 * c + q + e ∧
      0 ≤ k - e ∧ k - e < 365 := by
    by_cases late : 1460 ≤ 24 * c + q + 365 * r + k
    · exact ⟨1, by omega, by omega, by omega⟩
    · exact ⟨0, by omega, by omega, by omega⟩
  have centuries : (36524 * c + 1461 * q + 365 * r + k) / 36524
      - (36524 * c + 1461 * q + 365 * r + k) / 146096 = c := by
    by_cases last : 36524 * c + 1461 * q + 365 * r + k = 146096
    · rw [last]
      omega
    · have inCentury : 1461 * q + 365 * r + k < 36524 := by omega
      omega
  obtain ⟨e, leaps, low, high⟩ := leaps
  unfold yearOf
  rw [leaps, Int.add_sub_assoc, centuries]
  omega

include hc hq hr in
/-- The last day of a leap year is the last one of a run of four years, and at the end of a century
the last one of the era. -/
theorem isLeapYear_run (hy : y - 400 * (y / 400) = 100 * c + 4 * q + r) :
    isLeapYear (y + 1) = true ↔ r = 3 ∧ (q < 24 ∨ c = 3) := by
  simp only [isLeapYear, Bool.and_eq_true, Bool.or_eq_true, decide_eq_true_eq]
  omega

end Run

/-- The date of a day is computed from its number. -/
theorem ofDays_marchDays (h : MarchDay y m j) : ofDays (marchDays y m j) = ofMarch y m j := by
  obtain ⟨⟨first, last⟩, ⟨low, high⟩, inYear⟩ := h
  obtain ⟨c, q, r, year, hc, hq, hr⟩ := exists_run y
  have leap := isLeapYear_run hc hq hr year
  have before := daysBeforeYear_run (c := c) hq hr
  have dayOfYear : 0 ≤ daysBeforeMonth m + j ∧ (daysBeforeMonth m + j < 365 ∨
      daysBeforeMonth m + j = 365 ∧ r = 3 ∧ (q < 24 ∨ c = 3)) := by
    refine ⟨by unfold daysBeforeMonth; omega, ?_⟩
    split at inYear
    · next isLeap =>
      by_cases last : daysBeforeMonth m + j < 365
      · exact .inl last
      · exact .inr ⟨by omega, leap.1 isLeap⟩
    · exact .inl inYear
  have number : marchDays y m j + 719468 = 146097 * (y / 400)
      + (36524 * c + 1461 * q + 365 * r + (daysBeforeMonth m + j)) := by
    unfold marchDays
    rw [daysBeforeMarch_eq, year, before]
    omega
  have era : (marchDays y m j + 719468) / 146097 = y / 400 := by omega
  have left : marchDays y m j + 719468 - 146097 * (y / 400)
      = 36524 * c + 1461 * q + 365 * r + (daysBeforeMonth m + j) := by omega
  have found := yearOf_run hc hq hr dayOfYear
  have rest : 36524 * c + 1461 * q + 365 * r + (daysBeforeMonth m + j)
      - (36524 * c + 1461 * q + 365 * r) = daysBeforeMonth m + j := by omega
  have month : (5 * (daysBeforeMonth m + j) + 2) / 153 = m := by
    unfold daysBeforeMonth at *
    omega
  have day : daysBeforeMonth m + j - daysBeforeMonth m + 1 = j + 1 := by omega
  have whole : 100 * c + 4 * q + r + 400 * (y / 400) = y := by omega
  unfold yearOf at found
  unfold ofDays ofMarch
  simp only [era, left, found, before, rest, month, day, whole]

/-- A day of an era belongs to a century of it, a run of four years, and a year of them. -/
theorem exists_run_of_day {left : Int} (h : 0 ≤ left ∧ left < 146097) : ∃ c q r k : Int,
    left = 36524 * c + 1461 * q + 365 * r + k ∧
      (0 ≤ c ∧ c ≤ 3) ∧ (0 ≤ q ∧ q ≤ 24) ∧ (0 ≤ r ∧ r ≤ 3) ∧
      0 ≤ k ∧ (k < 365 ∨ k = 365 ∧ r = 3 ∧ (q < 24 ∨ c = 3)) := by
  obtain ⟨c, hc, inCentury⟩ : ∃ c : Int, (0 ≤ c ∧ c ≤ 3) ∧ 0 ≤ left - 36524 * c ∧
      (left - 36524 * c < 36524 ∨ left - 36524 * c = 36524 ∧ c = 3) := by
    by_cases last : left = 146096
    · exact ⟨3, by omega, by omega, by omega⟩
    · exact ⟨left / 36524, by omega, by omega, by omega⟩
  obtain ⟨q, hq, inRun⟩ : ∃ q : Int, (0 ≤ q ∧ q ≤ 24) ∧ 0 ≤ left - 36524 * c - 1461 * q ∧
      left - 36524 * c - 1461 * q < 1461 :=
    ⟨(left - 36524 * c) / 1461, by omega, by omega, by omega⟩
  obtain ⟨r, hr, inYear⟩ : ∃ r : Int, (0 ≤ r ∧ r ≤ 3) ∧
      0 ≤ left - 36524 * c - 1461 * q - 365 * r ∧
      (left - 36524 * c - 1461 * q - 365 * r < 365 ∨
        left - 36524 * c - 1461 * q - 365 * r = 365 ∧ r = 3) := by
    by_cases last : left - 36524 * c - 1461 * q = 1460
    · exact ⟨3, by omega, by omega, by omega⟩
    · exact ⟨(left - 36524 * c - 1461 * q) / 365, by omega, by omega, by omega⟩
  exact ⟨c, q, r, left - 36524 * c - 1461 * q - 365 * r, by omega, hc, hq, hr, by omega, by omega⟩

/-- Every number is that of a day. -/
theorem exists_marchDays (n : Int) : ∃ y m j, MarchDay y m j ∧ n = marchDays y m j := by
  have ofEra : 0 ≤ (n + 719468) % 146097 ∧ (n + 719468) % 146097 < 146097 := by omega
  obtain ⟨c, q, r, k, left, hc, hq, hr, hk⟩ := exists_run_of_day ofEra
  have inEra : (400 * ((n + 719468) / 146097) + (100 * c + 4 * q + r)) / 400
      = (n + 719468) / 146097 := by omega
  have year : 400 * ((n + 719468) / 146097) + (100 * c + 4 * q + r)
      - 400 * ((400 * ((n + 719468) / 146097) + (100 * c + 4 * q + r)) / 400)
        = 100 * c + 4 * q + r := by omega
  refine ⟨400 * ((n + 719468) / 146097) + (100 * c + 4 * q + r), (5 * k + 2) / 153,
    k - daysBeforeMonth ((5 * k + 2) / 153), ⟨by omega, ?_, ?_⟩, ?_⟩
  · unfold daysBeforeMonth
    omega
  · have leap := isLeapYear_run hc hq hr year
    split
    · omega
    · next common =>
      have short : ¬ (r = 3 ∧ (q < 24 ∨ c = 3)) := fun long => common (leap.2 long)
      omega
  · unfold marchDays
    rw [daysBeforeMarch_eq, year, inEra, daysBeforeYear_run hq hr]
    omega

/-- The date of a day has its number. -/
theorem toDays_ofDays (n : Int) : (ofDays n).toDays = n := by
  obtain ⟨y, m, j, day, rfl⟩ := exists_marchDays n
  rw [ofDays_marchDays day, toDays_ofMarch day]

theorem isValid_ofDays (n : Int) : (ofDays n).isValid = true := by
  obtain ⟨y, m, j, day, rfl⟩ := exists_marchDays n
  rw [ofDays_marchDays day]
  exact isValid_ofMarch day

/-- A date is the one of the day with its number. -/
theorem ofDays_toDays (valid : d.isValid = true) : ofDays d.toDays = d := by
  obtain ⟨y, m, j, day, rfl⟩ := exists_march valid
  rw [toDays_ofMarch day, ofDays_marchDays day]

/-! ## The count -/

theorem toDays_eq (d : Date) : d.toDays =
    daysBeforeMarch (if d.month ≤ 2 then d.year - 1 else d.year)
      + daysBeforeMonth (if d.month ≤ 2 then d.month + 9 else d.month - 3)
      + (d.day - 1) - 719468 := by
  rw [daysBeforeMarch_eq]
  rfl

/-- The year that starts in March has its leap day in the next February. -/
theorem daysBeforeMarch_succ (y : Int) :
    daysBeforeMarch (y + 1) = daysBeforeMarch y + if isLeapYear (y + 1) then 366 else 365 := by
  unfold daysBeforeMarch
  simp only [isLeapYear, Bool.and_eq_true, Bool.or_eq_true, decide_eq_true_eq]
  split <;> omega

theorem toDays_day (year : Int) (month day : Nat) :
    toDays ⟨year, month, day⟩ = toDays ⟨year, month, 1⟩ + (day - 1) := by
  unfold toDays
  dsimp only
  omega

/-- A month begins where the month before it ends. -/
theorem toDays_month (year : Int) {month : Nat} (first : 1 ≤ month) (last : month < 12) :
    toDays ⟨year, month + 1, 1⟩ = toDays ⟨year, month, 1⟩ + daysInMonth year month := by
  rw [toDays_eq, toDays_eq]
  dsimp only
  by_cases winter : month ≤ 2
  · rcases (by omega : month = 1 ∨ month = 2) with rfl | rfl
    · rw [if_pos (by decide), if_pos (by decide), if_pos (by decide), if_pos (by decide)]
      have january : daysInMonth year 1 = 31 := rfl
      rw [january]
      unfold daysBeforeMonth
      omega
    · have leap := daysBeforeMarch_succ (year - 1)
      rw [Int.sub_add_cancel] at leap
      rw [if_neg (by decide), if_neg (by decide), if_pos (by decide), if_pos (by decide), leap]
      have february : daysInMonth year 2 = if isLeapYear year then 29 else 28 := rfl
      rw [february]
      unfold daysBeforeMonth
      split <;> omega
  · have length := length_month (m := month - 3) (by omega)
    rw [if_neg (by omega), if_neg (by omega), if_neg winter, if_neg winter, daysInMonth_eq,
      if_neg (by omega), show ((month + 1 : Nat) : Int) - 3 = month - 3 + 1 by omega]
    split at length <;> split <;> omega

theorem toDays_year (year : Int) : toDays ⟨year + 1, 1, 1⟩ = toDays ⟨year, 12, 1⟩ + 31 := by
  rw [toDays_eq, toDays_eq]
  dsimp only
  rw [if_pos (by decide), if_pos (by decide), if_neg (by decide), if_neg (by decide),
    Int.add_sub_cancel]
  unfold daysBeforeMonth
  omega

/-- The next date is that of the next day. -/
theorem toDays_next (valid : d.isValid = true) : d.next.toDays = d.toDays + 1 := by
  obtain ⟨year, month, day⟩ := d
  obtain ⟨⟨first, last⟩, low, high⟩ := isValid_iff.1 valid
  dsimp only at first last low high
  have here := toDays_day year month day
  unfold next
  dsimp only
  split
  · have there := toDays_day year month (day + 1)
    omega
  · split
    · next early =>
      have there := toDays_month year first early
      omega
    · obtain rfl : month = 12 := by omega
      have there := toDays_year year
      have december : daysInMonth year 12 = 31 := rfl
      omega

/-- Every day falls on the date that is computed for it. -/
theorem falls_ofDays (n : Int) : Falls n (ofDays n) := by
  have next (n : Int) : ofDays (n + 1) = (ofDays n).next := by
    rw [← ofDays_toDays (isValid_next (isValid_ofDays n)), toDays_next (isValid_ofDays n),
      toDays_ofDays]
  induction n using Int.induction_on with
  | zero => exact .epoch
  | succ n ih =>
    rw [next]
    exact ih.next
  | pred n ih =>
    refine .previous (isValid_ofDays (-n - 1)) ?_
    rw [← next, Int.sub_add_cancel]
    exact ih

/-- The dates on which days fall are those that are computed. -/
theorem falls_iff {n : Int} : Falls n d ↔ d.isValid = true ∧ d.toDays = n := by
  constructor
  · intro falls
    induction falls with
    | epoch => exact ⟨rfl, rfl⟩
    | next before ih =>
      obtain ⟨valid, days⟩ := ih
      exact ⟨isValid_next valid, by rw [toDays_next valid, days]⟩
    | previous valid after ih =>
      obtain ⟨-, days⟩ := ih
      rw [toDays_next valid] at days
      exact ⟨valid, by omega⟩
  · rintro ⟨valid, rfl⟩
    rw [← ofDays_toDays valid, toDays_ofDays]
    exact falls_ofDays _

-- A century year that is a leap year, and one that is none.
example : ofDays 11016 = ⟨2000, 2, 29⟩ ∧ ofDays (-25509) = ⟨1900, 2, 28⟩ ∧
    (ofDays (-25509)).next = ⟨1900, 3, 1⟩ := by decide

end FederatedLogin.Time.Date
