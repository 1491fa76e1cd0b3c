import FederatedLogin.Proofs.Json.Tokens
import FederatedLogin.Proofs.Time.Addition
import FederatedLogin.Proofs.Time.Calendar
import FederatedLogin.Time.Rfc3339

/-!
# Written instants are read back

How an instant is written is said by a grammar (`Rfc3339`): the date on which its day falls, the
time of day, and as few thousands of digits of its part of a second as lose nothing. An instant is
written as a text of the grammar (`rfc3339_text`), and a text of the grammar is read as its instant
(`read?_of_rfc3339`), so that reading gives back what was written (`parse?_render`). Both ways go
through the text part by part.
-/

namespace FederatedLogin

namespace Text

variable {n m width : Nat} {ds cs rest : List Char}

/-! ## Numerals -/

/-- The text consists of digits that stand for the number. -/
structure Numeral (n : Nat) (ds : List Char) : Prop where
  digits : ∀ c ∈ ds, c.isDigit = true
  value : digitsValue ds = n

/-- A digit behind others counts once, and these ten times. -/
theorem digitsValue_concat (ds : List Char) (n : Nat) :
    digitsValue (ds ++ [digitChar n]) = 10 * digitsValue ds + n % 10 := by
  unfold digitsValue valueFrom
  rw [List.foldl_append, List.foldl_cons, List.foldl_nil, digitValue_digitChar]

/-- A numeral with one more digit stands for ten times as much, and the digit. -/
theorem Numeral.concat (h : Numeral n ds) (m : Nat) :
    Numeral (10 * n + m % 10) (ds ++ [digitChar m]) where
  digits := by
    intro c hc
    rcases List.mem_append.1 hc with hc | hc
    · exact h.digits c hc
    · rw [List.mem_singleton.1 hc]
      exact isDigit_digitChar m
  value := by rw [digitsValue_concat, h.value]

/-- A number is written in digits that stand for it. -/
theorem numeral_decimal (n : Nat) : Numeral n (decimal n) :=
  ⟨fun _ => isDigit_of_mem_decimal, digitsValue_decimal n⟩

/-- Zeros before a numeral do not count. -/
theorem Numeral.zeros (h : Numeral n ds) (k : Nat) : Numeral n (List.replicate k '0' ++ ds) := by
  induction k with
  | zero => exact h
  | succ k ih =>
    rw [List.replicate_succ, List.cons_append]
    refine ⟨List.forall_mem_cons.2 ⟨by decide, ih.digits⟩, ?_⟩
    exact ih.value

/-- Zeros in front of a number change nothing. -/
theorem numeral_padded (width n : Nat) : Numeral n (padded width n) :=
  (numeral_decimal n).zeros _

/-- A number is padded to a width, unless it is wider. -/
theorem length_padded (width n : Nat) :
    (padded width n).length = max width (decimal n).length := by
  unfold padded
  rw [List.length_append, List.length_replicate]
  omega

/-- A number has no more digits than its bound. -/
theorem length_decimal_le (width : Nat) (h : n < tenPow (width + 1)) :
    (decimal n).length ≤ width + 1 := by
  induction width generalizing n with
  | zero =>
    have small : n < 10 := h
    rw [decimal, if_pos small]
    exact Nat.le_refl 1
  | succ width ih =>
    rw [tenPow_succ] at h
    rw [decimal]
    split
    · exact Nat.le_add_left 1 (width + 1)
    · rw [List.length_append]
      exact Nat.add_le_add_right (ih (by omega)) 1

/-- A number that fits has the width to which it is padded. -/
theorem length_padded_of_lt (h : n < tenPow (width + 1)) :
    (padded (width + 1) n).length = width + 1 := by
  have short := length_decimal_le width h
  rw [length_padded]
  omega

/-- A number is written with enough digits. -/
theorem lt_tenPow_length (n : Nat) : n < tenPow (decimal n).length := by
  induction n using decimal.induct with
  | case1 n small =>
    rw [decimal, if_pos small]
    exact small
  | case2 n large ih =>
    rw [decimal, if_neg large, List.length_append, List.length_singleton, tenPow_succ]
    omega

/-- The numeral of a number that is not zero does not begin with a zero. -/
theorem head?_decimal (h : 0 < n) : (decimal n).head? ≠ some '0' := by
  induction n using decimal.induct with
  | case1 n small =>
    rw [decimal, if_pos small]
    have all : ∀ m < 10, 0 < m → digitChar m ≠ '0' := by decide
    exact fun zero => all n small h (Option.some.inj zero)
  | case2 n large ih =>
    have front := ih (by omega)
    rw [decimal, if_neg large]
    cases hd : decimal (n / 10) with
    | nil => exact absurd hd (decimal_ne_nil _)
    | cons c cs =>
      rw [hd] at front
      exact front

/-- What is longer than it has to be has no zeros before it. -/
theorem head?_padded (positive : 0 < n) (long : width < (decimal n).length) :
    (padded width n).head? ≠ some '0' := by
  have none : width - (decimal n).length = 0 := Nat.sub_eq_zero_of_le (Nat.le_of_lt long)
  simp only [padded, none, List.replicate_zero, List.nil_append]
  exact head?_decimal positive

/-- The last digits of a number stand for what is left of it. -/
theorem numeral_paddedDigits (width n : Nat) :
    Numeral (n % tenPow width) (paddedDigits width n) := by
  induction width generalizing n with
  | zero => exact ⟨nofun, (Nat.mod_one n).symm⟩
  | succ width ih =>
    have split : n % tenPow (width + 1) = 10 * (n / 10 % tenPow width) + n % 10 := by
      rw [tenPow_succ, Nat.mul_comm, Nat.mod_mul]
      omega
    rw [split]
    exact (ih (n / 10)).concat n

/-- The last digits of a number are as many as are asked for. -/
theorem length_paddedDigits (width n : Nat) : (paddedDigits width n).length = width := by
  induction width generalizing n with
  | zero => rfl
  | succ width ih => rw [paddedDigits, List.length_append, ih, List.length_singleton]

end Text

namespace Time

open Text

variable {n width : Nat} {ds rest : List Char}

/-! ## The grammar -/

/-- A year is written with four digits. Outside 0 to 9999 it has a sign, and more digits than four
only if it needs them. -/
inductive YearText : Int → List Char → Prop where
  | plain {n : Nat} {ds : List Char} (numeral : Numeral n ds) (four : ds.length = 4) :
      YearText n ds
  | late {n : Nat} {ds : List Char} (outside : 9999 < n) (numeral : Numeral n ds)
      (shortest : ds.head? ≠ some '0') : YearText n ('+' :: ds)
  | early {n : Nat} {ds : List Char} (outside : 0 < n) (numeral : Numeral n ds)
      (four : 4 ≤ ds.length) (shortest : 4 < ds.length → ds.head? ≠ some '0') :
      YearText (-n) ('-' :: ds)

/-- A part of a second, in nanoseconds, is written with 3, 6 or 9 digits behind a point, or left
out: with the fewest that lose nothing. -/
inductive SubsecondText (nanos : Nat) : List Char → Prop where
  | none (whole : nanos = 0) : SubsecondText nanos []
  | some {n : Nat} {ds : List Char} (thousands : ds.length ∈ [3, 6, 9]) (numeral : Numeral n ds)
      (exact : n * tenPow (9 - ds.length) = nanos)
      (fewest : ∀ k ∈ [0, 3, 6], k < ds.length → ¬ tenPow (9 - k) ∣ nanos) :
      SubsecondText nanos ('.' :: ds)

/-- An instant is written as the date on which its day falls and the time of that day, both in UTC.
A leap second is second 60 of its minute. -/
inductive Rfc3339 (t : Instant) : List Char → Prop where
  | intro {date : Date} {hour minute second : Nat}
      {years months days hours minutes seconds fraction : List Char}
      (day : Date.Falls (t.seconds / 86400) date)
      (time : t.seconds % 86400 = hour * 3600 + minute * 60 + second)
      (inDay : hour < 24 ∧ minute < 60 ∧ second < 60)
      (yearText : YearText date.year years)
      (monthText : Numeral date.month months ∧ months.length = 2)
      (dayText : Numeral date.day days ∧ days.length = 2)
      (hourText : Numeral hour hours ∧ hours.length = 2)
      (minuteText : Numeral minute minutes ∧ minutes.length = 2)
      (secondText : Numeral (second + t.nanos / nanosPerSecond) seconds ∧ seconds.length = 2)
      (fractionText : SubsecondText (t.nanos % nanosPerSecond) fraction) :
      Rfc3339 t (years ++ '-' :: months ++ '-' :: days ++ 'T' :: hours ++ ':' :: minutes
        ++ ':' :: seconds ++ fraction ++ ['Z'])

/-! ## Writing -/

/-- Years are written as they have to be. -/
theorem yearText_yearText (year : Int) : YearText year (yearText year) := by
  unfold yearText
  split
  · next inside =>
    obtain ⟨n, rfl⟩ := Int.eq_ofNat_of_zero_le inside.1
    have short : n < tenPow 4 := by
      have bound : tenPow 4 = 10000 := rfl
      omega
    exact .plain (numeral_padded 4 n) (length_padded_of_lt short)
  · next outside =>
    by_cases negative : year < 0
    · obtain ⟨n, rfl⟩ : ∃ n : Nat, year = -n := ⟨year.natAbs, by omega⟩
      rw [if_pos negative, Int.natAbs_neg, Int.natAbs_natCast]
      refine .early (by omega) (numeral_padded 4 n) ?_ ?_
      · rw [length_padded]
        exact Nat.le_max_left ..
      · intro long
        rw [length_padded] at long
        exact head?_padded (by omega) (by omega)
    · obtain ⟨n, rfl⟩ := Int.eq_ofNat_of_zero_le (Int.not_lt.1 negative)
      have large : 9999 < n := by omega
      have long : 4 < (decimal n).length := by
        refine Nat.lt_of_not_le fun short => ?_
        have small : tenPow (decimal n).length ≤ tenPow 4 := Nat.pow_le_pow_right (by decide) short
        have bound : tenPow 4 = 10000 := rfl
        have below := lt_tenPow_length n
        omega
      rw [if_neg negative, Int.natAbs_natCast]
      exact .late large (numeral_padded 4 n) (head?_padded (by omega) long)

/-- Numerals of two parts are pairs of numerals of the parts. -/
theorem tenPow_add (a b : Nat) : tenPow (a + b) = tenPow a * tenPow b := Nat.pow_add 10 a b

/-- A part of a second is written without the zeros at its end, if these are whole thousands. -/
theorem subsecondText_digits {nanos : Nat} (width : Nat) (thousands : width ∈ [3, 6, 9])
    (part : nanos < nanosPerSecond) (exact : tenPow (9 - width) ∣ nanos)
    (fewest : ∀ k ∈ [0, 3, 6], k < width → ¬ tenPow (9 - k) ∣ nanos) :
    SubsecondText nanos ('.' :: paddedDigits width (nanos / tenPow (9 - width))) := by
  have whole : nanosPerSecond = tenPow (9 - width) * tenPow width := by
    have le : width ≤ 9 := by
      simp only [List.mem_cons, List.not_mem_nil, or_false] at thousands
      omega
    rw [← tenPow_add, Nat.sub_add_cancel le]
    rfl
  have small : nanos / tenPow (9 - width) < tenPow width := by
    rw [whole] at part
    exact Nat.div_lt_of_lt_mul part
  have numeral := numeral_paddedDigits width (nanos / tenPow (9 - width))
  rw [Nat.mod_eq_of_lt small] at numeral
  refine .some ?_ numeral ?_ ?_
  · rw [length_paddedDigits]
    exact thousands
  · rw [length_paddedDigits]
    exact Nat.div_mul_cancel exact
  · rw [length_paddedDigits]
    exact fewest

/-- Parts of a second are written as they have to be. -/
theorem subsecondText_subsecondText {nanos : Nat} (part : nanos < nanosPerSecond) :
    SubsecondText nanos (subsecondText nanos) := by
  unfold subsecondText
  split
  · next whole => exact .none whole
  · next broken =>
    have noSecond : ¬ tenPow 9 ∣ nanos := fun divides =>
      broken (Nat.eq_zero_of_dvd_of_lt divides part)
    split
    · next millis =>
      refine subsecondText_digits 3 (by decide) part (Nat.dvd_of_mod_eq_zero millis) ?_
      intro k hk short
      obtain rfl : k = 0 := by
        simp only [List.mem_cons, List.not_mem_nil, or_false] at hk
        omega
      exact noSecond
    · next broken' =>
      have noMilli : ¬ tenPow 6 ∣ nanos := fun divides =>
        broken' (Nat.mod_eq_zero_of_dvd divides)
      split
      · next micros =>
        refine subsecondText_digits 6 (by decide) part (Nat.dvd_of_mod_eq_zero micros) ?_
        intro k hk short
        obtain rfl | rfl : k = 0 ∨ k = 3 := by
          simp only [List.mem_cons, List.not_mem_nil, or_false] at hk
          omega
        · exact noSecond
        · exact noMilli
      · next broken'' =>
        have noMicro : ¬ tenPow 3 ∣ nanos := fun divides =>
          broken'' (Nat.mod_eq_zero_of_dvd divides)
        have digits := subsecondText_digits 9 (by decide) part
          (Nat.one_dvd nanos) (by simp [noSecond, noMilli, noMicro])
        rwa [show nanos / tenPow (9 - 9) = nanos from Nat.div_one nanos] at digits

/-- A leap second comes after the last second of its minute only. -/
theorem Instant.leap_cases (t : Instant) :
    (t.nanos < nanosPerSecond ∧ t.nanos / nanosPerSecond = 0) ∨
      (¬ t.nanos < nanosPerSecond ∧ t.nanos / nanosPerSecond = 1 ∧ t.seconds % 60 = 59) := by
  have subsecond := t.isSubsecond
  simp only [Time.isSubsecond, Bool.or_eq_true, Bool.and_eq_true, decide_eq_true_eq] at subsecond
  unfold nanosPerSecond at *
  omega

/-- The months, the days and the parts of a time of day have two digits. -/
theorem twoDigits {n : Nat} (h : n < 100) : Numeral n (padded 2 n) ∧ (padded 2 n).length = 2 :=
  ⟨numeral_padded 2 n, length_padded_of_lt h⟩

/-- The month and the day of a date have two digits. -/
theorem Date.small_of_isValid {date : Date} (valid : date.isValid = true) :
    date.month < 100 ∧ date.day < 100 := by
  obtain ⟨⟨-, months⟩, -, days⟩ := Date.isValid_iff.1 valid
  have long : daysInMonth date.year date.month ≤ 31 := by
    unfold daysInMonth
    split <;> split <;> decide
  omega

/-- An instant is written as a text of the grammar. -/
theorem rfc3339_text (t : Instant) : Rfc3339 t t.text := by
  obtain ⟨months, days⟩ := Date.small_of_isValid (Date.isValid_ofDays (t.seconds / 86400))
  have nat : ((t.seconds % 86400).toNat : Int) = t.seconds % 86400 :=
    Int.toNat_of_nonneg (Int.emod_nonneg _ (by decide))
  have inDay : (t.seconds % 86400).toNat < 86400 := by omega
  have leap : (if t.nanos < nanosPerSecond then 0 else 1) = t.nanos / nanosPerSecond := by
    rcases t.leap_cases with ⟨none, whole⟩ | ⟨some, whole, -⟩
    · rw [if_pos none, whole]
    · rw [if_neg some, whole]
  have second : (t.seconds % 86400).toNat % 60 + t.nanos / nanosPerSecond < 100 := by
    rcases t.leap_cases with ⟨-, whole⟩ | ⟨-, whole, -⟩ <;> omega
  unfold Instant.text
  dsimp only
  rw [leap]
  have time : t.seconds % 86400 = ((t.seconds % 86400).toNat / 3600 : Nat) * 3600
      + ((t.seconds % 86400).toNat / 60 % 60 : Nat) * 60
      + ((t.seconds % 86400).toNat % 60 : Nat) := by omega
  exact .intro (Date.falls_ofDays (t.seconds / 86400)) time ⟨by omega, by omega, by omega⟩
    (yearText_yearText _) (twoDigits months)
    (twoDigits days) (twoDigits (by omega)) (twoDigits (by omega)) (twoDigits second)
    (subsecondText_subsecondText (Nat.mod_lt _ (by decide)))

/-! ## Reading -/

/-- A numeral is read up to what is no digit, or up to the last digit that counts. -/
theorem takeWhile_take_digits (digits : ∀ c ∈ ds, c.isDigit = true) (fits : ds.length ≤ width)
    (stop : ds.length = width ∨ Json.NoDigit rest) :
    ((ds ++ rest).take width).takeWhile Char.isDigit = ds := by
  rw [List.take_append, List.take_of_length_le fits, List.takeWhile_append_of_pos digits]
  refine List.append_right_eq_self.2 ?_
  rcases stop with full | stop
  · rw [full, Nat.sub_self, List.take_zero, List.takeWhile_nil]
  · cases rest with
    | nil => rw [List.take_nil, List.takeWhile_nil]
    | cons c rest =>
      have other : c.isDigit = false := stop c rfl
      cases width - ds.length with
      | zero => rfl
      | succ k => rw [List.take_succ_cons, List.takeWhile_cons_of_neg (by simp [other])]

/-- Digits are read as the number that they stand for, up to a width or to what is no digit. -/
theorem readNumber?_text (numeral : Numeral n ds) (some : ds ≠ []) (fits : ds.length ≤ width)
    (stop : ds.length = width ∨ Json.NoDigit rest) :
    readNumber? width (ds ++ rest) = .some (n, rest) := by
  unfold readNumber?
  rw [takeWhile_take_digits numeral.digits fits stop]
  dsimp only
  rw [if_neg some, numeral.value, List.drop_left]

/-- Without a bound, all digits are read. -/
theorem readNumber?_all (numeral : Numeral n ds) (some : ds ≠ []) (stop : Json.NoDigit rest) :
    readNumber? (ds ++ rest).length (ds ++ rest) = .some (n, rest) := by
  refine readNumber?_text numeral some ?_ (.inr stop)
  rw [List.length_append]
  exact Nat.le_add_right ..

/-- No digit is white space. -/
theorem isBlank_of_isDigit {c : Char} (h : c.isDigit = true) : isBlank c = false := by
  have small : c.toNat < 128 := by
    simp only [Char.isDigit, Bool.and_eq_true, decide_eq_true_eq] at h
    have le : c.toNat ≤ 57 := UInt32.le_iff_toNat_le.1 h.2
    omega
  exact forall_ascii (P := fun c => c.isDigit = true → isBlank c = false) (by decide +kernel)
    small h

/-- No space is cut off in front of digits. -/
theorem trimLeft_digits (digits : ∀ c ∈ ds, c.isDigit = true) (some : ds ≠ []) :
    trimLeft (ds ++ rest) = ds ++ rest := by
  cases ds with
  | nil => exact absurd rfl some
  | cons d ds =>
    exact trimLeft_cons_of_not_blank (isBlank_of_isDigit (digits d List.mem_cons_self)) _

theorem ne_nil_of_length {ds : List Char} {k : Nat} (h : ds.length = k + 1) : ds ≠ [] := by
  rintro rfl
  cases h

/-- Two digits are read as the number that they stand for. -/
theorem readTwo?_text (h : Numeral n ds ∧ ds.length = 2) :
    readTwo? (ds ++ rest) = some (n, rest) := by
  unfold readTwo?
  rw [trimLeft_digits h.1.digits (ne_nil_of_length h.2)]
  exact readNumber?_text h.1 (ne_nil_of_length h.2) (Nat.le_of_eq h.2) (.inl h.2)

/-- A mark is read where it stands. -/
theorem readMark?_cons {mark : Char} (h : isBlank mark = false) :
    readMark? mark (mark :: rest) = some rest := by
  unfold readMark?
  rw [trimLeft_cons_of_not_blank h]
  exact if_pos rfl

/-- A year behind a plus sign may have any number of digits. -/
theorem readYear?_plus (cs : List Char) : readYear? ('+' :: cs)
    = (readNumber? cs.length cs).map fun (n, cs) => ((n : Int), cs) := rfl

/-- A year behind a minus sign may have any number of digits. -/
theorem readYear?_minus (cs : List Char) : readYear? ('-' :: cs)
    = (readNumber? cs.length cs).map fun (n, cs) => (-(n : Int), cs) := rfl

/-- A year is read as it is written. -/
theorem readYear?_text {year : Int} {years : List Char} (h : YearText year years) :
    readYear? (years ++ '-' :: rest) = some (year, '-' :: rest) := by
  have stop : Json.NoDigit ('-' :: rest) := by
    intro c hc
    cases hc
    rfl
  cases h with
  | @plain n _ numeral four =>
    have some := ne_nil_of_length four
    have read : readNumber? 4 (years ++ '-' :: rest) = .some (n, '-' :: rest) :=
      readNumber?_text numeral some (Nat.le_of_eq four) (.inl four)
    have digit {c : Char} {cs : List Char} (h : years ++ '-' :: rest = c :: cs) :
        c.isDigit = true := numeral.digits c (Json.head_mem_of_append some h)
    unfold readYear?
    rw [trimLeft_digits numeral.digits some]
    split
    · next h => exact absurd (digit h) (by decide)
    · next h => exact absurd (digit h) (by decide)
    · rw [read]
      rfl
  | @late n ds outside numeral shortest =>
    have some : ds ≠ [] := by
      rintro rfl
      have zero : 0 = n := numeral.value
      omega
    rw [List.cons_append, readYear?_plus, readNumber?_all numeral some stop]
    rfl
  | @early n ds outside numeral four shortest =>
    have some : ds ≠ [] := by
      rintro rfl
      exact absurd four (by decide)
    rw [List.cons_append, readYear?_minus, readNumber?_all numeral some stop]
    rfl

/-- A part of a second is read as it is written. -/
theorem readSubsecond?_text {nanos : Nat} {fraction : List Char}
    (h : SubsecondText nanos fraction) :
    readSubsecond? (fraction ++ ['Z']) = some (nanos, ['Z']) := by
  cases h with
  | none whole =>
    rw [whole]
    rfl
  | @some n ds thousands numeral exact fewest =>
    have bounds : 0 < ds.length ∧ ds.length ≤ 9 := by
      simp only [List.mem_cons, List.not_mem_nil, or_false] at thousands
      omega
    have stop : Json.NoDigit ['Z'] := by
      intro c hc
      cases hc
      rfl
    have front := takeWhile_take_digits numeral.digits bounds.2 (.inr stop)
    rw [List.cons_append]
    unfold readSubsecond?
    simp only [front, if_neg (List.ne_nil_of_length_pos bounds.1), numeral.value, exact,
      List.drop_left]
    rfl

/-- A time of day on a date is the instant, if its day falls on that date. -/
theorem instantOf?_of_falls {t : Instant} {date : Date} {hour minute second : Nat}
    (day : Date.Falls (t.seconds / 86400) date)
    (time : t.seconds % 86400 = hour * 3600 + minute * 60 + second)
    (inDay : hour < 24 ∧ minute < 60 ∧ second < 60) :
    instantOf? date hour minute (second + t.nanos / nanosPerSecond) (t.nanos % nanosPerSecond) 0
      = some t := by
  obtain ⟨valid, days⟩ := Date.falls_iff.1 day
  obtain ⟨hours, minutes, seconds⟩ := inDay
  have here : Instant.of? (t.seconds - 0) t.nanos = some t :=
    Instant.of?_eq_some_iff.2 ⟨(Int.sub_zero _).symm, rfl⟩
  have whole : t.seconds = date.toDays * secondsPerDay + hour * 3600 + minute * 60 + second := by
    have day : (secondsPerDay : Int) = 86400 := rfl
    rw [day, days]
    omega
  unfold instantOf?
  rcases t.leap_cases with ⟨small, none⟩ | ⟨large, leap, last⟩
  · have guard : second + t.nanos / nanosPerSecond ≤ 60 := by omega
    have ordinary : second + t.nanos / nanosPerSecond ≠ 60 := by omega
    have shown : Instant.of? (date.toDays * secondsPerDay + hour * 3600 + minute * 60
        + (second + t.nanos / nanosPerSecond : Nat)) (t.nanos % nanosPerSecond) = some t := by
      rw [none, Nat.add_zero, ← whole, Nat.mod_eq_of_lt small]
      exact Instant.of?_eq_some_iff.2 ⟨rfl, rfl⟩
    rw [if_pos (by simp [valid, hours, minutes, guard, secondsPerDay])]
    dsimp only
    rw [if_neg ordinary, shown]
    exact here
  · have sixty : second + t.nanos / nanosPerSecond = 60 := by omega
    have shown : Instant.of? (date.toDays * secondsPerDay + hour * 3600 + minute * 60 + 59)
        (t.nanos % nanosPerSecond + nanosPerSecond) = some t := by
      refine Instant.of?_eq_some_iff.2 ⟨by omega, ?_⟩
      have parts := Nat.div_add_mod t.nanos nanosPerSecond
      rw [leap, Nat.mul_one] at parts
      omega
    rw [if_pos (by simp [valid, hours, minutes, sixty, secondsPerDay])]
    dsimp only
    rw [if_pos sixty, shown]
    exact here

/-- A text of the grammar is read as its instant. -/
theorem read?_of_rfc3339 {t : Instant} {cs : List Char} (h : Rfc3339 t cs) :
    Instant.read? cs = some t := by
  obtain ⟨day, time, inDay, years, months, days, hours, minutes, seconds, fraction⟩ := h
  simp only [List.append_assoc, List.cons_append]
  have hyphen : isBlank '-' = false := by decide
  have colon : isBlank ':' = false := by decide
  -- One step for each part of the text.
  refine Option.bind_eq_some_iff.2 ⟨_, readYear?_text years, ?_⟩
  refine Option.bind_eq_some_iff.2 ⟨_, readMark?_cons hyphen, ?_⟩
  refine Option.bind_eq_some_iff.2 ⟨_, readTwo?_text months, ?_⟩
  refine Option.bind_eq_some_iff.2 ⟨_, readMark?_cons hyphen, ?_⟩
  refine Option.bind_eq_some_iff.2 ⟨_, readTwo?_text days, ?_⟩
  refine (if_pos (Or.inl rfl)).trans (Option.bind_eq_some_iff.2 ⟨_, rfl, ?_⟩)
  refine Option.bind_eq_some_iff.2 ⟨_, readTwo?_text hours, ?_⟩
  refine Option.bind_eq_some_iff.2 ⟨_, readMark?_cons colon, ?_⟩
  refine Option.bind_eq_some_iff.2 ⟨_, readTwo?_text minutes, ?_⟩
  refine Option.bind_eq_some_iff.2 ⟨_, readMark?_cons colon, ?_⟩
  refine Option.bind_eq_some_iff.2 ⟨_, readTwo?_text seconds, ?_⟩
  refine Option.bind_eq_some_iff.2 ⟨_, readSubsecond?_text fraction, ?_⟩
  exact instantOf?_of_falls day time inDay

/-- What was written is read as the instant that was written. -/
theorem Instant.parse?_render (t : Instant) : Instant.parse? t.render = some t := by
  unfold Instant.parse? Instant.render
  rw [String.toList_ofList]
  exact read?_of_rfc3339 (rfc3339_text t)

end Time
end FederatedLogin
