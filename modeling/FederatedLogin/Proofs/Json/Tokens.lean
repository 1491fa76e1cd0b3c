import FederatedLogin.Proofs.Json.Grammar
import FederatedLogin.Proofs.Uuid
import Mathlib.Data.List.TakeDrop

/-!
# Reading strings and numbers

Strings and number literals are read as the grammar says. An escape is read exactly if it is one
(`readEscape_text`, `characterText_of_readEscape`), so that a string is taken off the front of every
text that begins with it (`readString_text`), and nothing else is
(`charactersText_of_readString`). A number literal ends at space, a comma or a closing bracket
(`Delimited`), where its reader stops (`read?_text`, `numberText_of_read?`).
-/

namespace FederatedLogin.Json

open Text

/-- A reader that goes on with what another one read succeeds exactly if both do. -/
theorem bind_eq_ok_iff {ε α β : Type} {x : Except ε α} {f : α → Except ε β} {b : β} :
    x >>= f = .ok b ↔ ∃ a, x = .ok a ∧ f a = .ok b := by
  cases x with
  | error e => exact ⟨nofun, nofun⟩
  | ok a =>
    constructor
    · intro h
      exact ⟨a, rfl, h⟩
    · rintro ⟨_, ⟨⟩, h⟩
      exact h

/-! ## Strings -/

/-- A code unit is written with four digits. -/
theorem UnitText.length_eq {n : Nat} {cs : List Char} (h : UnitText n cs) : cs.length = 4 := by
  have lengths := congrArg List.length h.1
  rwa [List.length_map, length_hexDigits] at lengths

/-- A code unit is written as any four digits of its number. -/
theorem unitText_iff {n : Nat} {cs : List Char} :
    UnitText n cs ↔ cs.length = 4 ∧ hexNumber? cs = some n := by
  constructor
  · intro h
    refine ⟨h.length_eq, hexNumber?_eq_some_iff.2 ?_⟩
    rw [h.length_eq]
    exact h
  · rintro ⟨length, number⟩
    have digits := hexNumber?_eq_some_iff.1 number
    rw [length] at digits
    exact digits

/-- Just the texts of code units are read as such. -/
theorem readCodeUnit_eq_ok_iff {cs rest : List Char} {n : Nat} :
    readCodeUnit cs = .ok (n, rest) ↔ ∃ digits, UnitText n digits ∧ cs = digits ++ rest := by
  constructor
  · intro h
    unfold readCodeUnit at h
    split at h
    · next a b c d cs =>
      split at h
      · next number =>
        cases h
        exact ⟨[a, b, c, d], unitText_iff.2 ⟨rfl, number⟩, rfl⟩
      · cases h
    · cases h
  · rintro ⟨digits, h, rfl⟩
    obtain ⟨length, number⟩ := unitText_iff.1 h
    match digits, length with
    | [a, b, c, d], _ => simp only [List.cons_append, List.nil_append, readCodeUnit, number]

/-- The letters behind a backslash are those that the reader knows, and no `u`. -/
theorem mem_escapeLetters_iff {letter c : Char} :
    (letter, c) ∈ escapeLetters ↔ letter ≠ 'u' ∧ unescapeLetter? letter = some c := by
  constructor
  · intro h
    simp only [escapeLetters, List.mem_cons, Prod.mk.injEq, List.not_mem_nil, or_false] at h
    rcases h with ⟨rfl, rfl⟩ | ⟨rfl, rfl⟩ | ⟨rfl, rfl⟩ | ⟨rfl, rfl⟩ | ⟨rfl, rfl⟩ | ⟨rfl, rfl⟩ |
      ⟨rfl, rfl⟩ | ⟨rfl, rfl⟩
    all_goals decide
  · rintro ⟨-, h⟩
    unfold unescapeLetter? at h
    split at h
    · next same =>
      cases h
      rcases same with rfl | rfl | rfl <;> decide
    · -- Each of the five other letters is one case.
      repeat' split at h
      all_goals cases h
      all_goals subst_vars; decide

/-- The number of a character is not that of half a surrogate pair. -/
theorem not_surrogate (c : Char) : ¬ (0xD800 ≤ c.toNat ∧ c.toNat ≤ 0xDFFF) := by
  rcases c.valid with low | high
  · have : c.toNat < 0xD800 := low
    omega
  · have : 0xDFFF < c.toNat := high.1
    omega

theorem toNat_ofNat {n : Nat} (h : n.isValidChar) : (Char.ofNat n).toNat = n := by
  rw [Char.ofNat, dif_pos h]
  rfl

/-- Just the texts of second halves are read behind a first half, and the two give one character. -/
theorem readLowSurrogate_eq_ok_iff {high : Nat} (inRange : high < 0x400) {cs rest : List Char}
    {c : Char} : readLowSurrogate (0xD800 + high) cs = .ok (c, rest) ↔
      ∃ low digits, low < 0x400 ∧ c.toNat = 0x10000 + high * 0x400 + low ∧
        UnitText (0xDC00 + low) digits ∧ cs = '\\' :: 'u' :: (digits ++ rest) := by
  have valid {low : Nat} (h : low < 0x400) :
      (Char.ofNat (0x10000 + high * 0x400 + low)).toNat = 0x10000 + high * 0x400 + low :=
    toNat_ofNat (Or.inr ⟨by omega, by omega⟩)
  constructor
  · intro h
    unfold readLowSurrogate at h
    split at h
    · next cs =>
      obtain ⟨⟨n, cs'⟩, hn, goesOn⟩ := bind_eq_ok_iff.1 h
      obtain ⟨digits, unit, rfl⟩ := readCodeUnit_eq_ok_iff.1 hn
      dsimp only at goesOn
      split at goesOn
      · next isLow =>
        obtain ⟨rfl, rfl⟩ := Prod.mk.inj (Except.ok.inj goesOn)
        have sum : 0xDC00 + (n - 0xDC00) = n := by omega
        have low : n - 0xDC00 < 0x400 := by omega
        refine ⟨n - 0xDC00, digits, low, ?_, by rw [sum]; exact unit, rfl⟩
        rw [Nat.add_sub_cancel_left]
        exact valid low
      · cases goesOn
    · cases h
  · rintro ⟨low, digits, isLow, value, unit, rfl⟩
    refine bind_eq_ok_iff.2 ⟨_, readCodeUnit_eq_ok_iff.2 ⟨digits, unit, rfl⟩, ?_⟩
    dsimp only
    rw [if_pos ⟨by omega, by omega⟩, Nat.add_sub_cancel_left, Nat.add_sub_cancel_left, ← value,
      Char.ofNat_toNat]

/-- What stands for a character behind a backslash is read as it. -/
theorem readEscape_text {c : Char} {text : List Char} (h : CharacterText c ('\\' :: text))
    (rest : List Char) : readEscape .keep (text ++ rest) = .ok (c, rest) := by
  cases h with
  | plain _ backslash _ => exact absurd rfl backslash
  | @letter letter _ h =>
    obtain ⟨notU, stands⟩ := mem_escapeLetters_iff.1 h
    show readEscape .keep (letter :: rest) = _
    unfold readEscape
    split
    · next h => exact absurd (List.cons.inj h).1 notU
    · next h =>
      obtain ⟨rfl, rfl⟩ := List.cons.inj h
      rw [stands]
    · next h => cases h
  | unit h =>
    refine bind_eq_ok_iff.2 ⟨_, readCodeUnit_eq_ok_iff.2 ⟨_, h, rfl⟩, ?_⟩
    dsimp only
    rw [if_neg (not_surrogate c), Char.ofNat_toNat]
  | @pair _ high low first second inRange value h h' =>
    rw [List.cons_append, List.append_assoc]
    refine bind_eq_ok_iff.2 ⟨_, readCodeUnit_eq_ok_iff.2 ⟨_, h, rfl⟩, ?_⟩
    dsimp only
    rw [if_pos ⟨by omega, by omega⟩, if_pos (by omega)]
    exact (readLowSurrogate_eq_ok_iff inRange.1).2 ⟨low, second, inRange.2, value, h', rfl⟩

/-- A code unit that is no half of a pair stands for its character. -/
theorem characterText_of_unit {n : Nat} {digits : List Char} (unit : UnitText n digits)
    (plain : ¬ (0xD800 ≤ n ∧ n ≤ 0xDFFF)) :
    CharacterText (Char.ofNat n) ('\\' :: 'u' :: digits) := by
  have number : (Char.ofNat n).toNat = n := by
    refine toNat_ofNat ?_
    have small : n < 0x10000 := unit.2
    rcases Nat.lt_or_ge n 0xD800 with low | high
    · exact Or.inl low
    · exact Or.inr ⟨by omega, by omega⟩
  exact .unit (by rw [number]; exact unit)

/-- What is read as a character behind a backslash stands for it. -/
theorem characterText_of_readEscape {cs rest : List Char} {c : Char}
    (h : readEscape .keep cs = .ok (c, rest)) :
    ∃ text, CharacterText c ('\\' :: text) ∧ cs = text ++ rest := by
  unfold readEscape at h
  split at h
  · next cs =>
    obtain ⟨⟨n, cs'⟩, hn, goesOn⟩ := bind_eq_ok_iff.1 h
    obtain ⟨digits, unit, rfl⟩ := readCodeUnit_eq_ok_iff.1 hn
    dsimp only at goesOn
    split at goesOn
    · next surrogate =>
      split at goesOn
      · -- The first half of a pair, which the second one has to follow.
        next isHigh =>
        have sum : 0xD800 + (n - 0xD800) = n := by omega
        have high : n - 0xD800 < 0x400 := by omega
        rw [← sum] at goesOn unit
        obtain ⟨low, digits', isLow, value, unit', rfl⟩ :=
          (readLowSurrogate_eq_ok_iff high).1 goesOn
        refine ⟨_, .pair ⟨high, isLow⟩ value unit unit', ?_⟩
        simp
      · cases goesOn
    · next plain =>
      cases goesOn
      exact ⟨'u' :: digits, characterText_of_unit unit plain, rfl⟩
  · next letter _ notU =>
    split at h
    · next d stands =>
      cases h
      exact ⟨[letter], .letter (mem_escapeLetters_iff.2 ⟨notU, stands⟩), rfl⟩
    · cases h
  · cases h

/-- A text of a character is the character itself, or begins with a backslash. -/
theorem CharacterText.plain_or_escape {c : Char} {cs : List Char} (h : CharacterText c cs) :
    (cs = [c] ∧ c ≠ '"' ∧ c ≠ '\\' ∧ 0x20 ≤ c.toNat) ∨ ∃ text, cs = '\\' :: text := by
  cases h with
  | plain quote backslash control => exact Or.inl ⟨rfl, quote, backslash, control⟩
  | letter _ => exact Or.inr ⟨_, rfl⟩
  | unit _ => exact Or.inr ⟨_, rfl⟩
  | pair _ _ _ _ => exact Or.inr ⟨_, rfl⟩

/-- A character that is written, by itself or escaped, is read as one. -/
theorem readCharacters_character {c : Char} {text : List Char} (h : CharacterText c text)
    (bound : Nat) (before rest : List Char) :
    readCharacters .keep (bound + 1) before (text ++ rest)
      = readCharacters .keep bound (c :: before) rest := by
  rcases h.plain_or_escape with ⟨rfl, quote, backslash, control⟩ | ⟨text, rfl⟩
  · rw [List.cons_append, List.nil_append, readCharacters, if_neg quote, if_neg backslash,
      if_neg (Nat.not_lt.2 control)]
  · rw [List.cons_append, readCharacters, if_neg (by decide), if_pos rfl, readEscape_text h]
    rfl

/-- Characters are read up to the closing quote. -/
theorem readCharacters_characters {s text : List Char} (h : CharactersText s text)
    (before rest : List Char) (extra : Nat) :
    readCharacters .keep (s.length + 1 + extra) before (text ++ '"' :: rest)
      = .ok (String.ofList (before.reverse ++ s), rest) := by
  induction h generalizing before with
  | nil =>
    rw [List.length_nil, Nat.zero_add, Nat.add_comm, List.nil_append, readCharacters, if_pos rfl,
      List.append_nil]
  | @cons c s a b first _ ih =>
    have bound : (c :: s).length + 1 + extra = s.length + 1 + extra + 1 := by
      rw [List.length_cons]
      omega
    rw [bound, List.append_assoc, readCharacters_character first, ih, List.reverse_cons,
      List.append_assoc]
    rfl

/-- Every character takes one at least to be written. -/
theorem CharactersText.length_le {s text : List Char} (h : CharactersText s text) :
    s.length ≤ text.length := by
  induction h with
  | nil => exact Nat.le_refl _
  | @cons c s a b first _ ih =>
    have one : 1 ≤ a.length := by
      rcases first.plain_or_escape with ⟨rfl, -⟩ | ⟨text, rfl⟩
      · exact Nat.le_refl _
      · exact Nat.succ_pos _
    rw [List.length_cons, List.length_append]
    omega

/-- A string is taken off the front of every text that goes on with it behind a quote. -/
theorem readString_text {s : String} {text : List Char} (h : CharactersText s.toList text)
    (rest : List Char) : readString .keep (text ++ '"' :: rest) = .ok (s, rest) := by
  -- The reader is bounded by the length of the text, which no string exceeds.
  obtain ⟨extra, bound⟩ : ∃ extra, (text ++ '"' :: rest).length + 1
      = s.toList.length + 1 + extra := by
    have := h.length_le
    refine ⟨(text ++ '"' :: rest).length - s.toList.length, ?_⟩
    rw [List.length_append]
    omega
  unfold readString
  rw [bound, readCharacters_characters h, List.reverse_nil, List.nil_append, String.ofList_toList]

/-- What is read as characters is written like them, and a quote closes it. -/
theorem charactersText_of_readCharacters {bound : Nat} {before cs rest : List Char} {t : String}
    (h : readCharacters .keep bound before cs = .ok (t, rest)) :
    ∃ s text, CharactersText s text ∧ cs = text ++ '"' :: rest ∧
      t = String.ofList (before.reverse ++ s) := by
  induction bound generalizing before cs with
  | zero => cases h
  | succ bound ih =>
    -- What one character adds to the text after it.
    have step {c : Char} {a cs' : List Char} (first : CharacterText c a)
        (h : readCharacters .keep bound (c :: before) cs' = .ok (t, rest)) :
        ∃ s text, CharactersText s text ∧ a ++ cs' = text ++ '"' :: rest ∧
          t = String.ofList (before.reverse ++ s) := by
      obtain ⟨s, text, chars, rfl, rfl⟩ := ih h
      refine ⟨c :: s, a ++ text, .cons first chars, (List.append_assoc ..).symm, ?_⟩
      rw [List.reverse_cons, List.append_assoc]
      rfl
    cases cs with
    | nil => cases h
    | cons c cs =>
      rw [readCharacters] at h
      split at h
      · next quote =>
        cases h
        exact ⟨[], [], .nil, by rw [quote]; rfl, by rw [List.append_nil]⟩
      · next quote =>
        split at h
        · next backslash =>
          obtain ⟨⟨d, cs'⟩, hd, goesOn⟩ := bind_eq_ok_iff.1 h
          obtain ⟨a, escape, rfl⟩ := characterText_of_readEscape hd
          rw [backslash]
          exact step escape goesOn
        · next backslash =>
          split at h
          · cases h
          · next control => exact step (.plain quote backslash (Nat.not_lt.1 control)) h

/-- What is read behind a quote is a string. -/
theorem charactersText_of_readString {s : String} {cs rest : List Char}
    (h : readString .keep cs = .ok (s, rest)) :
    ∃ text, CharactersText s.toList text ∧ cs = text ++ '"' :: rest := by
  obtain ⟨t, text, chars, whole, rfl⟩ := charactersText_of_readCharacters h
  refine ⟨text, ?_, whole⟩
  rw [List.reverse_nil, List.nil_append, String.toList_ofList]
  exact chars

/-! ## Numbers -/

/-- Where a token ends that nothing marks the end of: at space, a comma, or a closing bracket. -/
def Delimited (cs : List Char) : Prop :=
  ∀ c ∈ cs.head?, isSpace c = true ∨ c = ',' ∨ c = ']' ∨ c = '}'

/-- The text does not go on with a digit. -/
def NoDigit (cs : List Char) : Prop := ∀ c ∈ cs.head?, c.isDigit = false

/-- What ends a number does not begin with a digit. -/
theorem Delimited.noDigit {cs : List Char} (h : Delimited cs) : NoDigit cs := by
  intro c hc
  have space : ∀ d ∈ [' ', '\n', '\t', '\r', ',', ']', '}'], d.isDigit = false :=
    Text.forall_mem_of_all (by decide)
  refine space c ?_
  have ends := h c hc
  simp only [isSpace, Bool.or_eq_true, decide_eq_true_eq, or_assoc] at ends
  simpa only [List.mem_cons, List.not_mem_nil, or_false] using ends

/-- The digits in front of a text are those up to the first character that is none. -/
theorem span_digits {ds rest : List Char} (digits : ∀ c ∈ ds, c.isDigit = true)
    (stop : NoDigit rest) : (ds ++ rest).span Char.isDigit = (ds, rest) := by
  rw [List.span_eq_takeWhile_dropWhile, List.takeWhile_append_of_pos digits,
    List.dropWhile_append_of_pos digits]
  cases rest with
  | nil => simp
  | cons c rest =>
    have other : c.isDigit = false := stop c rfl
    simp [other]

/-- Digits are read as far as they go. -/
theorem of_span_digits {cs ds rest : List Char} (h : cs.span Char.isDigit = (ds, rest)) :
    cs = ds ++ rest ∧ ∀ c ∈ ds, c.isDigit = true := by
  rw [List.span_eq_takeWhile_dropWhile] at h
  cases h
  exact ⟨List.takeWhile_append_dropWhile.symm, List.all_eq_true.1 List.all_takeWhile⟩

/-- The first character of what begins with a text that is not empty belongs to that text. -/
theorem head_mem_of_append {ds rest cs : List Char} {c : Char} (some : ds ≠ [])
    (h : ds ++ rest = c :: cs) : c ∈ ds := by
  cases ds with
  | nil => exact absurd rfl some
  | cons d ds =>
    rw [List.cons_append] at h
    rw [(List.cons.inj h).1]
    exact List.mem_cons_self

namespace Number

/-- The digits of a whole number are read up to the next character. -/
theorem readWhole?_text {ds rest : List Char} (h : Whole ds) (stop : NoDigit rest) :
    readWhole? (ds ++ rest) = some (ds, rest) := by
  obtain ⟨⟨some, digits⟩, zero⟩ := h
  unfold readWhole?
  rw [span_digits digits stop]
  split
  · next h =>
    cases h
    exact absurd rfl some
  · next h =>
    cases h
    exact absurd (zero rfl) (by simp)
  · next h =>
    cases h
    rfl

/-- What is read as a whole number is written like one. -/
theorem whole_of_readWhole? {cs ds rest : List Char} (h : readWhole? cs = some (ds, rest)) :
    Whole ds ∧ cs = ds ++ rest := by
  unfold readWhole? at h
  split at h
  · cases h
  · cases h
  · next ds' rest' notEmpty noZero span =>
    cases h
    obtain ⟨whole, digits⟩ := of_span_digits span
    refine ⟨⟨⟨?_, digits⟩, ?_⟩, whole⟩
    · rintro rfl
      exact notEmpty rfl
    · intro first
      obtain ⟨others, rfl⟩ := List.head?_eq_some_iff.1 first
      cases others with
      | nil => rfl
      | cons c cs => exact absurd rfl (noZero c cs)

/-- The digits behind a point are read up to the next character. -/
theorem readDecimals?_text {ds text rest : List Char} (h : DecimalsText ds text)
    (stop : NoDigit rest) (noPoint : '.' ∉ rest.head?) :
    readDecimals? (text ++ rest) = some (ds, rest) := by
  cases h with
  | none =>
    unfold readDecimals?
    rw [List.nil_append]
    split
    · exact absurd rfl noPoint
    · rfl
  | digits h =>
    rw [List.cons_append]
    simp only [readDecimals?, span_digits h.2 stop]
    split
    · next h' =>
      cases h'
      exact absurd rfl h.1
    · next h' =>
      cases h'
      rfl

/-- What is read behind a point is written like it. -/
theorem decimalsText_of_readDecimals? {cs ds rest : List Char}
    (h : readDecimals? cs = some (ds, rest)) :
    ∃ text, DecimalsText ds text ∧ cs = text ++ rest := by
  unfold readDecimals? at h
  split at h
  · next cs =>
    split at h
    · cases h
    · next ds' rest' notEmpty span =>
      cases h
      obtain ⟨rfl, digits⟩ := of_span_digits span
      refine ⟨'.' :: ds, .digits ⟨?_, digits⟩, rfl⟩
      rintro rfl
      exact notEmpty rfl
  · cases h
    exact ⟨[], .none, rfl⟩

/-- Reads the digits of a power of ten. -/
def exponentDigits? (below : Bool) (cs : List Char) :
    Option (Option (Bool × List Char) × List Char) :=
  match cs.span Char.isDigit with
  | ([], _) => none
  | (digits, rest) => some (some (below, digits), rest)

/-- The digits of a power of ten are read up to the next character. -/
theorem exponentDigits?_text {ds rest : List Char} (h : Digits ds) (stop : NoDigit rest)
    (below : Bool) : exponentDigits? below (ds ++ rest) = some (some (below, ds), rest) := by
  unfold exponentDigits?
  rw [span_digits h.2 stop]
  split
  · next h' =>
    cases h'
    exact absurd rfl h.1
  · next h' =>
    cases h'
    rfl

/-- What is read as the digits of a power of ten are digits. -/
theorem digits_of_exponentDigits? {below : Bool} {cs rest : List Char}
    {x : Option (Bool × List Char)} (h : exponentDigits? below cs = some (x, rest)) :
    ∃ ds, Digits ds ∧ x = some (below, ds) ∧ cs = ds ++ rest := by
  unfold exponentDigits? at h
  split at h
  · cases h
  · next ds _ notEmpty span =>
    cases h
    obtain ⟨rfl, digits⟩ := of_span_digits span
    refine ⟨ds, ⟨?_, digits⟩, rfl, rfl⟩
    rintro rfl
    exact notEmpty rfl

/-- Behind the letter comes a sign, or none, and then the digits. -/
theorem readExponent?_cons {e : Char} (he : e = 'e' ∨ e = 'E') (cs : List Char) :
    readExponent? (e :: cs) =
      match cs with
      | '-' :: cs => exponentDigits? true cs
      | '+' :: cs => exponentDigits? false cs
      | cs => exponentDigits? false cs := if_pos he

/-- A power of ten is read up to the next character. -/
theorem readExponent?_text {x : Option (Bool × List Char)} {text rest : List Char}
    (h : ExponentText x text) (stop : NoDigit rest)
    (noPower : ∀ c ∈ rest.head?, ¬ (c = 'e' ∨ c = 'E')) :
    readExponent? (text ++ rest) = some (x, rest) := by
  cases h with
  | none =>
    rw [List.nil_append]
    cases rest with
    | nil => rfl
    | cons c rest => exact if_neg (noPower c rfl)
  | below he h =>
    rw [List.cons_append, readExponent?_cons he]
    exact exponentDigits?_text h stop true
  | @above e sign ds he hs h =>
    rw [List.cons_append, readExponent?_cons he]
    rcases hs with rfl | rfl
    · -- The digits do not begin with a sign.
      rw [List.nil_append]
      split
      · next h' => exact absurd (h.2 '-' (head_mem_of_append h.1 h')) (by decide)
      · next h' => exact absurd (h.2 '+' (head_mem_of_append h.1 h')) (by decide)
      · exact exponentDigits?_text h stop false
    · exact exponentDigits?_text h stop false

/-- What is read as a power of ten is written like one. -/
theorem exponentText_of_readExponent? {x : Option (Bool × List Char)} {cs rest : List Char}
    (h : readExponent? cs = some (x, rest)) : ∃ text, ExponentText x text ∧ cs = text ++ rest := by
  cases cs with
  | nil =>
    cases h
    exact ⟨[], .none, rfl⟩
  | cons e cs =>
    by_cases he : e = 'e' ∨ e = 'E'
    · rw [readExponent?_cons he] at h
      split at h
      · obtain ⟨ds, digits, rfl, rfl⟩ := digits_of_exponentDigits? h
        exact ⟨e :: '-' :: ds, .below he digits, rfl⟩
      · obtain ⟨ds, digits, rfl, rfl⟩ := digits_of_exponentDigits? h
        exact ⟨e :: '+' :: ds, .above he (Or.inr rfl) digits, rfl⟩
      · obtain ⟨ds, digits, rfl, rfl⟩ := digits_of_exponentDigits? h
        exact ⟨e :: ds, .above he (Or.inl rfl) digits, rfl⟩
    · have none : readExponent? (e :: cs) = some (none, e :: cs) := if_neg he
      rw [none] at h
      cases h
      exact ⟨[], .none, rfl⟩

/-- A power of ten, or what follows a number, begins neither with a digit nor with a point. -/
theorem head_exponent {x : Option (Bool × List Char)} {text rest : List Char}
    (h : ExponentText x text) (ends : Delimited rest) :
    NoDigit (text ++ rest) ∧ '.' ∉ (text ++ rest).head? := by
  cases h with
  | none => exact ⟨ends.noDigit, fun point => absurd (ends '.' point) (by decide)⟩
  | below he _ => rcases he with rfl | rfl <;> exact ⟨by rintro _ ⟨⟩; rfl, by simp⟩
  | above he _ _ => rcases he with rfl | rfl <;> exact ⟨by rintro _ ⟨⟩; rfl, by simp⟩

/-- Behind the whole digits comes no digit, whether there are decimals or not. -/
theorem noDigit_decimals {ds text rest : List Char} (h : DecimalsText ds text)
    (stop : NoDigit rest) : NoDigit (text ++ rest) := by
  cases h with
  | none => exact stop
  | digits _ =>
    rintro _ ⟨⟩
    rfl

/-- Reads what follows the sign of a literal. -/
def readParts? (negative : Bool) (cs : List Char) : Option (Number × List Char) := do
  let (whole, cs) ← readWhole? cs
  let (decimals, cs) ← readDecimals? cs
  let (exponent, cs) ← readExponent? cs
  some (⟨negative, whole, decimals, exponent⟩, cs)

/-- A number is read part by part. -/
theorem readParts?_eq_some_iff {negative : Bool} {cs rest : List Char} {n : Number} :
    readParts? negative cs = some (n, rest) ↔ ∃ cs₁ cs₂, readWhole? cs = some (n.whole, cs₁) ∧
      readDecimals? cs₁ = some (n.decimals, cs₂) ∧ readExponent? cs₂ = some (n.exponent, rest) ∧
      n.negative = negative := by
  obtain ⟨sign, whole, decimals, exponent⟩ := n
  constructor
  · intro h
    obtain ⟨⟨whole, cs₁⟩, hw, h⟩ := Option.bind_eq_some_iff.1 h
    obtain ⟨⟨decimals, cs₂⟩, hd, h⟩ := Option.bind_eq_some_iff.1 h
    obtain ⟨⟨exponent, cs₃⟩, he, h⟩ := Option.bind_eq_some_iff.1 h
    cases h
    exact ⟨cs₁, cs₂, hw, hd, he, rfl⟩
  · rintro ⟨cs₁, cs₂, hw, hd, he, rfl⟩
    unfold readParts?
    rw [hw]
    show (readDecimals? cs₁ >>= _) = _
    rw [hd]
    show (readExponent? cs₂ >>= _) = _
    rw [he]
    rfl

/-- A minus sign makes a number negative. -/
theorem read?_of_minus (cs : List Char) : read? ('-' :: cs) = readParts? true cs := rfl

/-- Without a minus sign a number is not negative. -/
theorem read?_of_not_minus {cs : List Char} (h : '-' ∉ cs.head?) :
    read? cs = readParts? false cs := by
  unfold read?
  split
  next sign =>
    split at sign
    · exact absurd rfl h
    · cases sign
      rfl

/-- A number literal is taken off the front of a text if it ends there. -/
theorem read?_text {n : Number} {text rest : List Char} (h : NumberText n text)
    (ends : Delimited rest) : read? (text ++ rest) = some (n, rest) := by
  obtain @⟨n, decimals, exponent, whole, hd, he⟩ := h
  obtain ⟨noDigit, noPoint⟩ := head_exponent he ends
  have noPower : ∀ c ∈ rest.head?, ¬ (c = 'e' ∨ c = 'E') := by
    rintro c hc (rfl | rfl)
    · exact absurd (ends 'e' hc) (by decide)
    · exact absurd (ends 'E' hc) (by decide)
  have parts : readParts? n.negative (n.whole ++ (decimals ++ (exponent ++ rest)))
      = some (n, rest) :=
    readParts?_eq_some_iff.2 ⟨_, _, readWhole?_text whole (noDigit_decimals hd noDigit),
      readDecimals?_text hd noDigit noPoint, readExponent?_text he ends.noDigit noPower, rfl⟩
  simp only [List.append_assoc]
  cases negative : n.negative with
  | true =>
    rw [negative] at parts
    exact (read?_of_minus _).trans parts
  | false =>
    rw [negative] at parts
    rw [if_neg Bool.false_ne_true, List.nil_append]
    refine (read?_of_not_minus fun minus => ?_).trans parts
    obtain ⟨cs, starts⟩ := List.head?_eq_some_iff.1 minus
    exact absurd (whole.1.2 '-' (head_mem_of_append whole.1.1 starts)) (by decide)

/-- What is read as a number is a literal. -/
theorem numberText_of_read? {n : Number} {cs rest : List Char} (h : read? cs = some (n, rest)) :
    ∃ text, NumberText n text ∧ cs = text ++ rest := by
  have parts {negative : Bool} {cs : List Char} (h : readParts? negative cs = some (n, rest)) :
      ∃ text, NumberText n ((if negative then ['-'] else []) ++ text) ∧ cs = text ++ rest := by
    obtain ⟨cs₁, cs₂, hw, hd, he, rfl⟩ := readParts?_eq_some_iff.1 h
    obtain ⟨whole, rfl⟩ := whole_of_readWhole? hw
    obtain ⟨decimals, pointed, rfl⟩ := decimalsText_of_readDecimals? hd
    obtain ⟨exponent, power, rfl⟩ := exponentText_of_readExponent? he
    exact ⟨_, .intro whole pointed power, by simp only [List.append_assoc]⟩
  by_cases minus : '-' ∈ cs.head?
  · obtain ⟨cs, rfl⟩ := List.head?_eq_some_iff.1 minus
    rw [read?_of_minus] at h
    obtain ⟨text, number, rfl⟩ := parts h
    exact ⟨_, number, rfl⟩
  · rw [read?_of_not_minus minus] at h
    obtain ⟨text, number, rfl⟩ := parts h
    exact ⟨_, number, rfl⟩

/-- A literal begins with a sign or a digit. -/
theorem head_number {n : Number} {text : List Char} (h : NumberText n text) :
    ∃ c cs, text = c :: cs ∧ (c = '-' ∨ c.isDigit = true) := by
  obtain @⟨n, decimals, exponent, ⟨⟨some, digits⟩, -⟩, -, -⟩ := h
  cases n.negative with
  | true => exact ⟨'-', _, rfl, Or.inl rfl⟩
  | false =>
    obtain ⟨c, cs, whole⟩ := List.exists_cons_of_ne_nil some
    refine ⟨c, cs ++ (decimals ++ exponent), ?_, Or.inr (digits c (whole ▸ List.mem_cons_self))⟩
    rw [whole]
    rfl

end Number

end FederatedLogin.Json
