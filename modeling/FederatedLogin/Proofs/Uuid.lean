import FederatedLogin.Uuid

/-!
# Written identifiers

The texts that are read as an identifier are its four spellings, with digits of either case
(`read?_eq_some_iff`). Its written form is one of them (`parse?_render`), so that different
identifiers are written differently (`render_injective`). The key is that the five groups of digits
are the 32 digits of one number (`hexDigits_append`).
-/

namespace FederatedLogin

namespace Text

/-- The digits of a number are those of its upper part and those of its lower part. -/
theorem hexDigits_append (a b n : Nat) :
    hexDigits a (n / twoPow (4 * b)) ++ hexDigits b n = hexDigits (a + b) n := by
  induction b generalizing n with
  | zero =>
    show hexDigits a (n / 1) ++ [] = hexDigits a n
    rw [Nat.div_one, List.append_nil]
  | succ b ih =>
    have parts : n / twoPow (4 * (b + 1)) = n / 16 / twoPow (4 * b) := by
      have powers : twoPow (4 * (b + 1)) = 16 * twoPow (4 * b) := by
        rw [Nat.mul_succ, twoPow_add, Nat.mul_comm]
        rfl
      rw [powers, Nat.div_div_eq_div_mul]
    show _ ++ (hexDigits b (n / 16) ++ [hexDigit n]) = hexDigits (a + b) (n / 16) ++ [hexDigit n]
    rw [parts, ← List.append_assoc, ih]

/-- A hexadecimal digit is one of sixteen characters. -/
theorem mem_of_mem_hexDigits {width n : Nat} {c : Char} (h : c ∈ hexDigits width n) :
    c ∈ "0123456789abcdef".toList := by
  have digit : ∀ m < 16, hexDigit m ∈ "0123456789abcdef".toList := by decide
  induction width generalizing n with
  | zero => cases h
  | succ width ih =>
    rcases List.mem_append.1 h with h | h
    · exact ih h
    · have small := digit (n % 16) (Nat.mod_lt _ (by decide))
      rw [List.mem_singleton.1 h]
      simpa [hexDigit] using small

/-- No digit is a hyphen. -/
theorem hyphen_not_mem_hexDigits (width n : Nat) : '-' ∉ hexDigits width n :=
  fun h => absurd (mem_of_mem_hexDigits h) (by decide)

/-- The pieces of two texts that are joined are those of the one and those of the other. -/
theorem pieces_append (sep : Char) (a b : List Char) :
    pieces sep (a ++ sep :: b) = pieces sep a ++ pieces sep b := by
  induction a with
  | nil =>
    show pieces sep (sep :: b) = [] :: pieces sep b
    rw [pieces, if_pos rfl]
  | cons c a ih =>
    rw [List.cons_append, pieces, pieces, ih]
    split
    · rfl
    · cases hp : pieces sep a with
      | nil => exact absurd hp (pieces_ne_nil sep a)
      | cons p ps => rfl

/-- The first piece of a text ends at the first separator. -/
theorem pieces_append_cons {sep : Char} {cs : List Char} (h : sep ∉ cs) (rest : List Char) :
    pieces sep (cs ++ sep :: rest) = cs :: pieces sep rest := by
  rw [pieces_append, pieces_of_not_mem h]
  rfl

/-- Cutting at a separator goes along with a change of the characters that changes no other
character into the separator. -/
theorem pieces_map {sep : Char} {f : Char → Char} (hf : ∀ c, f c = sep ↔ c = sep)
    (cs : List Char) : pieces sep (cs.map f) = (pieces sep cs).map (List.map f) := by
  induction cs with
  | nil => rfl
  | cons c cs ih =>
    rw [List.map_cons, pieces, pieces, ih]
    by_cases h : c = sep
    · rw [if_pos h, if_pos ((hf c).2 h)]
      rfl
    · rw [if_neg h, if_neg (mt (hf c).1 h)]
      cases pieces sep cs <;> rfl

/-! ### Digits of either case -/

/-- What holds of the ASCII characters may be looked up. -/
theorem forall_ascii {P : Char → Prop} (h : ∀ n < 128, P (Char.ofNat n)) {c : Char}
    (hc : c.toNat < 128) : P c := by
  rw [← Char.ofNat_toNat c]
  exact h _ hc

/-- Letters and digits lie in three ranges. -/
theorem toNat_of_isAlphanum {c : Char} (h : c.isAlphanum = true) :
    (48 ≤ c.toNat ∧ c.toNat ≤ 57) ∨ (65 ≤ c.toNat ∧ c.toNat ≤ 90) ∨
      (97 ≤ c.toNat ∧ c.toNat ≤ 122) := by
  delta Char.isAlphanum Char.isAlpha Char.isUpper Char.isLower Char.isDigit at h
  simp only [Bool.or_eq_true, Bool.and_eq_true, decide_eq_true_eq, UInt32.le_iff_toNat_le,
    ge_iff_le] at h
  rcases h with (upper | lower) | digit
  · exact .inr (.inl upper)
  · exact .inr (.inr lower)
  · exact .inl digit

/-- What holds of the characters of a list may be looked up. -/
theorem forall_mem_of_all {P : Char → Prop} [DecidablePred P] {cs : List Char}
    (h : cs.all (fun c => decide (P c)) = true) : ∀ c ∈ cs, P c := by
  simpa only [List.all_eq_true, decide_eq_true_eq] using h

/-- A character beyond ASCII has no other case. -/
theorem toLower_of_not_ascii {c : Char} (h : ¬ c.toNat < 128) : c.toLower = c := by
  have high : ¬ (c.val ≥ 'A'.val ∧ c.val ≤ 'Z'.val) := by
    rintro ⟨-, le⟩
    have le : c.toNat ≤ 90 := UInt32.le_iff_toNat_le.1 le
    omega
  unfold Char.toLower
  rw [dif_neg high]

/-- A hyphen is the same in either case, and nothing else becomes one. -/
theorem toLower_eq_hyphen {c : Char} : c.toLower = '-' ↔ c = '-' := by
  by_cases h : c.toNat < 128
  · exact forall_ascii (P := fun c => c.toLower = '-' ↔ c = '-') (by decide +kernel) h
  · rw [toLower_of_not_ascii h]

/-- A character beyond ASCII is no digit. -/
theorem hexValue?_of_not_ascii {c : Char} (h : ¬ c.toNat < 128) : hexValue? c = none := by
  have above {last : Char} (small : last.toNat < 128) : ¬ c ≤ last :=
    fun le => h (Nat.lt_of_le_of_lt (UInt32.le_iff_toNat_le.1 le) small)
  have digit : ¬ c.isDigit = true := by
    intro digit
    simp only [Char.isDigit, Bool.and_eq_true, decide_eq_true_eq] at digit
    exact above (by decide) digit.2
  unfold hexValue?
  rw [if_neg digit, if_neg fun le => above (by decide) le.2,
    if_neg fun le => above (by decide) le.2]

/-- A digit of either case has the lower case digit of its value, which is below sixteen. -/
theorem toLower_of_hexValue? {c : Char} {d : Nat} (h : hexValue? c = some d) :
    c.toLower = hexDigit d ∧ d < 16 := by
  by_cases low : c.toNat < 128
  · have all := forall_ascii
      (P := fun c => (hexValue? c).all (fun d => c.toLower = hexDigit d ∧ d < 16) = true)
      (by decide +kernel) low
    rw [h] at all
    simpa using all
  · rw [hexValue?_of_not_ascii low] at h
    cases h

/-- A digit has the same value in either case. -/
theorem hexValue?_toLower (c : Char) : hexValue? c.toLower = hexValue? c := by
  by_cases low : c.toNat < 128
  · exact forall_ascii (P := fun c => hexValue? c.toLower = hexValue? c) (by decide +kernel) low
  · rw [toLower_of_not_ascii low]

/-- The number that digits stand for does not depend on their case. -/
theorem hexNumber?_map_toLower (cs : List Char) :
    hexNumber? (cs.map Char.toLower) = hexNumber? cs := by
  unfold hexNumber?
  rw [List.foldlM_map]
  simp only [hexValue?_toLower]

/-- Digits after a number stand for the number whose upper part it is, and whose last digits they
are. -/
theorem map_toLower_of_foldlM {cs : List Char} {acc n : Nat}
    (h : cs.foldlM (fun n c => (hexValue? c).map (16 * n + ·)) acc = some n) :
    n / twoPow (4 * cs.length) = acc ∧ cs.map Char.toLower = hexDigits cs.length n := by
  induction cs generalizing acc with
  | nil =>
    cases h
    exact ⟨Nat.div_one _, rfl⟩
  | cons c cs ih =>
    rw [List.foldlM_cons] at h
    obtain ⟨next, first, rest⟩ := Option.bind_eq_some_iff.1 h
    obtain ⟨d, hd, rfl⟩ := Option.map_eq_some_iff.1 first
    obtain ⟨lower, small⟩ := toLower_of_hexValue? hd
    obtain ⟨upper, digits⟩ := ih rest
    have powers : twoPow (4 * (cs.length + 1)) = twoPow (4 * cs.length) * 16 := by
      rw [Nat.mul_succ, twoPow_add]
      rfl
    constructor
    · rw [List.length_cons, powers, ← Nat.div_div_eq_div_mul, upper]
      omega
    · have digit : hexDigits 1 (n / twoPow (4 * cs.length)) = [c.toLower] := by
        rw [upper, lower]
        show [hexDigit (16 * acc + d)] = _
        unfold hexDigit
        rw [Nat.mul_add_mod]
      rw [List.map_cons, List.length_cons, Nat.add_comm, ← hexDigits_append, digit, digits]
      rfl

/-- Digits stand for a number exactly when in lower case they are those of the number. -/
theorem hexNumber?_eq_some_iff {cs : List Char} {n : Nat} :
    hexNumber? cs = some n ↔
      cs.map Char.toLower = hexDigits cs.length n ∧ n < twoPow (4 * cs.length) := by
  constructor
  · intro h
    obtain ⟨upper, digits⟩ := map_toLower_of_foldlM h
    exact ⟨digits, (Nat.div_eq_zero_iff_lt (twoPow_pos _)).1 upper⟩
  · rintro ⟨digits, small⟩
    rw [← hexNumber?_map_toLower, digits, hexNumber?_hexDigits, Nat.mod_eq_of_lt small]

end Text

namespace Uuid

open Text

/-- The written identifier is made of digits and hyphens. -/
theorem mem_of_mem_text {u : Uuid} {c : Char} (h : c ∈ u.text) :
    c ∈ "-0123456789abcdef".toList := by
  have digit {width n : Nat} (hc : c ∈ hexDigits width n) : c ∈ "-0123456789abcdef".toList :=
    List.mem_cons_of_mem _ (mem_of_mem_hexDigits hc)
  simp only [text, List.mem_append, List.mem_cons] at h
  rcases h with (((h | rfl | h) | rfl | h) | rfl | h) | rfl | h
  all_goals first | exact digit h | decide

/-- Cut at hyphens, a written identifier is its five groups of digits. -/
theorem pieces_text (u : Uuid) : pieces '-' u.text =
    [hexDigits 8 (u.toNat / twoPow 96), hexDigits 4 (u.toNat / twoPow 80),
      hexDigits 4 (u.toNat / twoPow 64), hexDigits 4 (u.toNat / twoPow 48),
      hexDigits 12 u.toNat] := by
  unfold text
  simp only [List.append_assoc, List.cons_append]
  rw [pieces_append_cons (hyphen_not_mem_hexDigits _ _),
    pieces_append_cons (hyphen_not_mem_hexDigits _ _),
    pieces_append_cons (hyphen_not_mem_hexDigits _ _),
    pieces_append_cons (hyphen_not_mem_hexDigits _ _),
    pieces_of_not_mem (hyphen_not_mem_hexDigits _ _)]

/-- The groups are the digits of one number. -/
theorem flatten_groups (n : Nat) :
    [hexDigits 8 (n / twoPow 96), hexDigits 4 (n / twoPow 80), hexDigits 4 (n / twoPow 64),
      hexDigits 4 (n / twoPow 48), hexDigits 12 n].flatten = hexDigits 32 n := by
  simp only [List.flatten_cons, List.flatten_nil, List.append_nil]
  rw [hexDigits_append 4 12 n, hexDigits_append 4 16 n, hexDigits_append 4 20 n,
    hexDigits_append 8 24 n]

theorem eq_of_toNat {u v : Uuid} (h : u.toNat = v.toNat) : u = v := by
  cases u
  cases v
  cases h
  rfl

/-- The number of an identifier makes the identifier. -/
theorem ofNat_toNat (u : Uuid) : ofNat u.toNat = u := eq_of_toNat (Nat.mod_eq_of_lt u.toNat_lt)

/-- A written identifier has 36 characters. -/
theorem length_text (u : Uuid) : u.text.length = 36 := by
  unfold text
  simp only [List.length_append, List.length_cons, length_hexDigits]

/-- Identifiers are written in lower case. -/
theorem map_toLower_text (u : Uuid) : u.text.map Char.toLower = u.text := by
  have lower : ∀ c ∈ "-0123456789abcdef".toList, c.toLower = c :=
    forall_mem_of_all (by decide)
  exact (List.map_congr_left fun c hc => lower c (mem_of_mem_text hc)).trans (List.map_id _)

/-! ## Spellings -/

/-- The texts that stand for an identifier: its groups of digits, alone, in braces or after
`urn:uuid:`, or its digits alone. The letters are of either case. -/
inductive Spelling (u : Uuid) : List Char → Prop where
  | hyphenated {cs : List Char} (h : cs.map Char.toLower = u.text) : Spelling u cs
  | simple {cs : List Char} (h : cs.map Char.toLower = hexDigits 32 u.toNat) : Spelling u cs
  | braced {cs : List Char} (h : cs.map Char.toLower = u.text) : Spelling u ('{' :: cs ++ ['}'])
  | urn {scheme cs : List Char} (hs : scheme.map Char.toLower = "urn:uuid:".toList)
      (h : cs.map Char.toLower = u.text) : Spelling u (scheme ++ cs)

variable {u : Uuid} {cs : List Char}

/-- Just the 32 digits of an identifier are read without hyphens, in either case. -/
theorem readDigits?_eq_some_iff :
    readDigits? cs = some u ↔ cs.map Char.toLower = hexDigits 32 u.toNat := by
  constructor
  · intro h
    unfold readDigits? at h
    split at h
    · next length =>
      obtain ⟨n, hn, rfl⟩ := Option.map_eq_some_iff.1 h
      obtain ⟨digits, small⟩ := hexNumber?_eq_some_iff.1 hn
      rw [length] at digits small
      rw [digits]
      exact congrArg (hexDigits 32) (Nat.mod_eq_of_lt small).symm
    · cases h
  · intro digits
    have length : cs.length = 32 := by
      have lengths := congrArg List.length digits
      rwa [List.length_map, length_hexDigits] at lengths
    have number : hexNumber? cs = some u.toNat := by
      refine hexNumber?_eq_some_iff.2 ?_
      rw [length]
      exact ⟨digits, u.toNat_lt⟩
    rw [readDigits?, if_pos length, number, Option.map_some, ofNat_toNat]

/-- Just the written identifier is read with hyphens, in either case. -/
theorem readGroups?_eq_some_iff :
    readGroups? cs = some u ↔ cs.map Char.toLower = u.text := by
  have lengths : (pieces '-' u.text).map List.length = [8, 4, 4, 4, 12] := by
    simp only [pieces_text, List.map_cons, List.map_nil, length_hexDigits]
  have digits : (pieces '-' u.text).flatten = hexDigits 32 u.toNat := by
    rw [pieces_text, flatten_groups]
  -- In lower case the pieces are the groups exactly when the whole text is the written one.
  have groups : (pieces '-' cs).map (List.map Char.toLower) = pieces '-' u.text ↔
      cs.map Char.toLower = u.text := by
    rw [← pieces_map fun _ => toLower_eq_hyphen]
    constructor
    · intro h
      rw [← join_pieces '-' (cs.map Char.toLower), h, join_pieces]
    · exact congrArg _
  rw [← groups, List.eq_iff_flatten_eq, lengths, digits, ← List.map_flatten, List.map_map]
  have keep : List.length ∘ List.map Char.toLower = List.length := funext fun _ => List.length_map _
  rw [keep, ← readDigits?_eq_some_iff]
  unfold readGroups?
  by_cases h : (pieces '-' cs).map List.length = [8, 4, 4, 4, 12] <;> simp [h]

/-- What stands in braces is what is between them. -/
theorem inBraces?_eq_some_iff {inner : List Char} :
    inBraces? cs = some inner ↔ cs = '{' :: inner ++ ['}'] := by
  unfold inBraces?
  split
  · next rest =>
    by_cases last : rest.getLast? = some '}'
    · obtain ⟨front, rfl⟩ := List.getLast?_eq_some_iff.1 last
      simp
    · simp only [if_neg last, reduceCtorEq, List.cons_append, List.cons.injEq, true_and, false_iff]
      rintro rfl
      exact last (List.getLast?_concat ..)
  · next other =>
    simp only [reduceCtorEq, false_iff]
    exact other _

/-- Without a brace nothing stands in braces. -/
theorem inBraces?_eq_none (h : '{' ∉ cs.map Char.toLower) : inBraces? cs = none := by
  rw [Option.eq_none_iff_forall_ne_some]
  intro inner h'
  rw [inBraces?_eq_some_iff.1 h'] at h
  exact h List.mem_cons_self

/-- What stands behind `urn:uuid:`, in either case, is the rest of the text. -/
theorem afterUrn?_eq_some_iff {rest : List Char} :
    afterUrn? cs = some rest ↔
      ∃ scheme, scheme.map Char.toLower = "urn:uuid:".toList ∧ cs = scheme ++ rest := by
  unfold afterUrn?
  constructor
  · intro h
    split at h
    · next scheme =>
      cases h
      exact ⟨_, scheme, (List.take_append_drop 9 cs).symm⟩
    · cases h
  · rintro ⟨scheme, hs, rfl⟩
    have length : scheme.length = 9 := by
      have lengths := congrArg List.length hs
      rwa [List.length_map] at lengths
    rw [List.take_left' length, List.drop_left' length, if_pos hs]

/-- Without the first letter of `urn:uuid:` nothing stands behind it. -/
theorem afterUrn?_eq_none (h : 'u' ∉ cs.map Char.toLower) : afterUrn? cs = none := by
  rw [Option.eq_none_iff_forall_ne_some]
  intro rest h'
  obtain ⟨scheme, hs, rfl⟩ := afterUrn?_eq_some_iff.1 h'
  rw [List.map_append, hs] at h
  exact h (List.mem_append_left _ (by decide))

/-- A text is read as an identifier exactly when it is one of its spellings. -/
theorem read?_eq_some_iff : read? cs = some u ↔ Spelling u cs := by
  constructor
  · intro h
    unfold read? at h
    split at h
    · next inner braces =>
      rw [inBraces?_eq_some_iff.1 braces]
      exact .braced (readGroups?_eq_some_iff.1 h)
    · next rest _ urn =>
      obtain ⟨scheme, hs, rfl⟩ := afterUrn?_eq_some_iff.1 urn
      exact .urn hs (readGroups?_eq_some_iff.1 h)
    · split at h
      · exact .simple (readDigits?_eq_some_iff.1 h)
      · exact .hyphenated (readGroups?_eq_some_iff.1 h)
  · intro h
    have text {c : Char} (hc : c ∉ "-0123456789abcdef".toList) : c ∉ u.text :=
      mt mem_of_mem_text hc
    unfold read?
    cases h with
    | hyphenated h =>
      have length : cs.length ≠ 32 := by
        rw [← List.length_map Char.toLower, h, length_text]
        decide
      rw [inBraces?_eq_none (by rw [h]; exact text (by decide)),
        afterUrn?_eq_none (by rw [h]; exact text (by decide))]
      simp only [if_neg length]
      exact readGroups?_eq_some_iff.2 h
    | simple h =>
      have length : cs.length = 32 := by
        rw [← List.length_map Char.toLower, h, length_hexDigits]
      have digits {c : Char} (hc : c ∉ "0123456789abcdef".toList) : c ∉ cs.map Char.toLower := by
        rw [h]
        exact mt mem_of_mem_hexDigits hc
      rw [inBraces?_eq_none (digits (by decide)), afterUrn?_eq_none (digits (by decide))]
      simp only [if_pos length]
      exact readDigits?_eq_some_iff.2 h
    | braced h =>
      rw [inBraces?_eq_some_iff.2 rfl]
      exact readGroups?_eq_some_iff.2 h
    | @urn scheme cs hs h =>
      have braces : '{' ∉ (scheme ++ cs).map Char.toLower := by
        rw [List.map_append, hs, h, List.mem_append]
        exact not_or.2 ⟨by decide, text (by decide)⟩
      rw [inBraces?_eq_none braces, afterUrn?_eq_some_iff.2 ⟨scheme, hs, rfl⟩]
      exact readGroups?_eq_some_iff.2 h

/-- The characters of all spellings, in lower case. -/
def spellingCharacters : List Char := "-0123456789abcdef\x7b\x7d:inru".toList

/-- A spelling of an identifier has no other characters than those of spellings. -/
theorem Spelling.toLower_mem (h : Spelling u cs) {c : Char} (hc : c ∈ cs) :
    c.toLower ∈ spellingCharacters := by
  have digit : ∀ d ∈ "-0123456789abcdef".toList, d ∈ spellingCharacters :=
    forall_mem_of_all (by decide)
  have text {ds : List Char} (hd : ds.map Char.toLower = u.text) (hc : c ∈ ds) :
      c.toLower ∈ spellingCharacters := by
    refine digit _ (mem_of_mem_text (u := u) ?_)
    rw [← hd]
    exact List.mem_map_of_mem hc
  cases h with
  | hyphenated h => exact text h hc
  | simple h =>
    have drawn : c.toLower ∈ hexDigits 32 u.toNat := by
      rw [← h]
      exact List.mem_map_of_mem hc
    exact digit _ (List.mem_cons_of_mem _ (mem_of_mem_hexDigits drawn))
  | braced h =>
    rcases List.mem_append.1 hc with hc | hc
    · rcases List.mem_cons.1 hc with rfl | hc
      · decide
      · exact text h hc
    · rw [List.mem_singleton.1 hc]
      decide
  | urn hs h =>
    rcases List.mem_append.1 hc with hc | hc
    · have scheme : ∀ d ∈ "urn:uuid:".toList, d ∈ spellingCharacters :=
        forall_mem_of_all (by decide)
      refine scheme _ ?_
      rw [← hs]
      exact List.mem_map_of_mem hc
    · exact text h hc

/-! ## The written form -/

/-- A written identifier is read back. -/
theorem read?_text (u : Uuid) : read? u.text = some u :=
  read?_eq_some_iff.2 (.hyphenated (map_toLower_text u))

/-- Reading a written identifier gives it back. -/
theorem parse?_render (u : Uuid) : parse? u.render = some u := by
  unfold parse? render
  rw [String.toList_ofList]
  exact read?_text u

/-- Identifiers that are written the same are the same. -/
theorem render_injective {u v : Uuid} (h : u.render = v.render) : u = v := by
  have same := parse?_render u
  rw [h, parse?_render v] at same
  exact (Option.some.inj same).symm

end Uuid

end FederatedLogin
