import FederatedLogin.Proofs.Session.Request
import FederatedLogin.Url.Form

/-!
# Form bodies are read back

Whatever texts the names and the values of a form are, its body is read as those names and values
(`readForm?_formBody`): a character is decoded to its bytes (`percentDecode_formCharacter`), so that
a text is read back (`readFormText?_formText`), and a written text holds none of the marks between
the texts (`not_mem_formText`), so that the body is cut where it was joined.
-/

namespace FederatedLogin.Url

open Text

/-! ## Characters -/

/-- A plus sign is read as a space. -/
def spaced (c : Char) : Char := if c = '+' then ' ' else c

theorem ascii_of_isFormCharacter {c : Char} (h : isFormCharacter c = true) : c.toNat < 128 := by
  simp only [isFormCharacter, Bool.or_eq_true, decide_eq_true_eq, List.mem_cons,
    List.not_mem_nil, or_false] at h
  rcases h with letter | rfl | rfl | rfl | rfl
  · have := toNat_of_isAlphanum letter
    omega
  all_goals decide

/-- A character that stands for itself is one byte, and neither a plus nor a percent sign. -/
theorem byte_of_isFormCharacter {c : Char} (h : isFormCharacter c = true) :
    spaced c = c ∧ ∃ b, b ≠ 0x25 ∧ String.utf8EncodeChar c = [b] := by
  have all := forall_ascii
    (P := fun c => isFormCharacter c = true → spaced c = c ∧ UInt8.ofNat c.toNat ≠ 0x25 ∧
      String.utf8EncodeChar c = [UInt8.ofNat c.toNat])
    (by decide +kernel) (ascii_of_isFormCharacter h) h
  exact ⟨all.1, _, all.2⟩

theorem hexDigitUpper_mod (n : Nat) : hexDigitUpper (n % 16) = hexDigitUpper n := by
  unfold hexDigitUpper
  rw [Nat.mod_mod]

/-- A digit of a byte is one byte, which is read as the digit. -/
theorem byte_hexDigitUpper (n : Nat) :
    spaced (hexDigitUpper n) = hexDigitUpper n ∧ ∃ b,
      String.utf8EncodeChar (hexDigitUpper n) = [b] ∧
      hexValue? (Char.ofNat b.toNat) = some (n % 16) := by
  have all : ∀ m < 16, spaced (hexDigitUpper m) = hexDigitUpper m ∧
      String.utf8EncodeChar (hexDigitUpper m) = [UInt8.ofNat (hexDigitUpper m).toNat] ∧
      hexValue? (Char.ofNat (UInt8.ofNat (hexDigitUpper m).toNat).toNat) = some m := by
    decide +kernel
  obtain ⟨plain, byte, value⟩ := all (n % 16) (Nat.mod_lt _ (by decide))
  rw [← hexDigitUpper_mod]
  exact ⟨plain, _, byte, value⟩

/-! ## Decoding -/

theorem percentDecode_cons {b : UInt8} (h : b ≠ 0x25) (bytes : List UInt8) :
    percentDecode (b :: bytes) = b :: percentDecode bytes := by
  rw [percentDecode.eq_def (b :: bytes)]
  exact if_neg h

theorem percentDecode_percent {h l : UInt8} {n m : Nat}
    (high : hexValue? (Char.ofNat h.toNat) = some n) (low : hexValue? (Char.ofNat l.toNat) = some m)
    (bytes : List UInt8) :
    percentDecode (0x25 :: h :: l :: bytes) = UInt8.ofNat (16 * n + m) :: percentDecode bytes := by
  rw [percentDecode, if_pos rfl]
  simp only [high, low]

theorem percentDecode_percentByte (b : UInt8) (bytes : List UInt8) :
    percentDecode (toBytes ((percentByte b).map spaced) ++ bytes) = b :: percentDecode bytes := by
  obtain ⟨plain, high, highByte, highValue⟩ := byte_hexDigitUpper (b.toNat / 16)
  obtain ⟨plain', low, lowByte, lowValue⟩ := byte_hexDigitUpper b.toNat
  have text : toBytes ((percentByte b).map spaced) = [0x25, high, low] := by
    have percent : String.utf8EncodeChar (spaced '%') = [0x25] := rfl
    simp [toBytes, percentByte, plain, plain', highByte, lowByte, percent]
  have value : 16 * (b.toNat / 16 % 16) + b.toNat % 16 = b.toNat := by
    have bound : b.toNat < 256 := b.toNat_lt
    omega
  rw [text]
  simp only [List.cons_append, List.nil_append]
  rw [percentDecode_percent highValue lowValue, value, UInt8.ofNat_toNat]

/-- A written character is decoded to its bytes. -/
theorem percentDecode_formCharacter (c : Char) (bytes : List UInt8) :
    percentDecode (toBytes ((formCharacter c).map spaced) ++ bytes)
      = String.utf8EncodeChar c ++ percentDecode bytes := by
  unfold formCharacter
  split
  · next space =>
    rw [space]
    exact percentDecode_cons (by decide) bytes
  · split
    · next plain =>
      obtain ⟨same, b, notPercent, byte⟩ := byte_of_isFormCharacter plain
      have text : toBytes ([c].map spaced) = [b] := by
        simp [toBytes, same, byte]
      rw [text, byte]
      exact percentDecode_cons notPercent bytes
    · induction String.utf8EncodeChar c with
      | nil => rfl
      | cons b bs ih =>
        rw [List.flatMap_cons, List.map_append, toBytes, List.flatMap_append, List.append_assoc]
        refine (percentDecode_percentByte b _).trans ?_
        rw [List.cons_append, ← ih]
        rfl

/-- A written text is read as it was. -/
theorem readFormText?_formText (s : String) : readFormText? (formText s) = some s := by
  have decoded (cs : List Char) :
      percentDecode (toBytes ((cs.flatMap formCharacter).map spaced)) = toBytes cs := by
    induction cs with
    | nil => rw [List.flatMap_nil, List.map_nil, toBytes, List.flatMap_nil, percentDecode]
    | cons c cs ih =>
      rw [List.flatMap_cons, List.map_append, toBytes, List.flatMap_append]
      refine (percentDecode_formCharacter c _).trans ?_
      rw [toBytes, List.flatMap_cons]
      exact congrArg _ ih
  have read := congrArg ofBytes? (decoded s.toList)
  rw [ofBytes?_toBytes] at read
  show (ofBytes? (percentDecode (toBytes ((formText s).map spaced)))).map String.ofList = some s
  unfold formText
  rw [read, Option.map_some, String.ofList_toList]

/-! ## Pairs -/

/-- The marks between the texts of a form are not in them. -/
theorem not_mem_formText {mark : Char} (h : mark = '&' ∨ mark = '=') (s : String) :
    mark ∉ formText s := by
  have marks : isFormCharacter mark = false ∧ mark ≠ '+' ∧ mark ≠ '%' ∧
      ∀ n < 16, mark ≠ hexDigitUpper n := by
    rcases h with rfl | rfl <;> decide +kernel
  obtain ⟨notPlain, notPlus, notPercent, notDigit⟩ := marks
  have digit (n : Nat) : mark ≠ hexDigitUpper n := by
    rw [← hexDigitUpper_mod]
    exact notDigit _ (Nat.mod_lt _ (by decide))
  intro inside
  obtain ⟨c, -, written⟩ := List.mem_flatMap.1 inside
  unfold formCharacter at written
  split at written
  · exact notPlus (List.mem_singleton.1 written)
  · split at written
    · next plain =>
      rw [List.mem_singleton.1 written, plain] at notPlain
      cases notPlain
    · obtain ⟨b, -, byte⟩ := List.mem_flatMap.1 written
      simp only [percentByte, List.mem_cons, List.not_mem_nil, or_false] at byte
      rcases byte with percent | high | low
      · exact notPercent percent
      · exact digit _ high
      · exact digit _ low

/-- A pair as it is written. -/
def pairText (p : String × String) : List Char := formText p.1 ++ '=' :: formText p.2

theorem readFormPair?_pairText (p : String × String) : readFormPair? (pairText p) = some p := by
  have cut : cut? '=' (pairText p) = some (formText p.1, formText p.2) :=
    cut?_eq_some_iff.2 ⟨rfl, not_mem_formText (.inr rfl) p.1⟩
  unfold readFormPair?
  rw [cut, Option.getD_some]
  simp [readFormText?_formText]

theorem formBody_eq_join (ps : List (String × String)) :
    formBody ps = join '&' (ps.map pairText) := by
  induction ps with
  | nil => rfl
  | cons p ps ih =>
    cases ps with
    | nil => rfl
    | cons q ps =>
      rw [formBody, ih]
      simp [join, pairText]

/-- The body of a form is read as its pairs. -/
theorem readForm?_formBody (ps : List (String × String)) : readForm? (formBody ps) = some ps := by
  have pairs (ps : List (String × String)) : (ps.map pairText).mapM readFormPair? = some ps := by
    induction ps with
    | nil => rfl
    | cons p ps ih => simp [readFormPair?_pairText, ih]
  have some : ∀ q ∈ ps.map pairText, decide (q ≠ []) = true := by
    intro q hq
    obtain ⟨p, -, rfl⟩ := List.mem_map.1 hq
    simp [pairText]
  have noMark : ∀ q ∈ ps.map pairText, '&' ∉ q := by
    intro q hq
    obtain ⟨p, -, rfl⟩ := List.mem_map.1 hq
    simp [pairText, not_mem_formText]
  unfold readForm?
  rw [formBody_eq_join]
  cases ps with
  | nil => rfl
  | cons p ps =>
    have nonempty : (p :: ps).map pairText ≠ [] := List.cons_ne_nil _ _
    rw [pieces_join_of_not_mem nonempty noMark, List.filter_eq_self.2 some]
    exact pairs (p :: ps)

-- Marks of the form inside its texts, an empty text, and characters beyond ASCII.
example : readForm? (formBody [("a&b=c", "+ %41"), ("", ""), ("ключ", "😀")])
    = some [("a&b=c", "+ %41"), ("", ""), ("ключ", "😀")] := by
  decide +kernel

end FederatedLogin.Url
