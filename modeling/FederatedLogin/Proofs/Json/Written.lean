import FederatedLogin.Proofs.Json.Reading

/-!
# Written values

What is written is a text of the grammar: a character as it is escaped (`characterText_escape`), a
string between its quotes (`stringText_quote`), and an object if its values are (`objectText_text`).
So a value whose text is one of the grammar is read back from it (`readValue_text`,
`parse_render`).
-/

namespace FederatedLogin.Json

/-! ## Strings -/

/-- The letter of an escape stands for the character that was escaped. -/
theorem mem_escapeLetters {c letter : Char} (h : escapeLetter? c = some letter) :
    (letter, c) ∈ escapeLetters := by
  unfold escapeLetter? at h
  split at h
  · next quoted =>
    cases h
    rcases quoted with rfl | rfl <;> decide
  · -- Each of the five letters is one case.
    repeat' split at h
    all_goals cases h
    all_goals subst_vars; decide

theorem unitText_hexDigits {n : Nat} (h : n < twoPow 16) : UnitText n (Text.hexDigits 4 n) := by
  refine unitText_iff.2 ⟨Text.length_hexDigits 4 n, ?_⟩
  rw [Text.hexNumber?_hexDigits]
  exact congrArg some (Nat.mod_eq_of_lt h)

/-- A character is written as one of its texts. -/
theorem characterText_escape (c : Char) : CharacterText c (escape c) := by
  unfold escape
  cases he : escapeLetter? c with
  | some letter => exact .letter (mem_escapeLetters he)
  | none =>
    dsimp only
    split
    · next control => exact .unit (unitText_hexDigits (Nat.lt_trans control (by decide)))
    · next control =>
      -- A character that is not escaped neither ends the string nor starts an escape.
      have unquoted : ¬ (c = '"' ∨ c = '\\') := by
        intro quoted
        unfold escapeLetter? at he
        rw [if_pos quoted] at he
        cases he
      exact .plain (fun h => unquoted (.inl h)) (fun h => unquoted (.inr h)) (Nat.not_lt.1 control)

theorem charactersText_escape (s : List Char) : CharactersText s (s.flatMap escape) := by
  induction s with
  | nil => exact .nil
  | cons c s ih => exact .cons (characterText_escape c) ih

theorem stringText_quote (s : String) : StringText s (quote s) :=
  .quoted (charactersText_escape s.toList)

/-! ## Values -/

variable {depth : Nat} {v : Value}

theorem valueText_null (depth : Nat) : ValueText true depth .null Value.null.text := by
  obtain ⟨inner, node⟩ := ValueText.eq_node true depth
  rw [node]
  exact .null

theorem valueText_string (depth : Nat) (s : String) :
    ValueText true depth (.string s) (Value.string s).text := by
  obtain ⟨inner, node⟩ := ValueText.eq_node true depth
  rw [node]
  exact .string (stringText_quote s)

theorem valueText_ofOption (depth : Nat) (s : Option String) :
    ValueText true depth (.ofOption s) (Value.ofOption s).text := by
  cases s with
  | none => exact valueText_null depth
  | some s => exact valueText_string depth s

/-! ## Objects -/

variable {items : String → Grammar Value} {ms : List (String × Value)}

/-- A member of an object as it is written. -/
def memberText (m : String × Value) : List Char := quote m.1 ++ ':' :: m.2.text

theorem membersText_cons (m : String × Value) (ms : List (String × Value)) :
    membersText (m :: ms) = memberText m ++ ms.flatMap fun n => ',' :: memberText n := by
  induction ms generalizing m with
  | nil => simp [membersText, memberText]
  | cons n ms ih =>
    rw [List.flatMap_cons, List.cons_append, ← ih n]
    simp [membersText, memberText]

theorem memberText_text {m : String × Value} (h : items m.1 m.2 m.2.text) :
    MemberText items m (memberText m) :=
  .intro (stringText_quote m.1) space_nil space_nil h

theorem moreText_text (h : ∀ m ∈ ms, items m.1 m.2 m.2.text) :
    MoreText (MemberText items) ms (ms.flatMap fun n => ',' :: memberText n) := by
  induction ms with
  | nil => exact .nil space_nil
  | cons m ms ih =>
    exact .cons space_nil space_nil (memberText_text (h m List.mem_cons_self))
      (ih fun n hn => h n (List.mem_cons_of_mem m hn))

/-- An object is written as a text of it, if its values are. -/
theorem objectText_text (h : ∀ m ∈ ms, items m.1 m.2 m.2.text) :
    ObjectText items ms (Value.object ms).text := by
  have list : ListText (MemberText items) ms (membersText ms) := by
    cases ms with
    | nil => exact .nil space_nil
    | cons m ms =>
      rw [membersText_cons]
      exact .cons space_nil (memberText_text (h m List.mem_cons_self))
        (moreText_text fun n hn => h n (List.mem_cons_of_mem m hn))
  exact .intro list

theorem valueText_object (h : ∀ m ∈ ms, ValueText true depth m.2 m.2.text) :
    ValueText true (depth + 1) (.object ms) (Value.object ms).text :=
  .object rfl (objectText_text h)

/-! ## Reading back -/

/-- A value is read from its text. -/
theorem readValue_text (h : ValueText true maxDepth v v.text) :
    readValue .keep maxDepth v.text = .ok (v, []) := by
  have follows : Follows true (readValue .keep maxDepth) (ValueText true maxDepth) :=
    follows_value fun _ => Nat.le_refl _
  have ends : Delimited [] := nofun
  have read := (follows space_nil h ends).eq_ok
  rwa [List.nil_append, List.append_nil] at read

theorem parse_render (h : ValueText true maxDepth v v.text) : parse v.render = .ok v := by
  unfold parse readAll Value.render
  rw [String.toList_ofList, readValue_text h]
  rfl

end FederatedLogin.Json
