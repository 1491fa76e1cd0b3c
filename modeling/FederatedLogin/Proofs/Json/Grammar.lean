import FederatedLogin.Json.Reader

/-!
# The grammar of JSON texts

Which texts stand for which values (`ValueText`), said without a reader: strings with their escapes,
number literals, and containers with any space between tokens. The number bounds how deep containers
nest. A bounded text is one that may be kept: its numbers are in range. Halves of surrogate pairs
are no characters, so that they come in pairs only.
-/

namespace FederatedLogin.Json

/-- Which texts stand for which things. -/
abbrev Grammar (α : Type) := α → List Char → Prop

/-- The text is nothing but space. -/
def Space (cs : List Char) : Prop := ∀ c ∈ cs, isSpace c = true

/-! ## Strings -/

/-- The letters that may follow a backslash, each with the character that it stands for. -/
def escapeLetters : List (Char × Char) :=
  [('"', '"'), ('\\', '\\'), ('/', '/'), ('b', '\x08'), ('f', '\x0c'), ('n', '\n'), ('r', '\r'),
    ('t', '\t')]

/-- Four hexadecimal digits of either case. -/
def UnitText : Grammar Nat := fun n cs =>
  cs.map Char.toLower = Text.hexDigits 4 n ∧ n < twoPow 16

/-- The ways to write a character inside a string: as itself, by a letter, by its code unit, or by
two code units. -/
inductive CharacterText : Grammar Char where
  | plain {c : Char} (quote : c ≠ '"') (backslash : c ≠ '\\') (control : 0x20 ≤ c.toNat) :
      CharacterText c [c]
  | letter {letter c : Char} (h : (letter, c) ∈ escapeLetters) : CharacterText c ['\\', letter]
  | unit {c : Char} {digits : List Char} (h : UnitText c.toNat digits) :
      CharacterText c ('\\' :: 'u' :: digits)
  | pair {c : Char} {high low : Nat} {first second : List Char}
      (inRange : high < 0x400 ∧ low < 0x400) (value : c.toNat = 0x10000 + high * 0x400 + low)
      (h : UnitText (0xD800 + high) first) (h' : UnitText (0xDC00 + low) second) :
      CharacterText c ('\\' :: 'u' :: (first ++ '\\' :: 'u' :: second))

/-- Characters one after the other. -/
inductive CharactersText : Grammar (List Char) where
  | nil : CharactersText [] []
  | cons {c : Char} {s a b : List Char} (first : CharacterText c a) (rest : CharactersText s b) :
      CharactersText (c :: s) (a ++ b)

/-- A string stands between quotes. -/
inductive StringText : Grammar String where
  | quoted {s : String} {cs : List Char} (h : CharactersText s.toList cs) :
      StringText s ('"' :: cs ++ ['"'])

/-! ## Numbers -/

/-- One or more digits. -/
def Digits (cs : List Char) : Prop := cs ≠ [] ∧ ∀ c ∈ cs, c.isDigit = true

/-- Digits without a leading zero. -/
def Whole (cs : List Char) : Prop := Digits cs ∧ (cs.head? = some '0' → cs = ['0'])

/-- The digits after a point, if there is a point. -/
inductive DecimalsText : Grammar (List Char) where
  | none : DecimalsText [] []
  | digits {ds : List Char} (h : Digits ds) : DecimalsText ds ('.' :: ds)

/-- A power of ten, if there is one. -/
inductive ExponentText : Grammar (Option (Bool × List Char)) where
  | none : ExponentText none []
  | below {e : Char} {ds : List Char} (he : e = 'e' ∨ e = 'E') (h : Digits ds) :
      ExponentText (some (true, ds)) (e :: '-' :: ds)
  | above {e : Char} {sign ds : List Char} (he : e = 'e' ∨ e = 'E') (hs : sign = [] ∨ sign = ['+'])
      (h : Digits ds) : ExponentText (some (false, ds)) (e :: (sign ++ ds))

/-- A number literal. -/
inductive NumberText : Grammar Number where
  | intro {n : Number} {decimals exponent : List Char} (whole : Whole n.whole)
      (hd : DecimalsText n.decimals decimals) (he : ExponentText n.exponent exponent) :
      NumberText n ((if n.negative then ['-'] else []) ++ (n.whole ++ (decimals ++ exponent)))

/-! ## Containers -/

variable {α : Type}

/-- A text with any space around it. -/
inductive Padded (g : Grammar α) : Grammar α where
  | intro {a : α} {before cs after : List Char} (hb : Space before) (h : g a cs)
      (ha : Space after) : Padded g a (before ++ (cs ++ after))

/-- What follows a thing in a list: other things, each behind a comma. -/
inductive MoreText (g : Grammar α) : Grammar (List α) where
  | nil {space : List Char} (h : Space space) : MoreText g [] space
  | cons {a : α} {as : List α} {before after cs rest : List Char} (hb : Space before)
      (ha : Space after) (h : g a cs) (more : MoreText g as rest) :
      MoreText g (a :: as) (before ++ ',' :: (after ++ (cs ++ rest)))

/-- A list of things with commas between them. -/
inductive ListText (g : Grammar α) : Grammar (List α) where
  | nil {space : List Char} (h : Space space) : ListText g [] space
  | cons {a : α} {as : List α} {space cs rest : List Char} (hs : Space space) (h : g a cs)
      (more : MoreText g as rest) : ListText g (a :: as) (space ++ (cs ++ rest))

/-- A name, a colon, and a value, which may be written as the name allows. -/
inductive MemberText (item : String → Grammar Value) : Grammar (String × Value) where
  | intro {name : String} {v : Value} {quoted before after cs : List Char}
      (hn : StringText name quoted) (hb : Space before) (ha : Space after) (hv : item name v cs) :
      MemberText item (name, v) (quoted ++ (before ++ ':' :: (after ++ cs)))

/-- The members of an object between braces. -/
inductive ObjectText (item : String → Grammar Value) : Grammar (List (String × Value)) where
  | intro {ms : List (String × Value)} {cs : List Char} (h : ListText (MemberText item) ms cs) :
      ObjectText item ms ('{' :: (cs ++ ['}']))

/-- A value, given how the values inside it are written. Without that, it is not a container. -/
inductive NodeText (bounded : Bool) (inner : Option (Grammar Value)) : Grammar Value where
  | null : NodeText bounded inner .null "null".toList
  | yes : NodeText bounded inner (.bool true) "true".toList
  | no : NodeText bounded inner (.bool false) "false".toList
  | number {n : Number} {cs : List Char} (h : NumberText n cs)
      (range : bounded = true → n.inRange = true) : NodeText bounded inner n.value cs
  | string {s : String} {cs : List Char} (h : StringText s cs) :
      NodeText bounded inner (.string s) cs
  | array {item : Grammar Value} {vs : List Value} {cs : List Char} (hi : inner = some item)
      (h : ListText item vs cs) : NodeText bounded inner (.array vs) ('[' :: (cs ++ [']']))
  | object {item : Grammar Value} {ms : List (String × Value)} {cs : List Char}
      (hi : inner = some item) (h : ObjectText (fun _ => item) ms cs) :
      NodeText bounded inner (.object ms) cs

/-- A value whose containers nest at most as deep as the number says. -/
def ValueText (bounded : Bool) : Nat → Grammar Value
  | 0 => NodeText bounded none
  | depth + 1 => NodeText bounded (some (ValueText bounded depth))

/-- The text stands for the value and may be kept. -/
def DocumentText (v : Value) (text : String) : Prop :=
  Padded (ValueText true maxDepth) v text.toList

/-! ## Other grammars of the same texts -/

variable {g g' : Grammar α} {as : List α} {cs : List Char}

theorem MoreText.mono (h : MoreText g as cs) (le : ∀ a ∈ as, ∀ cs, g a cs → g' a cs) :
    MoreText g' as cs := by
  induction h with
  | nil space => exact .nil space
  | @cons a as before after cs rest hb ha ht _ ih =>
    exact .cons hb ha (le a List.mem_cons_self cs ht)
      (ih fun b hb => le b (List.mem_cons_of_mem a hb))

theorem ListText.mono (h : ListText g as cs) (le : ∀ a ∈ as, ∀ cs, g a cs → g' a cs) :
    ListText g' as cs := by
  cases h with
  | nil space => exact .nil space
  | @cons a as space cs rest hs ht more =>
    exact .cons hs (le a List.mem_cons_self cs ht)
      (more.mono fun b hb => le b (List.mem_cons_of_mem a hb))

theorem ObjectText.mono {items items' : String → Grammar Value} {ms : List (String × Value)}
    (h : ObjectText items ms cs)
    (le : ∀ m ∈ ms, ∀ cs, items m.1 m.2 cs → items' m.1 m.2 cs) : ObjectText items' ms cs := by
  cases h with
  | intro h =>
    refine .intro (h.mono fun m hm cs member => ?_)
    cases member with
    | intro hn hb ha hv => exact .intro hn hb ha (le _ hm _ hv)

theorem NodeText.loosen {inner inner' : Option (Grammar Value)} {v : Value}
    (h : NodeText true inner v cs)
    (le : ∀ g, inner = some g → ∃ g', inner' = some g' ∧ ∀ v cs, g v cs → g' v cs) :
    NodeText false inner' v cs := by
  cases h with
  | null => exact .null
  | yes => exact .yes
  | no => exact .no
  | number h _ => exact .number h nofun
  | string h => exact .string h
  | @array g vs cs hi h =>
    obtain ⟨g', hi', le⟩ := le g hi
    exact .array hi' (h.mono fun v _ => le v)
  | @object g ms cs hi h =>
    obtain ⟨g', hi', le⟩ := le g hi
    exact .object hi' (h.mono fun m _ => le m.2)

/-- A value that may be kept is a value. -/
theorem ValueText.loosen {depth : Nat} {v : Value} (h : ValueText true depth v cs) :
    ValueText false depth v cs := by
  induction depth generalizing v cs with
  | zero => exact NodeText.loosen h nofun
  | succ depth ih =>
    refine NodeText.loosen h ?_
    rintro _ ⟨⟩
    exact ⟨_, rfl, fun _ _ => ih⟩

theorem ValueText.eq_node (bounded : Bool) (depth : Nat) :
    ∃ inner, ValueText bounded depth = NodeText bounded inner := by
  cases depth with
  | zero => exact ⟨none, rfl⟩
  | succ depth => exact ⟨_, rfl⟩

/-- A number is an integer or a fraction. -/
theorem Number.ne_value (n : Number) {v : Value} (integer : ∀ i, v ≠ .integer i)
    (fraction : ∀ literal, v ≠ .fraction literal) : v ≠ n.value := by
  unfold value
  split
  · dsimp only
    split
    · split
      · exact integer _
      · exact fraction _
    · split
      · exact integer _
      · exact fraction _
  · exact fraction _

/-- What is written as `null` or as a string may be kept at any depth. -/
theorem ValueText.of_plain {bounded : Bool} {depth : Nat} {v : Value}
    (h : ValueText bounded depth v cs) (plain : v = .null ∨ ∃ s, v = .string s) (depth' : Nat) :
    ValueText true depth' v cs := by
  obtain ⟨inner, node⟩ := ValueText.eq_node bounded depth
  obtain ⟨inner', node'⟩ := ValueText.eq_node true depth'
  rw [node] at h
  rw [node']
  rcases plain with rfl | ⟨s, rfl⟩
  · generalize hv : Value.null = v at h
    cases h with
    | null => exact .null
    | number _ _ => exact absurd hv (Number.ne_value _ nofun nofun)
    | _ => cases hv
  · generalize hv : Value.string s = v at h
    cases h with
    | string h => exact .string h
    | number _ _ => exact absurd hv (Number.ne_value _ nofun nofun)
    | _ => cases hv

end FederatedLogin.Json
