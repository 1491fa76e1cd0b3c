import FederatedLogin.Proofs.Json.Tokens

/-!
# Reading texts of the grammar

A text is read as a value exactly if it stands for it (`parse_eq_ok_iff`). Readers are followed
level by level: one that takes the texts of a grammar off the front (`Follows`), and nothing else
(`Sound`), gives one for lists of them (`yields_list`, `listText_of_readList`), and one for values
whose containers nest one level deeper (`follows_node`, `sound_node`). A reader may refuse a text
that is not bounded, but it never reads it as anything else, which is why `Follows` comes in two
strengths (`Yields`).
-/

namespace FederatedLogin.Json

variable {α β : Type} {bounded : Bool}

/-! ## Readers and grammars -/

/-- The result is the value. If it does not have to be, it may be an error instead. -/
def Yields (bounded : Bool) (result : Except Fault α) (a : α) : Prop :=
  result = .ok a ∨ (bounded = false ∧ ∃ fault, result = .error fault)

/-- Where an error is not allowed, the result is the value. -/
theorem Yields.eq_ok {result : Except Fault α} {a : α} (h : Yields true result a) :
    result = .ok a := by
  rcases h with h | ⟨⟨⟩, -⟩
  exact h

/-- There is no other result than the value. -/
theorem Yields.unique {result : Except Fault α} {a b : α} (h : Yields bounded result a)
    (read : result = .ok b) : b = a := by
  rcases h with h | ⟨-, fault, h⟩
  · rw [h] at read
    cases read
    rfl
  · rw [h] at read
    cases read

/-- Steps that yield their values yield the value of the last one. -/
theorem Yields.bind {x : Except Fault α} {f : α → Except Fault β} {a : α} {b : β}
    (hx : Yields bounded x a) (hf : Yields bounded (f a) b) : Yields bounded (x >>= f) b := by
  rcases hx with rfl | ⟨loose, fault, rfl⟩
  · exact hf
  · exact Or.inr ⟨loose, fault, rfl⟩

/-- The reader takes the texts of the grammar off the front of every text that begins with them,
behind some space, if they end there. -/
def Follows (bounded : Bool) (r : Reader α) (g : Grammar α) : Prop :=
  ∀ ⦃a space text rest⦄, Space space → g a text → Delimited rest →
    Yields bounded (r (space ++ (text ++ rest))) (a, rest)

/-- What the reader takes off is a text of the grammar, behind some space. -/
def Sound (r : Reader α) (g : Grammar α) : Prop :=
  ∀ ⦃a cs rest⦄, r cs = .ok (a, rest) → ∃ space text, Space space ∧ g a text ∧
    cs = space ++ (text ++ rest)

/-- A reader that always takes the texts also takes them where it may refuse. -/
theorem Follows.weaken {r : Reader α} {g : Grammar α} (h : Follows true r g) :
    Follows bounded r g :=
  fun _ _ _ _ space text ends => Or.inl (h space text ends).eq_ok

/-! ## Space -/

theorem space_nil : Space [] := fun _ h => nomatch h

theorem Space.append {a b : List Char} (ha : Space a) (hb : Space b) : Space (a ++ b) := by
  intro c hc
  rcases List.mem_append.1 hc with hc | hc
  · exact ha c hc
  · exact hb c hc

/-- White space in front is skipped. -/
theorem skipSpace_append {space : List Char} (h : Space space) (cs : List Char) :
    skipSpace (space ++ cs) = skipSpace cs := List.dropWhile_append_of_pos h

theorem skipSpace_cons {c : Char} (h : isSpace c = false) (cs : List Char) :
    skipSpace (c :: cs) = c :: cs := by
  simp [skipSpace, h]

/-- What is left after white space begins with the first other character. -/
theorem skipSpace_append_cons {space : List Char} (h : Space space) {c : Char}
    (hc : isSpace c = false) (cs : List Char) : skipSpace (space ++ c :: cs) = c :: cs :=
  (skipSpace_append h _).trans (skipSpace_cons hc cs)

/-- Only space is passed over. -/
theorem exists_skipSpace (cs : List Char) : ∃ space, Space space ∧ cs = space ++ skipSpace cs :=
  ⟨cs.takeWhile isSpace, List.all_eq_true.1 List.all_takeWhile,
    List.takeWhile_append_dropWhile.symm⟩

/-- What is skipped is white space. -/
theorem exists_of_skipSpace {cs cs' : List Char} (h : skipSpace cs = cs') :
    ∃ space, Space space ∧ cs = space ++ cs' := by
  rw [← h]
  exact exists_skipSpace cs

/-- A number ends before white space, a comma or a closing bracket. -/
theorem Delimited.cons {c : Char} (h : isSpace c = true ∨ c = ',' ∨ c = ']' ∨ c = '}')
    (cs : List Char) : Delimited (c :: cs) := by
  rintro _ ⟨⟩
  exact h

/-- White space in between does not keep a text from ending a number. -/
theorem Delimited.append {space cs : List Char} (hs : Space space) (h : Delimited cs) :
    Delimited (space ++ cs) := by
  cases space with
  | nil => exact h
  | cons c space => exact .cons (Or.inl (hs c List.mem_cons_self)) _

/-! ## Lists -/

/-- The two characters that close a list. -/
def Closing (close : Char) : Prop := close = ']' ∨ close = '}'

/-- Reads the things of a list after the first one, up to the closing character. -/
def readMore (close : Char) (r : Reader α) : Nat → List α → Reader (List α)
  | 0, _, _ => .error .malformed
  | bound + 1, before, cs =>
    match skipSpace cs with
    | [] => .error .malformed
    | c :: cs =>
      if c = close then .ok (before.reverse, cs)
      else if c = ',' then r cs >>= fun p => readMore close r bound (p.1 :: before) p.2
      else .error .malformed

/-- Reads the things of a list up to the closing character. -/
def readList (close : Char) (r : Reader α) : Reader (List α) := fun cs =>
  if (skipSpace cs).head? = some close then .ok ([], (skipSpace cs).tail)
  else r (skipSpace cs) >>= fun p => readMore close r (p.2.length + 1) [p.1] p.2

/-- The items of an array are read as any list between commas is. -/
theorem readMoreItems_eq (item : Reader Value) (bound : Nat) :
    readMoreItems item bound = readMore ']' item bound := by
  induction bound with
  | zero => rfl
  | succ bound ih =>
    funext before cs
    unfold readMoreItems readMore
    rw [ih]
    cases skipSpace cs with
    | nil => rfl
    | cons c cs =>
      by_cases closed : c = ']'
      · rw [closed]
        rfl
      by_cases comma : c = ','
      · rw [comma]
        rfl
      · simp [closed, comma]

/-- The members of an object are read as any list between commas is. -/
theorem readMoreMembers_eq (member : Reader (String × Value)) (bound : Nat) :
    readMoreMembers member bound = readMore '}' member bound := by
  induction bound with
  | zero => rfl
  | succ bound ih =>
    funext before cs
    unfold readMoreMembers readMore
    rw [ih]
    cases skipSpace cs with
    | nil => rfl
    | cons c cs =>
      by_cases closed : c = '}'
      · rw [closed]
        rfl
      by_cases comma : c = ','
      · rw [comma]
        rfl
      · simp [closed, comma]

/-- An array is read as any list in brackets is. -/
theorem readItems_eq (item : Reader Value) : readItems item = readList ']' item := by
  funext cs
  unfold readItems readList
  simp only [readMoreItems_eq]
  cases skipSpace cs with
  | nil => rfl
  | cons c cs =>
    by_cases closed : c = ']'
    · rw [closed]
      rfl
    · simp [closed]

/-- An object is read as any list in brackets is. -/
theorem readMembers_eq (member : Reader (String × Value)) :
    readMembers member = readList '}' member := by
  funext cs
  unfold readMembers readList
  simp only [readMoreMembers_eq]
  cases skipSpace cs with
  | nil => rfl
  | cons c cs =>
    by_cases closed : c = '}'
    · rw [closed]
      rfl
    · simp [closed]

theorem Closing.not_space {close : Char} (h : Closing close) : isSpace close = false := by
  rcases h with rfl | rfl <;> rfl

theorem Closing.ne_comma {close : Char} (h : Closing close) : ',' ≠ close := by
  rcases h with rfl | rfl <;> decide

theorem Closing.delimited {close : Char} (h : Closing close) (cs : List Char) :
    Delimited (close :: cs) :=
  .cons (Or.inr (Or.inr h)) cs

variable {g : Grammar α} {r : Reader α} {close : Char} {as : List α} {text : List Char}

/-- A thing of a list ends where the rest of the list begins. -/
theorem MoreText.delimited (h : MoreText g as text) (hc : Closing close) (rest : List Char) :
    Delimited (text ++ close :: rest) := by
  cases h with
  | nil space => exact .append space (hc.delimited rest)
  | cons before =>
    rw [List.append_assoc]
    exact .append before (.cons (Or.inr (Or.inl rfl)) _)

/-- Every item of a list takes a character at least. -/
theorem MoreText.length_le (h : MoreText g as text) : as.length ≤ text.length := by
  induction h with
  | nil => exact Nat.zero_le _
  | cons before after h more ih =>
    simp only [List.length_append, List.length_cons]
    omega

/-- The rest of a list is read item by item, up to the closing bracket, with a bound that leaves one
step for each item. -/
theorem yields_more (follows : Follows bounded r g) (hc : Closing close) (h : MoreText g as text)
    (before : List α) (rest : List Char) (extra : Nat) :
    Yields bounded (readMore close r (as.length + 1 + extra) before (text ++ close :: rest))
      (before.reverse ++ as, rest) := by
  induction h generalizing before with
  | @nil space hs =>
    rw [List.length_nil, Nat.zero_add, Nat.add_comm, readMore,
      skipSpace_append_cons hs hc.not_space, List.append_nil]
    exact Or.inl (if_pos rfl)
  | @cons a as space after cs rest' hs ha ht more ih =>
    have bound : (a :: as).length + 1 + extra = as.length + 1 + extra + 1 := by
      rw [List.length_cons]
      omega
    have item : Yields bounded (r (after ++ (cs ++ (rest' ++ close :: rest))))
        (a, rest' ++ close :: rest) := follows ha ht (more.delimited hc rest)
    have others := item.bind (f := fun p => readMore close r (as.length + 1 + extra)
      (p.1 :: before) p.2) (ih (a :: before))
    simp only [List.append_assoc, List.cons_append]
    rw [bound, readMore, skipSpace_append_cons hs (by decide)]
    simp only [if_neg hc.ne_comma, if_true]
    rw [List.reverse_cons, List.append_assoc] at others
    exact others

/-- A list is taken off the front if its things are, and none of them begins with space or the
closing character. -/
theorem yields_list (follows : Follows bounded r g) (hc : Closing close)
    (starts : ∀ a cs, g a cs → ∃ c cs', cs = c :: cs' ∧ isSpace c = false ∧ c ≠ close)
    (h : ListText g as text) (rest : List Char) :
    Yields bounded (readList close r (text ++ close :: rest)) (as, rest) := by
  cases h with
  | nil hs =>
    unfold readList
    rw [skipSpace_append_cons hs hc.not_space]
    exact Or.inl (if_pos rfl)
  | @cons a as space cs rest' hs ht more =>
    obtain ⟨c, cs', rfl, solid, other⟩ := starts a cs ht
    have item : Yields bounded (r (c :: cs' ++ (rest' ++ close :: rest)))
        (a, rest' ++ close :: rest) := follows space_nil ht (more.delimited hc rest)
    obtain ⟨extra, bound⟩ : ∃ extra, (rest' ++ close :: rest).length + 1
        = as.length + 1 + extra := by
      have := more.length_le
      refine ⟨(rest' ++ close :: rest).length - as.length, ?_⟩
      rw [List.length_append]
      omega
    have others := item.bind (f := fun p => readMore close r (p.2.length + 1) [p.1] p.2)
      (by dsimp only; rw [bound]; exact yields_more follows hc more [a] rest extra)
    unfold readList
    simp only [List.append_assoc, List.cons_append]
    rw [skipSpace_append_cons hs solid, List.head?_cons, if_neg fun h => other (Option.some.inj h)]
    exact others

/-- What is read as the rest of a list is written like one. -/
theorem moreText_of_readMore (sound : Sound r g) {bound : Nat} {before as : List α}
    {cs rest : List Char} (h : readMore close r bound before cs = .ok (as, rest)) :
    ∃ as' text, MoreText g as' text ∧ cs = text ++ close :: rest ∧ as = before.reverse ++ as' := by
  induction bound generalizing before cs with
  | zero => cases h
  | succ bound ih =>
    rw [readMore] at h
    split at h
    · cases h
    · next c cs' hs =>
      obtain ⟨space, isSpace, rfl⟩ := exists_of_skipSpace hs
      split at h
      · next closed =>
        cases h
        exact ⟨[], space, .nil isSpace, by rw [closed], (List.append_nil _).symm⟩
      · split at h
        · next comma =>
          obtain ⟨⟨a, cs''⟩, item, others⟩ := bind_eq_ok_iff.1 h
          obtain ⟨after, text, isSpace', ht, rfl⟩ := sound item
          obtain ⟨as', rest', more, rfl, rfl⟩ := ih others
          refine ⟨a :: as', _, .cons isSpace isSpace' ht more, ?_, ?_⟩
          · simp only [comma, List.append_assoc, List.cons_append]
          · rw [List.reverse_cons, List.append_assoc]
            rfl
        · cases h

/-- What is read as a list is written like one. -/
theorem listText_of_readList (sound : Sound r g) {cs rest : List Char}
    (h : readList close r cs = .ok (as, rest)) :
    ∃ text, ListText g as text ∧ cs = text ++ close :: rest := by
  obtain ⟨space, isSpace, whole⟩ := exists_skipSpace cs
  unfold readList at h
  split at h
  · next closed =>
    obtain ⟨cs', hs⟩ := List.head?_eq_some_iff.1 closed
    rw [hs] at h whole
    cases h
    exact ⟨space, .nil isSpace, whole⟩
  · obtain ⟨⟨a, cs''⟩, item, others⟩ := bind_eq_ok_iff.1 h
    obtain ⟨before, text, isSpace', ht, started⟩ := sound item
    obtain ⟨as', rest', more, rfl, rfl⟩ := moreText_of_readMore sound others
    refine ⟨_, .cons (isSpace.append isSpace') ht more, ?_⟩
    rw [whole, started]
    simp only [List.append_assoc]

/-! ## Members -/

variable {item : Reader Value} {items : String → Grammar Value}

/-- A colon is read with the white space before it. -/
theorem readColon_text {space : List Char} (h : Space space) (rest : List Char) :
    readColon (space ++ ':' :: rest) = .ok ((), rest) := by
  unfold readColon
  rw [skipSpace_append_cons h (by decide)]
  rfl

/-- What is read as a colon is one, perhaps behind white space. -/
theorem readColon_eq_ok {cs rest : List Char} {u : Unit} (h : readColon cs = .ok (u, rest)) :
    ∃ space, Space space ∧ cs = space ++ ':' :: rest := by
  unfold readColon at h
  split at h
  · next hs =>
    cases h
    exact exists_of_skipSpace hs
  · cases h

/-- Members are read as they are written, if their values are. -/
theorem follows_member (follows : ∀ name, Follows bounded item (items name)) :
    Follows bounded (readMember .keep item) (MemberText items) := by
  intro m space text rest hs h ends
  obtain @⟨name, v, quoted, before, after, cs, ⟨chars⟩, hb, ha, hv⟩ := h
  have value := (follows name ha hv ends).bind
    (f := fun p => Except.ok ((name, p.1), p.2)) (Or.inl rfl)
  unfold readMember
  simp only [List.append_assoc, List.cons_append, List.nil_append]
  rw [skipSpace_append_cons hs (by decide)]
  simp only [readString_text chars]
  show Yields bounded (readColon (before ++ ':' :: (after ++ (cs ++ rest))) >>= _) _
  rw [readColon_text hb]
  exact value

/-- What is read as a member is written like one, if values are. -/
theorem sound_member (sound : ∀ name, Sound item (items name)) :
    Sound (readMember .keep item) (MemberText items) := by
  intro m cs rest h
  unfold readMember at h
  split at h
  · next cs' hs =>
    obtain ⟨space, isSpace, rfl⟩ := exists_of_skipSpace hs
    obtain ⟨⟨name, cs₁⟩, string, h⟩ := bind_eq_ok_iff.1 h
    obtain ⟨⟨_, cs₂⟩, colon, h⟩ := bind_eq_ok_iff.1 h
    obtain ⟨⟨v, cs₃⟩, value, h⟩ := bind_eq_ok_iff.1 h
    cases h
    obtain ⟨text, chars, rfl⟩ := charactersText_of_readString string
    obtain ⟨before, isSpace₁, rfl⟩ := readColon_eq_ok colon
    obtain ⟨after, text', isSpace₂, ht, rfl⟩ := sound name value
    refine ⟨space, _, isSpace, .intro (.quoted chars) isSpace₁ isSpace₂ ht, ?_⟩
    simp only [List.append_assoc, List.cons_append, List.nil_append]
  · cases h

/-- A member begins with the quote of its name. -/
theorem head_member {m : String × Value} {cs : List Char} (h : MemberText items m cs) :
    ∃ cs', cs = '"' :: cs' := by
  obtain @⟨name, v, quoted, before, after, cs, ⟨chars⟩, -, -, -⟩ := h
  exact ⟨_, rfl⟩

/-- An object is taken off the front, whatever the names of its members allow. -/
theorem yields_members (follows : ∀ name, Follows bounded item (items name))
    {ms : List (String × Value)} {text : List Char} (h : ListText (MemberText items) ms text)
    (rest : List Char) :
    Yields bounded (readMembers (readMember .keep item) (text ++ '}' :: rest)) (ms, rest) := by
  rw [readMembers_eq]
  refine yields_list (follows_member follows) (Or.inr rfl) (fun m cs hm => ?_) h rest
  obtain ⟨cs', rfl⟩ := head_member hm
  exact ⟨_, _, rfl, by decide, by decide⟩

/-! ## Values -/

/-- A value is read behind white space as without it. -/
theorem readNode_append {space : List Char} (h : Space space) (inner : Option (Reader Value))
    (cs : List Char) : readNode .keep inner (space ++ cs) = readNode .keep inner cs := by
  unfold readNode
  rw [skipSpace_append h]

/-- A character that begins a number is no other one. -/
theorem ne_of_numeric {c d : Char} (h : c = '-' ∨ c.isDigit = true) (minus : d ≠ '-')
    (digit : d.isDigit = false) : c ≠ d := by
  rintro rfl
  rcases h with rfl | h
  · exact minus rfl
  · rw [digit] at h
    cases h

/-- No number begins with white space. -/
theorem not_space_of_numeric {c : Char} (h : c = '-' ∨ c.isDigit = true) : isSpace c = false := by
  unfold isSpace
  simp only [Bool.or_eq_false_iff, decide_eq_false_iff_not]
  have other := @ne_of_numeric c
  exact ⟨⟨⟨other h (by decide) (by decide), other h (by decide) (by decide)⟩,
    other h (by decide) (by decide)⟩, other h (by decide) (by decide)⟩

/-- What begins with a sign or a digit is read as a number. -/
theorem readNode_number {c : Char} (h : c = '-' ∨ c.isDigit = true)
    (inner : Option (Reader Value)) (cs : List Char) :
    readNode .keep inner (c :: cs) = readNumber .keep (c :: cs) := by
  have other (d : Char) (minus : d ≠ '-') (digit : d.isDigit = false) : ¬ c = d :=
    ne_of_numeric h minus digit
  unfold readNode
  rw [skipSpace_cons (not_space_of_numeric h)]
  simp only [if_neg (other '"' (by decide) (by decide)), if_neg (other 'n' (by decide) (by decide)),
    if_neg (other 't' (by decide) (by decide)), if_neg (other 'f' (by decide) (by decide)),
    if_neg (other '[' (by decide) (by decide)), if_neg (other '\x7b' (by decide) (by decide))]

/-- The text of an object begins with a brace. -/
theorem head_object {items : String → Grammar Value} {ms : List (String × Value)} {cs : List Char}
    (h : ObjectText items ms cs) : ∃ cs', cs = '\x7b' :: cs' := by
  cases h with
  | intro _ => exact ⟨_, rfl⟩

/-- A value begins neither with space nor with the bracket that closes a list. -/
theorem head_node {inner : Option (Grammar Value)} {v : Value} {cs : List Char}
    (h : NodeText bounded inner v cs) :
    ∃ c cs', cs = c :: cs' ∧ isSpace c = false ∧ c ≠ ']' := by
  cases h with
  | null => exact ⟨'n', _, rfl, rfl, by decide⟩
  | yes => exact ⟨'t', _, rfl, rfl, by decide⟩
  | no => exact ⟨'f', _, rfl, rfl, by decide⟩
  | number h _ =>
    obtain ⟨c, cs', rfl, numeric⟩ := Number.head_number h
    exact ⟨c, cs', rfl, not_space_of_numeric numeric,
      ne_of_numeric numeric (by decide) (by decide)⟩
  | string h =>
    cases h with
    | quoted _ => exact ⟨'"', _, rfl, rfl, by decide⟩
  | array _ _ => exact ⟨'[', _, rfl, rfl, by decide⟩
  | object _ h =>
    obtain ⟨cs', rfl⟩ := head_object h
    exact ⟨_, _, rfl, rfl, by decide⟩

/-- A number is taken off the front. One that is out of range is refused. -/
theorem yields_number {n : Number} {text rest : List Char} (h : NumberText n text)
    (range : bounded = true → n.inRange = true) (ends : Delimited rest)
    (inner : Option (Reader Value)) :
    Yields bounded (readNode .keep inner (text ++ rest)) (n.value, rest) := by
  obtain ⟨c, cs', rfl, numeric⟩ := Number.head_number h
  have read := Number.read?_text h ends
  rw [List.cons_append] at read ⊢
  rw [readNode_number numeric]
  unfold readNumber
  rw [read]
  cases inRange : n.inRange with
  | true => exact Or.inl (if_neg (by simp [inRange]))
  | false =>
    refine Or.inr ⟨?_, _, if_pos ⟨rfl, inRange⟩⟩
    cases bounded with
    | false => rfl
    | true =>
      rw [range rfl] at inRange
      cases inRange

/-- An object is taken off the front if the values of its members are, however their names allow
them to be written. -/
theorem yields_object {items : String → Grammar Value} {r : Reader Value}
    (follows : ∀ name, Follows bounded r (items name)) {ms : List (String × Value)}
    {text : List Char} (h : ObjectText items ms text) (rest : List Char) :
    Yields bounded (readNode .keep (some r) (text ++ rest)) (.object ms, rest) := by
  obtain ⟨h⟩ := h
  simp only [List.append_assoc, List.cons_append, List.nil_append]
  exact (yields_members follows h rest).bind
    (f := fun p => Except.ok (Value.object p.1, p.2)) (Or.inl rfl)

/-- A value is taken off the front if the values inside it are. Without a reader for those, a
container is refused. -/
theorem follows_node {reader : Option (Reader Value)} {inner : Option (Grammar Value)}
    (inside : ∀ g, inner = some g →
      (∃ r, reader = some r ∧ Follows bounded r g) ∨ (reader = none ∧ bounded = false))
    (starts : ∀ g, inner = some g → ∀ v cs, g v cs →
      ∃ c cs', cs = c :: cs' ∧ isSpace c = false ∧ c ≠ ']') :
    Follows bounded (readNode .keep reader) (NodeText bounded inner) := by
  intro v space text rest hs h ends
  rw [readNode_append hs]
  cases h with
  | null => exact Or.inl rfl
  | yes => exact Or.inl rfl
  | no => exact Or.inl rfl
  | number h range => exact yields_number h range ends reader
  | string h =>
    obtain ⟨chars⟩ := h
    left
    simp only [List.append_assoc, List.cons_append, List.nil_append]
    refine bind_eq_ok_iff.2 ⟨_, readString_text chars rest, rfl⟩
  | @array g vs cs hi h =>
    simp only [List.append_assoc, List.cons_append, List.nil_append]
    rcases inside g hi with ⟨r, rfl, follows⟩ | ⟨rfl, loose⟩
    · have items := yields_list follows (Or.inl rfl) (starts g hi) h rest
      rw [← readItems_eq] at items
      exact items.bind (f := fun p => Except.ok (Value.array p.1, p.2)) (Or.inl rfl)
    · exact Or.inr ⟨loose, _, rfl⟩
  | @object g ms cs hi h =>
    rcases inside g hi with ⟨r, rfl, follows⟩ | ⟨rfl, loose⟩
    · exact yields_object (fun _ => follows) h rest
    · obtain ⟨cs', rfl⟩ := head_object h
      exact Or.inr ⟨loose, _, rfl⟩

/-- What is read as a word is that word. -/
theorem readWord_eq_ok {word cs rest : List Char} {v w : Value}
    (h : readWord word v cs = .ok (w, rest)) : w = v ∧ cs = word ++ rest := by
  unfold readWord at h
  split at h
  · next starts =>
    cases h
    obtain ⟨rest, rfl⟩ := List.isPrefixOf_iff_prefix.1 starts
    exact ⟨rfl, by rw [List.drop_left]⟩
  · cases h

section Taken

variable {inner : Option (Grammar Value)} {g : Grammar Value} {r : Reader Value} {v : Value}
  {cs rest : List Char}

/-- What is read as a number is written like one. -/
theorem nodeText_of_readNumber (h : readNumber .keep cs = .ok (v, rest)) :
    ∃ text, NodeText true inner v text ∧ cs = text ++ rest := by
  unfold readNumber at h
  split at h
  · cases h
  · next n cs₁ read =>
    split at h
    · cases h
    · next inRange =>
      cases h
      obtain ⟨text, number, whole⟩ := Number.numberText_of_read? read
      exact ⟨text, .number number fun _ => by simpa using inRange, whole⟩

/-- What is read behind a bracket is written like an array. -/
theorem nodeText_of_readItems (hi : inner = some g) (sound : Sound r g) {vs : List Value}
    (h : readItems r cs = .ok (vs, rest)) :
    ∃ text, NodeText true inner (.array vs) text ∧ '[' :: cs = text ++ rest := by
  rw [readItems_eq] at h
  obtain ⟨text, list, rfl⟩ := listText_of_readList sound h
  exact ⟨_, .array hi list, by simp⟩

/-- What is read behind a brace is written like an object. -/
theorem nodeText_of_readMembers (hi : inner = some g) (sound : Sound r g)
    {ms : List (String × Value)} (h : readMembers (readMember .keep r) cs = .ok (ms, rest)) :
    ∃ text, NodeText true inner (.object ms) text ∧ '\x7b' :: cs = text ++ rest := by
  rw [readMembers_eq] at h
  obtain ⟨text, list, rfl⟩ := listText_of_readList (sound_member fun _ => sound) h
  exact ⟨_, .object hi (.intro list), by simp⟩

end Taken

/-- What is read as a value stands for it, if that is so for the values inside. -/
theorem sound_node {reader : Option (Reader Value)} {inner : Option (Grammar Value)}
    (inside : ∀ r, reader = some r → ∃ g, inner = some g ∧ Sound r g) :
    Sound (readNode .keep reader) (NodeText true inner) := by
  intro v cs rest h
  unfold readNode at h
  split at h
  · cases h
  · next c cs' hs =>
    obtain ⟨space, isSpace, rfl⟩ := exists_of_skipSpace hs
    -- It is enough that what stands behind the space begins with a text of the value.
    suffices taken : ∃ text, NodeText true inner v text ∧ c :: cs' = text ++ rest by
      obtain ⟨text, node, whole⟩ := taken
      exact ⟨space, text, isSpace, node, by rw [whole]⟩
    split at h
    · next quote =>
      obtain ⟨⟨s, cs₁⟩, string, h⟩ := bind_eq_ok_iff.1 h
      cases h
      obtain ⟨text, chars, rfl⟩ := charactersText_of_readString string
      exact ⟨_, .string (.quoted chars), by simp [quote]⟩
    split at h
    · obtain ⟨rfl, whole⟩ := readWord_eq_ok h
      exact ⟨_, .null, whole⟩
    split at h
    · obtain ⟨rfl, whole⟩ := readWord_eq_ok h
      exact ⟨_, .yes, whole⟩
    split at h
    · obtain ⟨rfl, whole⟩ := readWord_eq_ok h
      exact ⟨_, .no, whole⟩
    split at h
    · next bracket =>
      split at h
      · cases h
      · next r =>
        obtain ⟨⟨vs, cs₁⟩, items, h⟩ := bind_eq_ok_iff.1 h
        cases h
        obtain ⟨g, hi, sound⟩ := inside r rfl
        rw [bracket]
        exact nodeText_of_readItems hi sound items
    split at h
    · next brace =>
      split at h
      · cases h
      · next r =>
        obtain ⟨⟨ms, cs₁⟩, members, h⟩ := bind_eq_ok_iff.1 h
        cases h
        obtain ⟨g, hi, sound⟩ := inside r rfl
        rw [brace]
        exact nodeText_of_readMembers hi sound members
    · exact nodeText_of_readNumber h

/-- The text of a value begins with its first sign, which closes no array. -/
theorem head_value {depth : Nat} {v : Value} {cs : List Char} (h : ValueText bounded depth v cs) :
    ∃ c cs', cs = c :: cs' ∧ isSpace c = false ∧ c ≠ ']' := by
  obtain ⟨inner, node⟩ := ValueText.eq_node bounded depth
  rw [node] at h
  exact head_node h

/-- Values are taken off the front. Those that nest too deep may be refused, if they do not have to
be kept. -/
theorem follows_value {depth limit : Nat} (h : bounded = true → depth ≤ limit) :
    Follows bounded (readValue .keep limit) (ValueText bounded depth) := by
  induction depth generalizing limit with
  | zero =>
    cases limit with
    | zero => exact follows_node nofun nofun
    | succ limit => exact follows_node nofun nofun
  | succ depth ih =>
    have starts : ∀ g, some (ValueText bounded depth) = some g → ∀ v cs, g v cs →
        ∃ c cs', cs = c :: cs' ∧ isSpace c = false ∧ c ≠ ']' := by
      rintro _ ⟨⟩ v cs
      exact head_value
    cases limit with
    | zero =>
      refine follows_node (fun g _ => Or.inr ⟨rfl, ?_⟩) starts
      cases bounded with
      | false => rfl
      | true => exact absurd (h rfl) (Nat.not_succ_le_zero depth)
    | succ limit =>
      refine follows_node ?_ starts
      rintro _ ⟨⟩
      exact Or.inl ⟨_, rfl, ih fun b => Nat.le_of_succ_le_succ (h b)⟩

/-- What is read as a value is written like one, by induction on the depth. -/
theorem sound_value (depth : Nat) : Sound (readValue .keep depth) (ValueText true depth) := by
  induction depth with
  | zero => exact sound_node nofun
  | succ depth ih =>
    refine sound_node ?_
    rintro _ ⟨⟩
    exact ⟨_, rfl, ih⟩

/-! ## Documents -/

/-- A text that the grammar allows, with white space around it, is read whole. -/
theorem yields_readAll {g : Grammar α} {r : Reader α} (follows : Follows bounded r g) {a : α}
    {text : String} (h : Padded g a text.toList) : Yields bounded (readAll r text) a := by
  generalize whole : text.toList = cs at h
  obtain @⟨a, before, cs, after, hb, ht, ha⟩ := h
  have nothing : skipSpace after = [] := by
    have skipped := skipSpace_append ha []
    rwa [List.append_nil] at skipped
  have ends : Delimited after := by
    have delimited : Delimited (after ++ []) := .append ha nofun
    rwa [List.append_nil] at delimited
  unfold readAll
  rw [whole]
  exact (follows hb ht ends).bind (Or.inl (if_pos nothing))

/-- A text that is read whole is one that the grammar allows, with white space around it. -/
theorem padded_of_readAll {g : Grammar α} {r : Reader α} (sound : Sound r g) {a : α}
    {text : String} (h : readAll r text = .ok a) : Padded g a text.toList := by
  obtain ⟨⟨b, cs⟩, read, h⟩ := bind_eq_ok_iff.1 h
  obtain ⟨before, text', isSpace, ht, whole⟩ := sound read
  dsimp only at h
  split at h
  · next nothing =>
    cases h
    obtain ⟨after, isSpace', rest⟩ := exists_of_skipSpace nothing
    rw [List.append_nil] at rest
    rw [whole]
    exact .intro isSpace ht (rest ▸ isSpace')
  · cases h

/-- A text is read as a value exactly if it stands for it. -/
theorem parse_eq_ok_iff {text : String} {v : Value} :
    parse text = .ok v ↔ DocumentText v text := by
  constructor
  · intro h
    exact padded_of_readAll (sound_value maxDepth) h
  · intro h
    exact (yields_readAll (follows_value fun _ => Nat.le_refl _) h).eq_ok

end FederatedLogin.Json
