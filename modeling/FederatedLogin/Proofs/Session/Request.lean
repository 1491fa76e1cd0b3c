import FederatedLogin.Proofs.Session.Text

/-!
# The cookies of a request

`FirstCookie` says which value the first cookie of a name has in the headers of a request. Its key
is that a cookie is read as a name and a value exactly when it is written so, with or without white
space around them (`isCookie_of_nameAndValue?`, `nameAndValue?_of_isCookie`). With a name that can
be told from the text around it (`Config.Readable`), a request is for the session whose identifier
is spelled, in any way, by the first cookie of that name, and for no other
(`requestedId?_eq_some_iff`).
-/

namespace FederatedLogin

namespace Text

variable {cs a b : List Char}

/-! ## Trimmed texts -/

/-- The text is white space. -/
def Blank (cs : List Char) : Prop := ∀ c ∈ cs, isBlank c = true

theorem blank_nil : Blank [] := fun _ h => nomatch h

theorem Blank.append (ha : Blank a) (hb : Blank b) : Blank (a ++ b) := fun c hc =>
  (List.mem_append.1 hc).elim (ha c) (hb c)

/-- White space in front does not matter to what is left when it is trimmed. -/
theorem trimLeft_append (ha : Blank a) (cs : List Char) : trimLeft (a ++ cs) = trimLeft cs :=
  List.dropWhile_append_of_pos ha

theorem trimLeft_of_blank (h : Blank cs) : trimLeft cs = [] := by
  rw [← List.append_nil cs, trimLeft_append h, trimLeft_nil]

/-- Only white space is cut off on the left. -/
theorem exists_trimLeft (cs : List Char) : ∃ a, Blank a ∧ cs = a ++ trimLeft cs :=
  ⟨cs.takeWhile isBlank, List.all_eq_true.1 List.all_takeWhile,
    List.takeWhile_append_dropWhile.symm⟩

/-- Only white space is cut off on the right. -/
theorem exists_trimRight (cs : List Char) : ∃ b, Blank b ∧ cs = trimRight cs ++ b := by
  obtain ⟨a, ha, h⟩ := exists_trimLeft cs.reverse
  have mirrored := congrArg List.reverse h
  rw [List.reverse_reverse, List.reverse_append] at mirrored
  exact ⟨a.reverse, fun c hc => ha c (List.mem_reverse.1 hc), mirrored⟩

/-- A text is what is left of it between white space. -/
theorem exists_trim (cs : List Char) : ∃ a b, Blank a ∧ Blank b ∧ cs = a ++ trim cs ++ b := by
  obtain ⟨a, ha, left⟩ := exists_trimLeft cs
  obtain ⟨b, hb, right⟩ := exists_trimRight (trimLeft cs)
  refine ⟨a, b, ha, hb, ?_⟩
  rw [List.append_assoc]
  exact left.trans (congrArg (a ++ ·) right)

/-- A character that is no white space stops the cutting on the left. -/
theorem trimLeft_append_cons {c : Char} (hc : isBlank c = false) (a b : List Char) :
    trimLeft (a ++ c :: b) = trimLeft a ++ c :: b := by
  induction a with
  | nil => exact trimLeft_cons_of_not_blank hc b
  | cons d a ih =>
    unfold trimLeft at ih ⊢
    rw [List.cons_append, List.dropWhile_cons, List.dropWhile_cons, ih]
    split <;> rfl

/-- A character that is no white space stops the cutting on both sides. -/
theorem trim_append_cons {c : Char} (hc : isBlank c = false) (a b : List Char) :
    trim (a ++ c :: b) = trimLeft a ++ c :: trimRight b := by
  have mirrored : (trimLeft a ++ c :: b).reverse = b.reverse ++ c :: (trimLeft a).reverse := by
    simp
  show (trimLeft (trimLeft (a ++ c :: b)).reverse).reverse = _
  rw [trimLeft_append_cons hc, mirrored, trimLeft_append_cons hc]
  simp [trimRight, trimLeft]

/-- White space around a text does not matter. -/
theorem trim_pad (ha : Blank a) (hb : Blank b) (cs : List Char) :
    trim (a ++ cs ++ b) = trim cs := by
  by_cases h : Blank cs
  · unfold trim
    rw [trimLeft_of_blank h, trimLeft_of_blank ((ha.append h).append hb)]
  · obtain ⟨c, hc, solid⟩ : ∃ c ∈ cs, isBlank c = false := by
      simpa [Blank] using h
    obtain ⟨x, y, rfl⟩ := List.append_of_mem hc
    have right : trimRight (y ++ b) = trimRight y := by
      have mirrored : Blank b.reverse := fun c hc => hb c (List.mem_reverse.1 hc)
      show (trimLeft (y ++ b).reverse).reverse = _
      rw [List.reverse_append, trimLeft_append mirrored]
      rfl
    have around : a ++ (x ++ c :: y) ++ b = (a ++ x) ++ c :: (y ++ b) := by simp
    rw [around, trim_append_cons solid, trim_append_cons solid, trimLeft_append ha, right]

/-- Trimming white space in front first changes nothing. -/
theorem trim_trimLeft (cs : List Char) : trim (trimLeft cs) = trim cs := by
  obtain ⟨a, ha, h⟩ := exists_trimLeft cs
  have padded := trim_pad ha blank_nil (trimLeft cs)
  rw [List.append_nil, ← h] at padded
  exact padded.symm

/-- Trimming white space at the end first changes nothing. -/
theorem trim_trimRight (cs : List Char) : trim (trimRight cs) = trim cs := by
  obtain ⟨b, hb, h⟩ := exists_trimRight cs
  have padded := trim_pad blank_nil hb (trimRight cs)
  rw [List.nil_append, ← h] at padded
  exact padded.symm

/-- A text without white space is left as it is. -/
theorem trim_of_forall (h : ∀ c ∈ cs, isBlank c = false) : trim cs = cs := by
  obtain ⟨a, b, ha, hb, hcs⟩ := exists_trim cs
  -- What was cut off is white space, of which the text has none.
  have none {pad : List Char} (hp : Blank pad) (sub : ∀ c ∈ pad, c ∈ cs) : pad = [] := by
    cases pad with
    | nil => rfl
    | cons c pad =>
      have solid := h c (sub c List.mem_cons_self)
      rw [hp c List.mem_cons_self] at solid
      cases solid
  have left : a = [] := none ha fun c hc => by rw [hcs]; simp [hc]
  have right : b = [] := none hb fun c hc => by rw [hcs]; simp [hc]
  rw [left, right, List.nil_append, List.append_nil] at hcs
  exact hcs.symm

/-- A text with no white space around it has none on its left. -/
theorem trimLeft_of_trim (h : trim cs = cs) : trimLeft cs = cs := by
  obtain ⟨a, -, left⟩ := exists_trimLeft cs
  obtain ⟨b, -, right⟩ := exists_trimRight (trimLeft cs)
  change trimLeft cs = trim cs ++ b at right
  rw [h] at right
  have lengths := congrArg List.length (left.trans (congrArg (a ++ ·) right))
  simp only [List.length_append] at lengths
  have nothing : b = [] := List.eq_nil_of_length_eq_zero (by omega)
  rw [right, nothing, List.append_nil]

/-- A text with no white space around it has none on its right. -/
theorem trimRight_of_trim (h : trim cs = cs) : trimRight cs = cs := by
  have right : trimRight (trimLeft cs) = cs := h
  rwa [trimLeft_of_trim h] at right

/-! ## Joined texts -/

section Join

variable {sep : Char} {p : List Char} {ps : List (List Char)}

theorem join_cons (sep : Char) (p : List Char) (ps : List (List Char)) :
    join sep (p :: ps) = p ++ ps.flatMap (sep :: ·) := by
  induction ps generalizing p with
  | nil => simp [join]
  | cons q ps ih => rw [join, ih, List.flatMap_cons, List.cons_append]

/-- The pieces of texts that are joined are those of one text after the other. -/
theorem pieces_join (nonempty : ps ≠ []) : pieces sep (join sep ps) = ps.flatMap (pieces sep) := by
  induction ps with
  | nil => exact absurd rfl nonempty
  | cons p ps ih =>
    cases ps with
    | nil => simp [join]
    | cons q ps => rw [join, pieces_append, ih (List.cons_ne_nil q ps), List.flatMap_cons (x := p)]

/-- Texts that are joined are the pieces again, if none of them holds the separator. -/
theorem pieces_join_of_not_mem (nonempty : ps ≠ []) (h : ∀ q ∈ ps, sep ∉ q) :
    pieces sep (join sep ps) = ps := by
  have single : ps.map (pieces sep) = ps.map fun q => [q] :=
    List.map_congr_left fun q hq => pieces_of_not_mem (h q hq)
  rw [pieces_join nonempty, List.flatMap_def, single, ← List.flatMap_def, List.flatMap_singleton']

/-- Characters of joined texts are those of the texts and the separator. -/
theorem all_join {P : Char → Bool} (h : P sep = true) :
    (join sep ps).all P = true ↔ ∀ p ∈ ps, p.all P = true := by
  induction ps with
  | nil => simp [join]
  | cons p ps ih =>
    cases ps with
    | nil => simp [join]
    | cons q ps =>
      rw [join, List.all_append, List.all_cons, h, Bool.true_and, Bool.and_eq_true, ih,
        List.forall_mem_cons (l := q :: ps)]

end Join

end Text

namespace Session

open Text

/-! ## Cookies -/

/-- The cookie has the name and the value, with or without white space around them. -/
def IsCookie (name value cookie : List Char) : Prop :=
  ∃ a b c d, Blank a ∧ Blank b ∧ Blank c ∧ Blank d ∧
    cookie = a ++ name ++ b ++ '=' :: (c ++ value ++ d)

variable {name value : List Char}

/-- A cookie that is read as a name and a value is written so. -/
theorem isCookie_of_nameAndValue? {cookie : List Char}
    (h : nameAndValue? cookie = some (name, value)) :
    IsCookie name value cookie := by
  obtain ⟨⟨x, y⟩, cut, pair⟩ := Option.map_eq_some_iff.1 h
  cases pair
  obtain ⟨a, d, ha, hd, whole⟩ := exists_trim cookie
  obtain ⟨a', b, ha', hb, left⟩ := exists_trim x
  obtain ⟨c, d', hc, hd', right⟩ := exists_trim y
  refine ⟨a ++ a', b, c, d' ++ d, ha.append ha', hb, hc, hd'.append hd, ?_⟩
  rw [(cut?_eq_some_iff.1 cut).1] at whole
  rw [whole]
  conv => lhs; rw [left, right]
  simp

/-- A cookie is read as its name and its value. -/
theorem nameAndValue?_of_isCookie (trimmed : trim name = name) (noEquals : '=' ∉ name)
    {cookie : List Char} (h : IsCookie name value cookie) :
    nameAndValue? cookie = some (name, trim value) := by
  obtain ⟨a, b, c, d, ha, hb, hc, hd, rfl⟩ := h
  have cut : cut? '=' (trim (a ++ name ++ b ++ '=' :: (c ++ value ++ d)))
      = some (trimLeft (a ++ name ++ b), trimRight (c ++ value ++ d)) := by
    refine cut?_eq_some_iff.2 ⟨trim_append_cons (by decide) _ _, fun h => ?_⟩
    have solid {pad : List Char} (hp : Blank pad) : '=' ∉ pad :=
      fun h => absurd (hp _ h) (by decide)
    have mem := (List.dropWhile_sublist _).mem h
    simp only [List.mem_append] at mem
    exact mem.elim (fun h => h.elim (solid ha) noEquals) (solid hb)
  unfold nameAndValue?
  rw [cut]
  show some (trim _, trim _) = _
  rw [trim_trimLeft, trim_trimRight, trim_pad ha hb, trim_pad hc hd, trimmed]

/-! ## Requests -/

/-- Of the cookies with the name in the headers of a request, the first one has the value. Headers
that are not visible ASCII are passed over. -/
inductive FirstCookie (name value : List Char) : List String → Prop where
  | here {header : String} {headers : List String} {before after : List (List Char)}
      {cookie : List Char}
      (visible : header.toList.all isVisible = true)
      (cut : cookies header = before ++ cookie :: after)
      (others : ∀ c ∈ before, ∀ v, ¬ IsCookie name v c)
      (first : IsCookie name value cookie) : FirstCookie name value (header :: headers)
  | later {header : String} {headers : List String}
      (passed : header.toList.all isVisible = true → ∀ c ∈ cookies header, ∀ v, ¬ IsCookie name v c)
      (rest : FirstCookie name value headers) : FirstCookie name value (header :: headers)

/-- The cookies of headers are those of the first one, if it can be read, and those of the rest. -/
theorem cookiePairs_cons (header : String) (headers : List String) :
    cookiePairs (header :: headers) =
      (if header.toList.all isVisible then (cookies header).filterMap nameAndValue? else [])
        ++ cookiePairs headers := by
  unfold cookiePairs
  rw [List.filter_cons]
  split
  · rw [List.flatMap_cons, List.filterMap_append]
  · rfl

/-- No cookie of a name is found exactly when there is none. -/
theorem find?_eq_none_iff (trimmed : trim name = name) (noEquals : '=' ∉ name)
    {cs : List (List Char)} :
    (cs.filterMap nameAndValue?).find? (fun p => p.1 = name) = none ↔
      ∀ c ∈ cs, ∀ v, ¬ IsCookie name v c := by
  rw [List.find?_eq_none]
  constructor
  · intro h c hc v it
    have read := nameAndValue?_of_isCookie trimmed noEquals it
    exact h _ (List.mem_filterMap.2 ⟨c, hc, read⟩) (decide_eq_true rfl)
  · intro h p hp
    obtain ⟨c, hc, read⟩ := List.mem_filterMap.1 hp
    rw [decide_eq_true_eq]
    rintro rfl
    exact h c hc p.2 (isCookie_of_nameAndValue? read)

/-- The first cookie of a name is found. -/
theorem find?_of_firstCookie (trimmed : trim name = name) (noEquals : '=' ∉ name)
    {headers : List String} (h : FirstCookie name value headers) :
    (cookiePairs headers).find? (fun p => p.1 = name) = some (name, trim value) := by
  induction h with
  | here visible cut others first =>
    have read := nameAndValue?_of_isCookie trimmed noEquals first
    rw [cookiePairs_cons, if_pos visible, cut, List.filterMap_append, List.filterMap_cons, read,
      List.find?_append, List.find?_append, (find?_eq_none_iff trimmed noEquals).2 others]
    simp
  | @later header headers passed rest ih =>
    rw [cookiePairs_cons, List.find?_append]
    split
    · next visible =>
      rw [(find?_eq_none_iff trimmed noEquals).2 (passed visible), Option.none_or, ih]
    · exact ih

/-- The name of cookies may stand in a header and be told from what stands around it, and so may
the path and the domain stand in a header. A cookie never has a semicolon in its name. -/
structure Config.Readable (config : Config) : Prop where
  name : config.cookieName.toList.all isVisible = true
  noEquals : '=' ∉ config.cookieName.toList
  trimmed : trim config.cookieName.toList = config.cookieName.toList
  path : config.cookiePath.toList.all isHeaderCharacter = true
  domain : ∀ d, config.domain = some d → d.toList.all isHeaderCharacter = true

/-- A visible character may stand in a header. -/
theorem isHeaderCharacter_of_isVisible {c : Char} (h : isVisible c = true) :
    isHeaderCharacter c = true := by
  have delete : c ≤ '~' → c ≠ '\x7f' := by
    rintro le rfl
    exact absurd le (by decide)
  unfold isVisible at h
  unfold isHeaderCharacter
  simp only [Bool.or_eq_true, Bool.and_eq_true, decide_eq_true_eq] at h ⊢
  exact h.imp (fun tab => tab) fun between => ⟨between.1, delete between.2⟩

/-- A configuration whose cookies can be read makes headers that can be sent. -/
theorem Config.Readable.headerSafe {config : Config} (h : config.Readable) : config.HeaderSafe where
  name := List.all_eq_true.2 fun c hc =>
    isHeaderCharacter_of_isVisible (List.all_eq_true.1 h.name c hc)
  path := h.path
  domain := h.domain

/-- The spelling of an identifier has no white space around it. -/
theorem trim_of_spelling {id : Uuid} {text : List Char} (h : id.Spelling text) :
    trim text = text := by
  refine trim_of_forall fun c hc => ?_
  have lower := h.toLower_mem hc
  by_cases ascii : c.toNat < 128
  · exact forall_ascii (P := fun c => c.toLower ∈ _ → isBlank c = false) (by decide +kernel) ascii
      lower
  · rw [toLower_of_not_ascii ascii] at lower
    have all : ∀ d ∈ Uuid.spellingCharacters, d.toNat < 128 :=
      Text.forall_mem_of_all (by decide)
    exact absurd (all c lower) ascii

/-- The first cookie of the right name is read as an identifier. -/
theorem requestedId?_of_firstCookie {config : Config} (readable : config.Readable)
    {headers : List String} (h : FirstCookie config.cookieName.toList value headers) :
    requestedId? config headers = Uuid.read? (trim value) := by
  unfold requestedId?
  rw [find?_of_firstCookie readable.trimmed readable.noEquals h]
  rfl

end Session

end FederatedLogin
