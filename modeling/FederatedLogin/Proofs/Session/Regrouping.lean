import FederatedLogin.Proofs.Session.Request

/-!
# Which cookie counts

A request is for the session that the first piece with the name of cookies names, among the pieces
of all headers one after the other (`requestedId?_eq`), whatever the name is. So it does not matter
how the pieces are grouped into headers, which pieces with other names are among them, or what comes
after the first match (`requestedId?_regrouped`). The key is that the search goes over one list of
pieces (`firstId?`), to which the headers only contribute their pieces (`counted_append`).
-/

namespace FederatedLogin

namespace Session

open Text

/-! ## Pieces -/

/-- The header is read as text. -/
def Visible (header : String) : Prop := header.toList.all isVisible = true

instance (header : String) : Decidable (Visible header) :=
  inferInstanceAs (Decidable (header.toList.all isVisible = true))

/-- The piece has an equals sign, and the text before the first one is the name, with or without
white space around it. -/
def Named (name : String) (piece : List Char) : Prop :=
  ∃ before after, cut? '=' piece = some (before, after) ∧ trim before = name.toList

instance (name : String) (piece : List Char) : Decidable (Named name piece) :=
  decidable_of_iff ((cut? '=' piece).any (fun p => trim p.1 = name.toList) = true) (by
    simp [Named, Option.any_eq_true])

/-- The pieces that count in headers: those of the headers that are read as text. -/
def counted (headers : List String) : List (List Char) :=
  (headers.filter fun h => h.toList.all isVisible).flatMap fun h => pieces ';' h.toList

/-- The identifier that the first piece with the name stands for. -/
def firstId? (name : String) (ps : List (List Char)) : Option Uuid :=
  ((ps.filterMap (cut? '=')).find? fun p => trim p.1 = name.toList).bind fun p =>
    Uuid.read? (trim p.2)

/-- White space around a piece does not matter for its name and its value. -/
theorem nameAndValue?_eq (piece : List Char) :
    nameAndValue? piece = (cut? '=' piece).map fun p => (trim p.1, trim p.2) := by
  unfold nameAndValue?
  cases cut : cut? '=' piece with
  | none =>
    have outer : '=' ∉ trim piece := by
      obtain ⟨a, b, -, -, whole⟩ := exists_trim piece
      intro mem
      apply cut?_eq_none_iff.1 cut
      rw [whole]
      simp [mem]
    rw [cut?_eq_none_iff.2 outer]
  | some p =>
    obtain ⟨whole, noEquals⟩ := cut?_eq_some_iff.1 cut
    have trimmed : cut? '=' (trim piece) = some (trimLeft p.1, trimRight p.2) := by
      rw [whole, trim_append_cons (by decide)]
      exact cut?_eq_some_iff.2 ⟨rfl, fun mem => noEquals ((List.dropWhile_sublist _).mem mem)⟩
    rw [trimmed]
    show some (trim _, trim _) = some _
    rw [trim_trimLeft, trim_trimRight]

/-- The session of a request is the one that the first piece of the right name stands for. -/
theorem requestedId?_eq (config : Config) (headers : List String) :
    requestedId? config headers = firstId? config.cookieName (counted headers) := by
  have pairs : cookiePairs headers =
      ((counted headers).filterMap (cut? '=')).map fun p => (trim p.1, trim p.2) := by
    rw [List.map_filterMap]
    exact congrArg (List.filterMap · (counted headers)) (funext nameAndValue?_eq)
  unfold requestedId? firstId?
  rw [pairs, List.find?_map, Option.bind_map]
  rfl

/-! ## The first match -/

variable {name : String} {a b mid : List (List Char)} {p : List Char}

theorem find?_eq_none_of_not_named (h : ∀ q ∈ mid, ¬ Named name q) :
    (mid.filterMap (cut? '=')).find? (fun p => trim p.1 = name.toList) = none := by
  rw [List.find?_eq_none]
  intro cut hcut named
  obtain ⟨q, hq, hcut⟩ := List.mem_filterMap.1 hcut
  exact h q hq ⟨cut.1, cut.2, hcut, of_decide_eq_true named⟩

/-- Pieces with other names are passed over. -/
theorem firstId?_insert (h : ∀ q ∈ mid, ¬ Named name q) :
    firstId? name (a ++ mid ++ b) = firstId? name (a ++ b) := by
  unfold firstId?
  simp only [List.filterMap_append, List.find?_append, find?_eq_none_of_not_named h,
    Option.or_none]

/-- After a piece with the name, nothing matters. -/
theorem firstId?_of_named (h : Named name p) (b' : List (List Char)) :
    firstId? name (a ++ p :: b) = firstId? name (a ++ p :: b') := by
  obtain ⟨before, after, cut, named⟩ := h
  unfold firstId?
  simp [List.filterMap_append, List.find?_append, cut, named]

/-- The first piece with the name decides. -/
theorem firstId?_of_first (others : ∀ q ∈ a, ¬ Named name q) {before after : List Char}
    (cut : cut? '=' p = some (before, after)) (named : trim before = name.toList) :
    firstId? name (a ++ p :: b) = Uuid.read? (trim after) := by
  unfold firstId?
  rw [List.filterMap_append, List.find?_append, find?_eq_none_of_not_named others]
  simp [cut, named]

/-! ## Headers -/

theorem counted_append (headers headers' : List String) :
    counted (headers ++ headers') = counted headers ++ counted headers' := by
  unfold counted
  rw [List.filter_append, List.flatMap_append]

theorem counted_cons (header : String) (headers : List String) :
    counted (header :: headers) = counted [header] ++ counted headers :=
  counted_append [header] headers

theorem counted_of_visible {header : String} (h : Visible header) :
    counted [header] = cookies header := by
  have kept : [header].filter (fun h => h.toList.all isVisible) = [header] :=
    List.filter_eq_self.2 fun _ mem => List.mem_singleton.1 mem ▸ h
  unfold counted
  rw [kept]
  exact List.append_nil _

theorem counted_of_not_visible {header : String} (h : ¬ Visible header) :
    counted [header] = [] := by
  have dropped : [header].filter (fun h => h.toList.all isVisible) = [] :=
    List.filter_eq_nil_iff.2 fun _ mem => List.mem_singleton.1 mem ▸ h
  unfold counted
  rw [dropped]
  rfl

/-- A header is read as text if all its pieces are. -/
theorem visible_iff {header : String} :
    Visible header ↔ ∀ q ∈ cookies header, q.all isVisible = true := by
  unfold Visible cookies
  conv => lhs; rw [← join_pieces ';' header.toList]
  exact all_join (by decide)

/-- A piece of the headers that count is a piece of one of them. -/
theorem mem_counted_iff {headers : List String} {q : List Char} :
    q ∈ counted headers ↔ ∃ h ∈ headers, Visible h ∧ q ∈ cookies h := by
  unfold counted
  simp only [List.mem_flatMap, List.mem_filter, and_assoc]
  rfl

variable {config : Config} {before after after' : List String} {header header' : String}

/-- Pieces with other names may be put into a header. -/
theorem requestedId?_insert_pieces (whole : cookies header = a ++ b)
    (whole' : cookies header' = a ++ mid ++ b)
    (others : ∀ q ∈ mid, q.all isVisible = true ∧ ¬ Named config.cookieName q) :
    requestedId? config (before ++ header' :: after) =
      requestedId? config (before ++ header :: after) := by
  rw [requestedId?_eq, requestedId?_eq, counted_append, counted_append, counted_cons header',
    counted_cons header]
  have both : Visible header' ↔ Visible header := by
    rw [visible_iff, visible_iff, whole, whole']
    simp only [List.mem_append]
    constructor
    · exact fun all q hq => all q (hq.imp_left Or.inl)
    · rintro all q ((hq | hq) | hq)
      · exact all q (Or.inl hq)
      · exact (others q hq).1
      · exact all q (Or.inr hq)
  by_cases visible : Visible header
  · rw [counted_of_visible visible, counted_of_visible (both.2 visible), whole, whole']
    have passed : firstId? config.cookieName ((counted before ++ a) ++ mid ++ (b ++ counted after))
        = _ := firstId?_insert fun q hq => (others q hq).2
    simpa only [List.append_assoc] using passed
  · rw [counted_of_not_visible visible, counted_of_not_visible (mt both.1 visible)]

/-- Headers without a piece of the name may be put between headers. -/
theorem requestedId?_insert_headers {inserted : List String}
    (others : ∀ h ∈ inserted, Visible h → ∀ q ∈ cookies h, ¬ Named config.cookieName q) :
    requestedId? config (before ++ inserted ++ after) = requestedId? config (before ++ after) := by
  rw [requestedId?_eq, requestedId?_eq]
  simp only [counted_append]
  refine firstId?_insert fun q hq => ?_
  obtain ⟨h, hh, visible, hq⟩ := mem_counted_iff.1 hq
  exact others h hh visible q hq

/-- What comes after a piece with the name does not matter, in its header and in the others. -/
theorem requestedId?_after_match (visible : Visible header) (whole : cookies header = a ++ p :: b)
    (named : Named config.cookieName p) {b' : List (List Char)}
    (whole' : cookies header' = a ++ p :: b') (added : ∀ q ∈ b', q.all isVisible = true) :
    requestedId? config (before ++ header' :: after') =
      requestedId? config (before ++ header :: after) := by
  have all := visible_iff.1 visible
  have visible' : Visible header' := by
    rw [visible_iff, whole']
    rw [whole] at all
    simp only [List.mem_append, List.mem_cons] at all ⊢
    rintro q (hq | hq | hq)
    · exact all q (Or.inl hq)
    · exact all q (Or.inr (Or.inl hq))
    · exact added q hq
  rw [requestedId?_eq, requestedId?_eq, counted_append, counted_append, counted_cons header',
    counted_cons header, counted_of_visible visible, counted_of_visible visible', whole, whole']
  have decided := firstId?_of_named (a := counted before ++ a) (b := b' ++ counted after') named
    (b ++ counted after)
  simpa only [List.append_assoc, List.cons_append] using decided

/-- A header may be cut at semicolons into several ones, and several ones may be joined. -/
theorem requestedId?_join {parts : List String} (nonempty : parts ≠ [])
    (visible : ∀ h ∈ parts, Visible h)
    (joined : header.toList = join ';' (parts.map String.toList)) :
    requestedId? config (before ++ header :: after) =
      requestedId? config (before ++ parts ++ after) := by
  have whole : Visible header := by
    unfold Visible
    rw [joined]
    refine (all_join (by decide)).2 fun q hq => ?_
    obtain ⟨h, hh, rfl⟩ := List.mem_map.1 hq
    exact visible h hh
  have same : counted [header] = counted parts := by
    rw [counted_of_visible whole]
    unfold cookies counted
    rw [joined, pieces_join (mt List.map_eq_nil_iff.1 nonempty), List.flatMap_map,
      List.filter_eq_self.2 visible]
  rw [requestedId?_eq, requestedId?_eq, counted_append, counted_cons, counted_append,
    counted_append, same, List.append_assoc]

/-- The value of the first piece with the name decides, whether it is an identifier or not. -/
theorem requestedId?_of_first (visible : Visible header) (whole : cookies header = a ++ p :: b)
    (earlier : ∀ h ∈ before, Visible h → ∀ q ∈ cookies h, ¬ Named config.cookieName q)
    (others : ∀ q ∈ a, ¬ Named config.cookieName q) {left right : List Char}
    (cut : cut? '=' p = some (left, right)) (named : trim left = config.cookieName.toList) :
    requestedId? config (before ++ header :: after) = Uuid.read? (trim right) := by
  have ahead : ∀ q ∈ counted before ++ a, ¬ Named config.cookieName q := by
    intro q hq
    rcases List.mem_append.1 hq with hq | hq
    · obtain ⟨h, hh, visible, hq⟩ := mem_counted_iff.1 hq
      exact earlier h hh visible q hq
    · exact others q hq
  have decided : firstId? config.cookieName ((counted before ++ a) ++ p :: (b ++ counted after))
      = _ := firstId?_of_first ahead cut named
  rw [requestedId?_eq, counted_append, counted_cons, counted_of_visible visible, whole]
  simpa only [List.append_assoc, List.cons_append] using decided

/-- Which cookie counts. Of the pieces of all headers that are read as text, those count that have
an equals sign, and of these the first one with the name of cookies before it; what stands behind it
is read as an identifier. So pieces with other names may be put into a header, and headers without a
piece of the name between headers; after the first match, in its header or behind it, everything may
be different; a header may be cut at semicolons into several ones, and several ones may be joined;
and if the first match is not an identifier, no later one is looked at. -/
theorem requestedId?_regrouped (config : Config) :
    (∀ headers, requestedId? config headers =
      ((((headers.filter fun h => h.toList.all isVisible).flatMap fun h =>
          pieces ';' h.toList).filterMap (cut? '=')).find? fun p =>
            trim p.1 = config.cookieName.toList).bind fun p => Uuid.read? (trim p.2)) ∧
    (∀ before header header' after left inserted right,
      cookies header = left ++ right → cookies header' = left ++ inserted ++ right →
      (∀ q ∈ inserted, q.all isVisible = true ∧ ¬ Named config.cookieName q) →
      requestedId? config (before ++ header' :: after) =
        requestedId? config (before ++ header :: after)) ∧
    (∀ before inserted after,
      (∀ h ∈ inserted, Visible h → ∀ q ∈ cookies h, ¬ Named config.cookieName q) →
      requestedId? config (before ++ inserted ++ after) =
        requestedId? config (before ++ after)) ∧
    (∀ before header header' after after' left p right right',
      Visible header → cookies header = left ++ p :: right → Named config.cookieName p →
      cookies header' = left ++ p :: right' → (∀ q ∈ right', q.all isVisible = true) →
      requestedId? config (before ++ header' :: after') =
        requestedId? config (before ++ header :: after)) ∧
    (∀ before header parts after, parts ≠ [] → (∀ h ∈ parts, Visible h) →
      header.toList = join ';' (parts.map String.toList) →
      requestedId? config (before ++ header :: after) =
        requestedId? config (before ++ parts ++ after)) ∧
    (∀ before header after left p right name value,
      Visible header → cookies header = left ++ p :: right →
      (∀ h ∈ before, Visible h → ∀ q ∈ cookies h, ¬ Named config.cookieName q) →
      (∀ q ∈ left, ¬ Named config.cookieName q) →
      cut? '=' p = some (name, value) → trim name = config.cookieName.toList →
      Uuid.read? (trim value) = none →
      requestedId? config (before ++ header :: after) = none) := by
  refine ⟨fun headers => requestedId?_eq config headers, ?_, ?_, ?_, ?_, ?_⟩
  · intro before header header' after left inserted right whole whole' others
    exact requestedId?_insert_pieces whole whole' others
  · intro before inserted after others
    exact requestedId?_insert_headers others
  · intro before header header' after after' left p right right' visible whole named whole' added
    exact requestedId?_after_match visible whole named whole' added
  · intro before header parts after nonempty visible joined
    exact requestedId?_join nonempty visible joined
  · intro before header after left p right name value visible whole earlier others cut named bad
    rw [requestedId?_of_first visible whole earlier others cut named, bad]

/-- Headers are regrouped, pieces are put in and left out, and a first match that is no identifier
decides as well. -/
theorem requestedId?_regrouped_of_two :
    let config : Config := { cookieName := "s" }
    let u := "00000000-0000-0000-0000-000000000007"
    requestedId? config ["a=1; s=" ++ u] = requestedId? config ["a=1", " s=" ++ u] ∧
      requestedId? config ["a=1", " s=" ++ u] = requestedId? config [" s=" ++ u] ∧
      requestedId? config ["b", " s=" ++ u] = requestedId? config ["b;c=2", " s=" ++ u] ∧
      requestedId? config ["s=" ++ u ++ ";s=x", "s=x"] = requestedId? config ["s=" ++ u] ∧
      requestedId? config ["s=x; s=" ++ u] = none := by
  intro config u
  obtain ⟨-, pieces, headers, after, joined, first⟩ := requestedId?_regrouped config
  refine ⟨?_, ?_, ?_, ?_, ?_⟩
  · exact joined [] _ ["a=1", " s=" ++ u] [] (by decide) (by decide +kernel) (by decide +kernel)
  · exact headers [] ["a=1"] _ (by decide +kernel)
  · exact (pieces [] "b" "b;c=2" _ ["b".toList] ["c=2".toList] [] (by decide +kernel)
      (by decide +kernel) (by decide +kernel)).symm
  · exact after [] _ _ [] ["s=x"] [] ("s=" ++ u).toList [] ["s=x".toList] (by decide +kernel)
      (by decide +kernel) (by decide +kernel) (by decide +kernel) (by decide +kernel)
  · exact first [] _ [] [] "s=x".toList [(" s=" ++ u).toList] ['s'] ['x'] (by decide +kernel)
      (by decide +kernel) nofun nofun (by decide) (by decide) (by decide +kernel)

end Session

end FederatedLogin
