import FederatedLogin.Proofs.Settings.Precedence
import Mathlib.Data.List.Permutation
import Mathlib.Data.List.TakeDrop
import Mathlib.Data.List.TakeWhile

/-!
# Credentials from variables

The value of a variable is not always a text. One that is made of letters and digits is taken for a
truth value or a number if it is written like one (`variableEntry_of_alphanumeric`), and a
credential has to be a text. So credentials for Google are refused if they come from variables and
happen to be written like that, though a file in which they stand between quotes is read without
fault (`parse_quotedFile`).
-/

namespace FederatedLogin.Settings

open Json

variable {cs rest : List Char} {c : Char}

/-! ## Letters and digits -/

/-- All characters are letters or digits of ASCII. -/
def Alphanumeric (cs : List Char) : Prop := ∀ c ∈ cs, c.isAlphanum = true

/-- A letter or digit is no other character. -/
theorem ne_of_isAlphanum {d : Char} (h : c.isAlphanum = true) (other : d.isAlphanum = false) :
    c ≠ d := by
  rintro rfl
  cases h.symm.trans other

/-- No letter or digit is white space. -/
theorem isBlank_of_isAlphanum (h : c.isAlphanum = true) : Text.isBlank c = false := by
  have range := Text.toNat_of_isAlphanum h
  simp only [Text.isBlank, Bool.or_eq_false_iff, Bool.and_eq_false_iff, decide_eq_false_iff_not,
    beq_eq_false_iff_ne]
  omega

theorem isGap_of_isAlphanum (h : c.isAlphanum = true) : isGap c = false := by
  simp only [isGap, Bool.or_eq_false_iff, decide_eq_false_iff_not]
  refine ⟨⟨⟨⟨?_, ?_⟩, ?_⟩, ?_⟩, ?_⟩ <;> exact ne_of_isAlphanum h rfl

theorem isSeparator_of_isAlphanum (h : c.isAlphanum = true) : isSeparator c = false := by
  simp only [isSeparator, decide_eq_false_iff_not, List.mem_cons, List.not_mem_nil, or_false,
    not_or]
  refine ⟨?_, ?_, ?_, ?_, ?_⟩ <;> exact ne_of_isAlphanum h rfl

theorem dropWhile_of_forall_not {p : Char → Bool} (h : ∀ c ∈ cs, p c = false) :
    cs.dropWhile p = cs := by
  cases cs with
  | nil => rfl
  | cons c cs => rw [List.dropWhile_cons, h c List.mem_cons_self]; rfl

/-- Nothing is trimmed from letters and digits. -/
theorem trim_of_alphanumeric (h : Alphanumeric cs) : Text.trim cs = cs := by
  have blank : ∀ c ∈ cs, Text.isBlank c = false := fun c hc => isBlank_of_isAlphanum (h c hc)
  rw [Text.trim, Text.trimLeft, dropWhile_of_forall_not blank, Text.trimRight,
    dropWhile_of_forall_not fun c hc => blank c (List.mem_reverse.1 hc), List.reverse_reverse]

/-- Nothing is skipped of letters and digits. -/
theorem skipGap_of_alphanumeric (h : Alphanumeric cs) : skipGap cs = cs :=
  dropWhile_of_forall_not fun c hc => isGap_of_isAlphanum (h c hc)

/-! ## The value of a variable -/

/-- The number of 64 bits for which a value of digits is taken. -/
def number? (cs : List Char) : Option Nat := (Text.natural? cs).filter (· < twoPow 64)

/-- A text of letters and digits is not taken for a text: it is a truth value, or a number. -/
def Mistaken (secret : String) : Prop :=
  secret = "true" ∨ secret = "false" ∨ (number? secret.toList).isSome

instance (secret : String) : Decidable (Mistaken secret) :=
  inferInstanceAs (Decidable (_ ∨ _ ∨ _))

/-- Letters and digits are no fraction, for they have no point. -/
theorem isFraction_of_alphanumeric (h : Alphanumeric cs) : isFraction cs = false := by
  unfold isFraction
  dsimp only
  split
  · next whole decimals cut =>
    -- There is no sign, and no point either.
    split at cut
    · cases h _ List.mem_cons_self
    · cases h _ List.mem_cons_self
    · rw [List.span_eq_takeWhile_dropWhile] at cut
      have point : '.' ∈ cs.dropWhile Char.isDigit := by
        rw [(Prod.mk.inj cut).2]
        exact List.mem_cons_self
      cases h _ ((List.dropWhile_suffix _).subset point)
  · rfl

/-- Letters and digits are an integer just if they are a number that fits in a word. -/
theorem integerOf?_of_alphanumeric (h : Alphanumeric cs) :
    integerOf? cs = (number? cs).map Int.ofNat := by
  unfold integerOf?
  split
  · cases h _ List.mem_cons_self
  · cases h _ List.mem_cons_self
  · rw [number?]
    cases Text.natural? cs with
    | none => rfl
    | some n =>
      simp only [Option.bind_some, Option.filter_some]
      by_cases bound : n < twoPow 64 <;> simp [bound]

/-- Letters and digits are a number where they can be, and a text otherwise. -/
theorem plainEntry_of_alphanumeric (h : Alphanumeric cs) :
    plainEntry cs = (number? cs).elim (.text (String.ofList cs)) fun n => .integer n := by
  unfold plainEntry
  rw [isFraction_of_alphanumeric h, integerOf?_of_alphanumeric h]
  cases number? cs <;> rfl

/-- A value of letters and digits that begins like a truth value is read as one up to there. Any
other one is read as a whole. -/
theorem readSimple_of_alphanumeric (h : Alphanumeric cs) :
    (∃ rest, cs = 't' :: 'r' :: 'u' :: 'e' :: rest ∧ readSimple cs = some (.flag true, rest)) ∨
      (∃ rest, cs = 'f' :: 'a' :: 'l' :: 's' :: 'e' :: rest ∧
          readSimple cs = some (.flag false, rest)) ∨
        readSimple cs = some (plainEntry cs, []) := by
  unfold readSimple
  split
  · next rest => exact .inl ⟨rest, rfl, rfl⟩
  · next rest => exact .inr (.inl ⟨rest, rfl, rfl⟩)
  · cases h _ List.mem_cons_self
  · cases h _ List.mem_cons_self
  · cases h _ List.mem_cons_self
  · refine .inr (.inr ?_)
    have all : ∀ c ∈ cs, (decide ¬ isSeparator c = true) = true := fun c hc => by
      rw [isSeparator_of_isAlphanum (h c hc)]
      rfl
    have rest : cs.dropWhile (fun c => decide ¬ isSeparator c = true) = [] :=
      List.dropWhile_eq_nil_iff.2 all
    rw [List.span_eq_takeWhile_dropWhile, List.takeWhile_eq_self_iff.2 all, rest]
    dsimp only
    rw [trim_of_alphanumeric h]

/-- What begins with a letter is no number. -/
theorem number?_of_letter (letter : c.isDigit = false) (cs : List Char) :
    number? (c :: cs) = none := by
  have not_digits : ¬ (c :: cs ≠ [] ∧ (c :: cs).all Char.isDigit) := by simp [letter]
  rw [number?, Text.natural?, if_neg not_digits]
  rfl

/-- Letters and digits are read as a value without parts. -/
theorem readEntry_of_alphanumeric (h : Alphanumeric cs) (depth : Nat) :
    readEntry (depth + 1) cs = (readSimple cs).bind fun r => some (r.1, skipGap r.2) := by
  rw [readEntry, skipGap_of_alphanumeric h]
  split
  · cases h _ List.mem_cons_self
  · cases h _ List.mem_cons_self
  · rfl

/-- The value syntax takes letters and digits for a truth value or a number where it can. -/
theorem variableEntry_of_alphanumeric {value : String} (h : Alphanumeric value.toList) :
    variableEntry value =
      if value = "true" then .flag true
      else if value = "false" then .flag false
      else (number? value.toList).elim (.text value) fun n => .integer n := by
  by_cases yes : value = "true"
  · rw [if_pos yes, yes]
    rfl
  by_cases no : value = "false"
  · rw [if_neg yes, if_pos no, no]
    rfl
  rw [if_neg yes, if_neg no, variableEntry, trim_of_alphanumeric h, readEntry_of_alphanumeric h,
    String.ofList_toList]
  -- A word that goes on is no truth value, as something is left over.
  have goes_on (word : List Char) {rest : List Char} (written : value.toList = word ++ rest)
      (whole : value.toList ≠ word) : ∃ c cs, skipGap rest = c :: cs := by
    have alphanumeric : Alphanumeric rest := fun c hc =>
      h c (written ▸ List.mem_append_right word hc)
    rw [skipGap_of_alphanumeric alphanumeric]
    cases rest with
    | nil => exact absurd (written.trans (List.append_nil word)) whole
    | cons c cs => exact ⟨c, cs, rfl⟩
  rcases readSimple_of_alphanumeric h with
    ⟨rest, written, simple⟩ | ⟨rest, written, simple⟩ | simple
  · obtain ⟨c, cs, left⟩ := goes_on "true".toList written fun same =>
      yes (String.toList_inj.1 same)
    rw [simple, Option.bind_some, left, written, number?_of_letter rfl]
    rfl
  · obtain ⟨c, cs, left⟩ := goes_on "false".toList written fun same =>
      no (String.toList_inj.1 same)
    rw [simple, Option.bind_some, left, written, number?_of_letter rfl]
    rfl
  · rw [simple, Option.bind_some, plainEntry_of_alphanumeric h, String.ofList_toList]
    rfl

/-! ## Quoted strings -/

/-- Letters and digits stand in quotes as they are. -/
theorem isPlain_of_isAlphanum (h : c.isAlphanum = true) : isPlain c = true := by
  have range := Text.toNat_of_isAlphanum h
  simp only [isPlain, Bool.or_eq_true, Bool.and_eq_true, decide_eq_true_eq]
  omega

/-- Letters and digits are read as they are, up to the closing quote. -/
theorem readQuotedFrom_of_alphanumeric (h : Alphanumeric cs) {bound : Nat}
    (enough : cs.length < bound) (before rest : List Char) :
    readQuotedFrom bound before (cs ++ '"' :: rest) =
      some (String.ofList (before.reverse ++ cs), rest) := by
  induction cs generalizing bound before with
  | nil =>
    obtain ⟨bound, rfl⟩ := Nat.exists_eq_add_one.2 enough
    rw [List.nil_append, List.append_nil, readQuotedFrom, if_pos rfl]
  | cons c cs ih =>
    have hc := h c List.mem_cons_self
    rw [List.length_cons] at enough
    obtain ⟨bound, rfl⟩ := Nat.exists_eq_add_one.2 (Nat.zero_lt_of_lt enough)
    rw [List.cons_append, readQuotedFrom, if_neg (ne_of_isAlphanum hc rfl),
      if_neg (ne_of_isAlphanum hc rfl), if_pos (isPlain_of_isAlphanum hc),
      ih (fun c hc => h c (List.mem_cons_of_mem _ hc)) (by omega), List.reverse_cons,
      List.append_assoc, List.singleton_append]

namespace Toml

/-- A quoted string of letters and digits is the text between the quotes. -/
theorem readValue_quoted (h : Alphanumeric cs) (nonempty : cs ≠ []) (depth : Nat)
    (rest : List Char) :
    readValue (depth + 1) ('"' :: (cs ++ '"' :: rest)) = some (.text (String.ofList cs), rest) := by
  have enough : cs.length < (cs ++ '"' :: rest).length + 1 := by
    rw [List.length_append]
    omega
  have quoted : readString ('"' :: (cs ++ '"' :: rest)) = some (String.ofList cs, rest) := by
    obtain ⟨c, more, rfl⟩ := List.exists_cons_of_ne_nil nonempty
    unfold readString
    split
    · next three =>
      -- The first character between the quotes is no quote.
      cases ne_of_isAlphanum (h c List.mem_cons_self) rfl
        (List.cons.inj (List.cons.inj three).2).1
    · next other => cases other
    · next inside same =>
      cases same
      exact readQuotedFrom_of_alphanumeric h enough [] rest
    · next other => cases other
    · next _ _ unquoted _ => exact (unquoted _ rfl).elim
  show (((readString ('"' :: (cs ++ '"' :: rest))).map fun r => (Entry.text r.1, r.2)).or _) = _
  rw [quoted]
  rfl

/-- A line with one pair is read, and the rest of the lines after it. -/
theorem readLines?_of_readLine {d next : Document} {rest : List Char}
    (blank : skipBlank (c :: cs) = c :: cs)
    (not_comment : c ≠ '#') (line : d.readLine (c :: cs) = some (next, '\n' :: rest)) (n : Nat) :
    Document.readLines? (n + 1) d (c :: cs) = Document.readLines? n next rest := by
  rw [Document.readLines?, blank]
  split
  · next other => cases other
  · next other => exact absurd (List.cons.inj other).1 not_comment
  · rw [line]
    rfl

/-- A pair is added to the table of the last header. -/
theorem readLine_of_readPair {d : Document} {rest : List Char} {path : List String} {name : String}
    {e : Entry} {members : Members} (no_header : c ≠ '[')
    (pair : readPair (readValue maxDepth) (c :: cs) = some ((path, name, e), rest))
    (added : change false (addPair path name e) d.header .header d.members = some members) :
    d.readLine (c :: cs) = some ({ d with members }, rest) := by
  unfold Document.readLine
  split
  · next other => exact absurd (List.cons.inj other).1 no_header
  · next other => exact absurd (List.cons.inj other).1 no_header
  · rw [pair]
    show (change false (addPair path name e) d.header .header d.members).bind _ = _
    rw [added]
    rfl

/-- The name of an identifier of a client is read, and its value comes next. -/
theorem readPair_client_id (item : Reader Entry) (cs : List Char) :
    readPair item (['c', 'l', 'i', 'e', 'n', 't', '_', 'i', 'd', ' ', '=', ' ', '"'] ++ cs) =
      (item ('"' :: cs)).bind fun r => some (([], "client_id", r.1), r.2) := rfl

/-- The name of a secret of a client is read, and its value comes next. -/
theorem readPair_client_secret (item : Reader Entry) (cs : List Char) :
    readPair item (['c', 'l', 'i', 'e', 'n', 't', '_', 's', 'e', 'c', 'r', 'e', 't', ' ', '=', ' ',
        '"'] ++ cs) =
      (item ('"' :: cs)).bind fun r => some (([], "client_secret", r.1), r.2) := rfl

end Toml

/-- A document with a text as both credentials for Google. -/
def quotedFile (secret : String) : String :=
  "[providers.google]\nclient_id = \"" ++ secret ++ "\"\nclient_secret = \"" ++ secret ++ "\"\n"

/-- What a source says that gives both credentials for Google. -/
def googleTable (e : Entry) : Entry :=
  .table [("providers", .table [("google", .table [("client_id", e), ("client_secret", e)])])]

namespace Toml

/-- What follows the first bracket of a document with both credentials for Google. -/
def credentialLines (cs : List Char) : List Char :=
  ['p', 'r', 'o', 'v', 'i', 'd', 'e', 'r', 's', '.', 'g', 'o', 'o', 'g', 'l', 'e', ']', '\n'] ++
    (['c', 'l', 'i', 'e', 'n', 't', '_', 'i', 'd', ' ', '=', ' ', '"'] ++ (cs ++ '"' :: '\n' ::
      (['c', 'l', 'i', 'e', 'n', 't', '_', 's', 'e', 'c', 'r', 'e', 't', ' ', '=', ' ', '"'] ++
        (cs ++ ['"', '\n']))))

/-- The lines of such a document are read one by one. -/
theorem readLines?_credentialLines (h : Alphanumeric cs) (nonempty : cs ≠ []) (n : Nat) :
    Document.readLines? (n + 4) {} ('[' :: credentialLines cs) =
      some ⟨["providers", "google"], [("providers", .table .path [("google", .table .header
        [("client_id", .value (.text (String.ofList cs))),
         ("client_secret", .value (.text (String.ofList cs)))])])]⟩ := by
  have quoted (rest : List Char) :
      readValue maxDepth ('"' :: (cs ++ '"' :: rest)) = some (.text (String.ofList cs), rest) :=
    readValue_quoted h nonempty 78 rest
  have client_id (rest : List Char) : readPair (readValue maxDepth)
      (['c', 'l', 'i', 'e', 'n', 't', '_', 'i', 'd', ' ', '=', ' ', '"'] ++ (cs ++ '"' :: rest)) =
        some (([], "client_id", .text (String.ofList cs)), rest) := by
    rw [readPair_client_id, quoted]
    rfl
  have client_secret (rest : List Char) : readPair (readValue maxDepth)
      (['c', 'l', 'i', 'e', 'n', 't', '_', 's', 'e', 'c', 'r', 'e', 't', ' ', '=', ' ', '"']
        ++ (cs ++ '"' :: rest)) =
        some (([], "client_secret", .text (String.ofList cs)), rest) := by
    rw [readPair_client_secret, quoted]
    rfl
  refine (readLines?_of_readLine rfl (by decide) rfl (n + 3)).trans ?_
  refine (readLines?_of_readLine rfl (by decide)
    (readLine_of_readPair (by decide) (client_id _) rfl) (n + 2)).trans ?_
  refine (readLines?_of_readLine rfl (by decide)
    (readLine_of_readPair (by decide) (client_secret _) rfl) (n + 1)).trans ?_
  rfl

end Toml

/-- The file begins with the bracket of its head. -/
theorem toList_quotedFile (secret : String) :
    (quotedFile secret).toList = '[' :: Toml.credentialLines secret.toList := by
  have first : "[providers.google]\nclient_id = \"".toList =
      '[' :: ['p', 'r', 'o', 'v', 'i', 'd', 'e', 'r', 's', '.', 'g', 'o', 'o', 'g', 'l', 'e', ']',
        '\n', 'c', 'l', 'i', 'e', 'n', 't', '_', 'i', 'd', ' ', '=', ' ', '"'] := by decide
  have second : "\"\nclient_secret = \"".toList = '"' :: '\n' ::
      ['c', 'l', 'i', 'e', 'n', 't', '_', 's', 'e', 'c', 'r', 'e', 't', ' ', '=', ' ', '"'] := by
    decide
  have third : "\"\n".toList = ['"', '\n'] := by decide
  unfold quotedFile
  rw [String.toList_append, String.toList_append, String.toList_append, String.toList_append,
    List.append_assoc, List.append_assoc, List.append_assoc, first, second, third]
  rfl

/-- The file is read as the credentials, whatever letters and digits the secret has. -/
theorem parse_quotedFile {secret : String} (nonempty : secret ≠ "")
    (h : Alphanumeric secret.toList) :
    Toml.parse (quotedFile secret) = some (googleTable (.text secret)) := by
  have inside : secret.toList ≠ [] := by simpa using nonempty
  obtain ⟨n, bound⟩ : ∃ n, (Toml.credentialLines secret.toList).length + 2 = n + 4 :=
    ⟨(Toml.credentialLines secret.toList).length - 2, by simp [Toml.credentialLines]⟩
  rw [Toml.parse_of_toList (toList_quotedFile secret) (by decide), bound,
    Toml.readLines?_credentialLines h inside, String.ofList_toList]
  rfl

/-! ## Variables and the file -/

/-- Variables with a text as both credentials for Google. -/
def credentialVariables (secret : String) : List (String × String) :=
  [("IDLINK_PROVIDERS__GOOGLE__CLIENT_ID", secret),
   ("IDLINK_PROVIDERS__GOOGLE__CLIENT_SECRET", secret)]

/-- The defaults, with a text as both credentials for Google. -/
def withGoogle (build : Build) (secret : String) : Settings :=
  { standard build with
    providers := { google := some { clientId := secret, clientSecret := secret } } }

/-- The two variables say the same in either order. -/
theorem ofVariables_credentialVariables {environment : List (String × String)} {secret : String}
    (given : environment.Perm (credentialVariables secret)) :
    ofVariables environment = googleTable (variableEntry secret) := by
  have client_id : variablePath? "IDLINK_PROVIDERS__GOOGLE__CLIENT_ID" =
      some ["providers", "google", "client_id"] := rfl
  have client_secret : variablePath? "IDLINK_PROVIDERS__GOOGLE__CLIENT_SECRET" =
      some ["providers", "google", "client_secret"] := rfl
  rcases List.perm_pair.1 given with rfl | rfl
  all_goals
    simp only [ofVariables, List.filterMap_cons, List.filterMap_nil, client_id, client_secret,
      Option.map_some]
    rfl

/-- A text is kept as both credentials. -/
theorem ofEntries_google_text (build : Build) (secret : String) :
    ofEntries build [googleTable (.text secret)] = .ok (withGoogle build secret) := by
  cases build <;> rfl

/-- A truth value is no credential. -/
theorem ofEntries_google_flag (build : Build) (b : Bool) :
    ofEntries build [googleTable (.flag b)] =
      .error ⟨.wrongKind, ["providers", "google", "client_id"]⟩ := by
  cases build <;> rfl

/-- A number is no credential. -/
theorem ofEntries_google_integer (build : Build) (n : Int) :
    ofEntries build [googleTable (.integer n)] =
      .error ⟨.wrongKind, ["providers", "google", "client_id"]⟩ := by
  cases build <;> rfl

namespace Surroundings

/-- With the variables alone, the settings are made of what they say. -/
theorem load_of_credentialVariables {s : Surroundings} {service secret : String}
    (no_file : ∀ path ∈ s.paths service, s.file path = none)
    (given : s.environment.Perm (credentialVariables secret)) :
    s.load service = ofEntries s.build [googleTable (variableEntry secret)] := by
  have texts : (s.paths service).filterMap s.file = [] := List.filterMap_eq_nil_iff.2 no_file
  rw [load, texts, ofSources_eq, ofVariables_credentialVariables given]
  rfl

/-- With the file alone, wherever it is looked for, the settings are the defaults with Google. -/
theorem load_of_quotedFile {s : Surroundings} {service secret : String}
    (only : ∀ path ∈ s.paths service, s.file path = none ∨ s.file path = some (quotedFile secret))
    (somewhere : ∃ path ∈ s.paths service, s.file path = some (quotedFile secret))
    (no_variable : s.environment = []) (nonempty : secret ≠ "") (h : Alphanumeric secret.toList) :
    s.load service = .ok (withGoogle s.build secret) := by
  rw [load_of_places only somewhere, no_variable, ofSources_eq, List.mapM_cons,
    parse_quotedFile nonempty h]
  generalize s.build = build
  cases build <;> rfl

/-- Credentials of letters and digits that come from variables are kept, unless they are written
like a truth value or a number of 64 bits: then they are refused, as a value of another kind. In a
file, where they stand between quotes, they are always kept. -/
theorem credentials_from_variables (service secret : String) (nonempty : secret ≠ "")
    (alphanumeric : Alphanumeric secret.toList) :
    (∀ s : Surroundings, (∀ path ∈ s.paths service, s.file path = none) →
      s.environment.Perm (credentialVariables secret) →
        s.load service =
          if Mistaken secret then
            .error ⟨.wrongKind, ["providers", "google", "client_id"]⟩
          else .ok (withGoogle s.build secret)) ∧
    (∀ s : Surroundings,
      (∀ path ∈ s.paths service, s.file path = none ∨ s.file path = some (quotedFile secret)) →
      (∃ path ∈ s.paths service, s.file path = some (quotedFile secret)) → s.environment = [] →
        s.load service = .ok (withGoogle s.build secret)) := by
  refine ⟨fun s no_file given => ?_, fun s only somewhere no_variable =>
    load_of_quotedFile only somewhere no_variable nonempty alphanumeric⟩
  rw [load_of_credentialVariables no_file given, variableEntry_of_alphanumeric alphanumeric]
  by_cases yes : secret = "true"
  · rw [if_pos yes, if_pos (.inl yes)]
    exact ofEntries_google_flag s.build true
  by_cases no : secret = "false"
  · rw [if_neg yes, if_pos no, if_pos (.inr (.inl no))]
    exact ofEntries_google_flag s.build false
  rw [if_neg yes, if_neg no]
  cases number : number? secret.toList with
  | some n =>
    rw [if_pos (.inr (.inr (Option.isSome_of_eq_some number)))]
    exact ofEntries_google_integer s.build n
  | none =>
    rw [if_neg (by simp [Mistaken, yes, no, number])]
    exact ofEntries_google_text s.build secret

/-- Surroundings with nothing but both variables. -/
def onlyVariables (secret : String) : Surroundings where
  build := .debug
  file _ := none
  directory := none
  home := some "/home/ada"
  environment := credentialVariables secret

/-- Surroundings with nothing but a file in the working directory. -/
def onlyFile (secret : String) : Surroundings where
  build := .debug
  file path := if path = localPath then some (quotedFile secret) else none
  directory := none
  home := some "/home/ada"
  environment := []

/-- A secret that begins with digits is kept from both. -/
theorem credentials_from_variables_kept :
    (onlyVariables "9fA3").load "svc" = .ok (withGoogle .debug "9fA3") ∧
      (onlyFile "9fA3").load "svc" = .ok (withGoogle .debug "9fA3") := by
  have alphanumeric : Alphanumeric "9fA3".toList := List.all_eq_true.1 rfl
  obtain ⟨from_variables, from_file⟩ :=
    credentials_from_variables "svc" "9fA3" (by decide) alphanumeric
  exact ⟨from_variables (onlyVariables "9fA3") (fun _ _ => rfl) (.refl _),
    from_file (onlyFile "9fA3") (by decide) (by decide) rfl⟩

/-- A secret of digits alone is refused if it comes from variables. -/
theorem digits_refused :
    (onlyVariables "123456").load "svc" =
      .error ⟨.wrongKind, ["providers", "google", "client_id"]⟩ := by
  have number : variableEntry "123456" = .integer 123456 := rfl
  rw [load_of_credentialVariables (fun _ _ => rfl) (.refl _), number]
  exact ofEntries_google_integer .debug 123456

end Surroundings

end FederatedLogin.Settings
