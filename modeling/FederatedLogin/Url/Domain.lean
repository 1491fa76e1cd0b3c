import FederatedLogin.Unicode.Classes
import FederatedLogin.Unicode.Mapping
import FederatedLogin.Unicode.Normal
import FederatedLogin.Url.Punycode

/-!
# Domains

A domain is a sequence of labels with dots between them. `Domain.toAscii?` gives its ASCII form,
after Unicode Technical Standard 46: characters are mapped and composed, and a label beyond ASCII is
written in Punycode after `xn--`. A label that is so written has to stand for one that could be.
-/

namespace FederatedLogin.Url.Domain

open Unicode

/-- The character may not stand in a domain. -/
def isForbidden (c : Char) : Bool :=
  c.toNat ≤ 0x20 || c = '\x7f'
    || c ∈ ['#', '%', '/', ':', '<', '>', '?', '@', '[', '\\', ']', '^', '|']

/-- What stands before a label in Punycode. -/
def asciiMark : List Char := "xn--".toList

/-! ## Joiners -/

/-- The nearest character that joining does not look through is in one of the tables. -/
def joins (tables : List (List Row)) (cs : List Char) : Bool :=
  match cs.dropWhile (holds transparent) with
  | [] => false
  | c :: _ => tables.any fun table => holds table c

/-- Joiners stand where they may, given the characters before the text, the last one first: after a
mark that takes the vowel off a letter, or, if they keep letters apart, between letters that would
join. -/
def joinersAllowed (before : List Char) : List Char → Bool
  | [] => true
  | c :: cs =>
    let here :=
      if c ≠ '\u200C' ∧ c ≠ '\u200D' then true
      else if before.head?.any fun b => markClass b = 9 then true
      else c = '\u200C' && joins [leftJoining, dualJoining] before
        && joins [rightJoining, dualJoining] cs
    here && joinersAllowed (c :: before) cs

/-! ## Direction -/

/-- The character belongs to a script that is written from right to left. -/
def isRightToLeft (c : Char) : Bool := direction c ∈ [.right, .arabicNumber]

/-- The directions in a label agree, as they have to in a domain that is partly written from right
to left. The label starts with a letter; numbers are all Arabic or all European in a label that is
written from right to left, and there are no letters of the other direction. -/
def directionsAgree (label : List Char) : Bool :=
  match label with
  | [] => true
  | first :: rest =>
    let inside := (rest.reverse.dropWhile (direction · = .nonspacing)).map direction
    match direction first with
    | .left =>
      inside.all (· ∈ [.left, .europeanNumber, .neutral, .nonspacing])
        && inside.head?.all (· ∈ [.left, .europeanNumber])
    | .right =>
      inside.all (· ≠ .left)
        && inside.head?.all (· ∈ [.right, .arabicNumber, .europeanNumber])
        && ¬ (inside.contains .arabicNumber && inside.contains .europeanNumber)
    | _ => false

/-! ## Labels -/

/-- The characters of a label beyond ASCII may stand together. -/
def isLabel (label : List Char) : Bool :=
  ¬ label.head?.any (holds marks) && joinersAllowed [] label

/-- A label that mapping and composing would change is none that Punycode stands for. -/
def isStable (label : List Char) : Bool :=
  label.all (fun c => mapCharacter? c = some [c] && ¬ isForbidden c && c ≠ '.')
    && normal label = label

/-- The label that a mapped one stands for. -/
def readLabel? (label : List Char) : Option (List Char) :=
  if asciiMark.isPrefixOf label then do
    let code := label.drop asciiMark.length
    if code = [] ∨ code.getLast? = some '-' ∨ ¬ code.all Punycode.isAscii then none
    let decoded ← Punycode.decode? code
    if isStable decoded && isLabel decoded then some decoded else none
  else if label.all Punycode.isAscii || isLabel label then some label
  else none

/-- The ASCII form of a label. -/
def asciiLabel (label : List Char) : List Char :=
  if label.all Punycode.isAscii then label else asciiMark ++ Punycode.encode label

/-- The ASCII form of a domain. -/
def toAscii? (cs : List Char) : Option (List Char) := do
  let mapped := normal (← cs.mapM mapCharacter?).flatten
  if mapped.any isForbidden then none
  let labels ← (Text.pieces '.' mapped).mapM readLabel?
  if labels.any (·.any isRightToLeft) ∧ ¬ labels.all directionsAgree then none
  some (Text.join '.' (labels.map asciiLabel))

end FederatedLogin.Url.Domain
