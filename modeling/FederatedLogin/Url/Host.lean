import FederatedLogin.Text.Split
import FederatedLogin.Url.Domain
import FederatedLogin.Url.Percent

/-!
# Hosts

The host of a URL is an address or a name. With a special scheme a name is a domain in its ASCII
form, and one whose last label is a number is an address of four bytes. With another scheme a name
is opaque.
-/

namespace FederatedLogin.Url

open Text

/-- Why a text is no URL. -/
inductive Fault where
  | emptyHost
  | invalidDomain
  | invalidPort
  | invalidIpv4
  | invalidIpv6
  | invalidHostCharacter
  | relative
  deriving DecidableEq, Repr

/-- The text of a fault. -/
def Fault.message : Fault → String
  | emptyHost => "empty host"
  | invalidDomain => "invalid international domain name"
  | invalidPort => "invalid port number"
  | invalidIpv4 => "invalid IPv4 address"
  | invalidIpv6 => "invalid IPv6 address"
  | invalidHostCharacter => "invalid domain character"
  | relative => "relative URL without a base"

/-- A host. -/
inductive Host where
  | name (text : List Char)
  | ipv4 (address : Nat)
  /-- Eight numbers of 16 bits. -/
  | ipv6 (pieces : List Nat)
  deriving DecidableEq, Repr

/-! ## Addresses of four bytes -/

/-- Reads a number of an address: hexadecimal after `0x`, octal after another zero. Numbers of more
than 32 bits are read too. -/
def readIpv4Number? (cs : List Char) : Option Nat :=
  match cs with
  | [] => none
  | '0' :: 'x' :: ds => hexNumber? ds
  | '0' :: 'X' :: ds => hexNumber? ds
  | '0' :: d :: ds =>
    if (d :: ds).all fun c => '0' ≤ c && c ≤ '7' then
      some ((d :: ds).foldl (fun n c => 8 * n + digitValue c) 0)
    else none
  | ds => natural? ds

/-- The last label of a name is a number. -/
def endsInNumber (name : List Char) : Bool :=
  let labels := (pieces '.' name).reverse
  let last? :=
    match labels with
    | [] :: label :: _ => some label
    | [[]] => none
    | label :: _ => some label
    | [] => none
  match last? with
  | none => false
  | some label => (label ≠ [] && label.all Char.isDigit) || (readIpv4Number? label).isSome

/-- The address of some numbers, of which the last one fills the bytes that are left. -/
def ipv4OfNumbers? (numbers : List Nat) : Option Nat :=
  match numbers.reverse with
  | [] => none
  | last :: front =>
    if numbers.length ≤ 4 && front.all (· < 256) && last < twoPow (8 * (5 - numbers.length)) then
      some (front.reverse.zipIdx.foldl (fun n p => n + p.1 * twoPow (8 * (3 - p.2))) last)
    else none

/-- Reads an address of four bytes. A dot at the end does not count. -/
def readIpv4? (name : List Char) : Option Nat := do
  let labels := pieces '.' name
  let labels := if labels.getLast? = some [] then labels.dropLast else labels
  ipv4OfNumbers? (← labels.mapM readIpv4Number?)

/-- An address of four bytes, with dots between them. -/
def ipv4Text (address : Nat) : List Char :=
  decimal (address / twoPow 24 % 256) ++ '.' :: decimal (address / twoPow 16 % 256)
    ++ '.' :: decimal (address / 256 % 256) ++ '.' :: decimal (address % 256)

/-! ## Addresses of eight pieces -/

/-- Reads a byte in decimal, without a leading zero. -/
def readByte? (cs : List Char) : Option Nat :=
  if cs.length ≤ 3 && (cs.head? ≠ some '0' || cs.length = 1) then
    (natural? cs).filter (· < 256)
  else none

/-- Reads the four bytes at the end of an address as two pieces. -/
def readEmbeddedIpv4? (cs : List Char) : Option (List Nat) := do
  match ← (pieces '.' cs).mapM readByte? with
  | [a, b, c, d] => some [256 * a + b, 256 * c + d]
  | _ => none

/-- Reads a piece of at most four digits. -/
def readPiece? (cs : List Char) : Option Nat :=
  if 1 ≤ cs.length && cs.length ≤ 4 then hexNumber? cs else none

/-- Reads pieces with colons between them, of which the last two may be written as four bytes. -/
def readPieces? (cs : List Char) : Option (List Nat) :=
  if cs = [] then some []
  else
    let texts := pieces ':' cs
    match texts.reverse with
    | last :: front =>
      if '.' ∈ last then do
        some ((← front.reverse.mapM readPiece?) ++ (← readEmbeddedIpv4? last))
      else texts.mapM readPiece?
    | [] => none

/-- The text before and after the first two colons in a row. -/
def cutAtGap? : List Char → Option (List Char × List Char)
  | ':' :: ':' :: cs => some ([], cs)
  | c :: cs => (cutAtGap? cs).map fun (a, b) => (c :: a, b)
  | [] => none

/-- Reads an address of eight pieces. Two colons in a row stand for the zeros that are missing, at
least one. -/
def readIpv6? (cs : List Char) : Option (List Nat) :=
  match cutAtGap? cs with
  | none => (readPieces? cs).filter (·.length = 8)
  | some (a, b) => do
    let front ← readPieces? a
    let back ← readPieces? b
    if '.' ∉ a ∧ front.length + back.length ≤ 7 then
      some (front ++ List.replicate (8 - front.length - back.length) 0 ++ back)
    else none

/-- The number of zeros at the front. -/
def zeros (ps : List Nat) : Nat := (ps.takeWhile (· = 0)).length

/-- Where the longest run of zeros starts, and its length. Of runs of one length the first
counts. -/
def longestZeros (start : Nat) : List Nat → Nat × Nat
  | [] => (start, 0)
  | p :: ps =>
    let here := zeros (p :: ps)
    let later := longestZeros (start + 1) ps
    if later.2 ≤ here then (start, here) else later

/-- Pieces with colons between them. -/
def piecesText : List Nat → List Char
  | [] => []
  | [p] => hexNumeral p
  | p :: q :: ps => hexNumeral p ++ ':' :: piecesText (q :: ps)

/-- An address of eight pieces. The longest run of two or more zeros is left out. -/
def ipv6Text (ps : List Nat) : List Char :=
  let (start, count) := longestZeros 0 ps
  if count < 2 then piecesText ps
  else piecesText (ps.take start) ++ ':' :: ':' :: piecesText (ps.drop (start + count))

/-! ## Reading hosts -/

/-- Reads an address in brackets, if the text starts with one. -/
def readBracketed? (cs : List Char) : Option (Except Fault Host) :=
  match cs with
  | '[' :: inner =>
    if inner.getLast? = some ']' then
      match readIpv6? inner.dropLast with
      | some ps => some (.ok (.ipv6 ps))
      | none => some (.error .invalidIpv6)
    else some (.error .invalidIpv6)
  | _ => none

/-- The character may not stand in an opaque name. -/
def isForbiddenInName (c : Char) : Bool :=
  c ∈ ['\x00', '\t', '\n', '\r', ' ', '#', '/', ':', '<', '>', '?', '@', '[', '\\', ']', '^', '|']

/-- Reads the host of a URL without a special scheme. -/
def readOpaqueHost (cs : List Char) : Except Fault Host :=
  match readBracketed? cs with
  | some result => result
  | none =>
    if cs.any isForbiddenInName then .error .invalidHostCharacter
    else .ok (.name (percentEncode isControl cs))

/-- Reads the host of a URL with a special scheme. -/
def readHost (cs : List Char) : Except Fault Host :=
  match readBracketed? cs with
  | some result => result
  | none =>
    match (ofBytes? (percentDecode (toBytes cs))).bind Domain.toAscii? with
    | none => .error .invalidDomain
    | some name =>
      if name = [] then .error .emptyHost
      else if endsInNumber name then
        match readIpv4? name with
        | some address => .ok (.ipv4 address)
        | none => .error .invalidIpv4
      else .ok (.name name)

/-- The text of a host. -/
def Host.text : Host → List Char
  | name text => text
  | ipv4 address => ipv4Text address
  | ipv6 ps => '[' :: ipv6Text ps ++ [']']

end FederatedLogin.Url
