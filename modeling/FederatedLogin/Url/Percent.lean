import FederatedLogin.Text.Digits
import FederatedLogin.Text.Utf8

/-!
# Percent-encoding

Parts of a URL hold most characters as they are and the others as the bytes of their UTF-8 form, a
percent sign and two digits each. Each part has its own set of characters that are encoded; beyond
ASCII they all are. A percent sign itself is kept, so what is encoded already stays as it is.
-/

namespace FederatedLogin.Url

open Text

/-- A byte after a percent sign. -/
def percentByte (b : UInt8) : List Char :=
  ['%', hexDigitUpper (b.toNat / 16), hexDigitUpper b.toNat]

/-- A text with the characters of a set, and all beyond ASCII, encoded. -/
def percentEncode (encoded : Char → Bool) (cs : List Char) : List Char :=
  cs.flatMap fun c =>
    if encoded c || 0x7F < c.toNat then (String.utf8EncodeChar c).flatMap percentByte else [c]

/-- The bytes that an encoded text stands for. -/
def percentDecode : List UInt8 → List UInt8
  | [] => []
  | b :: bytes =>
    if b = 0x25 then
      match bytes with
      | h :: l :: rest =>
        match hexValue? (Char.ofNat h.toNat), hexValue? (Char.ofNat l.toNat) with
        | some h, some l => UInt8.ofNat (16 * h + l) :: percentDecode rest
        | _, _ => b :: percentDecode (h :: l :: rest)
      | rest => b :: percentDecode rest
    else b :: percentDecode bytes
termination_by bytes => bytes.length

/-! ## The sets of the parts -/

/-- The controls. -/
def isControl (c : Char) : Bool := c.toNat < 0x20 || c = '\x7f'

/-- What is encoded in a fragment. -/
def inFragmentSet (c : Char) : Bool := isControl c || c ∈ [' ', '"', '<', '>', '\x60']

/-- What is encoded in a query. -/
def inQuerySet (c : Char) : Bool := isControl c || c ∈ [' ', '"', '#', '<', '>']

/-- What is encoded in the query of a special scheme. -/
def inSpecialQuerySet (c : Char) : Bool := inQuerySet c || c = '\x27'

/-- What is encoded in a path. -/
def inPathSet (c : Char) : Bool := inFragmentSet c || c ∈ ['#', '?', '\x7b', '\x7d']

/-- What is encoded in a user name and a password. -/
def inUserSet (c : Char) : Bool :=
  inPathSet c || c ∈ ['/', ':', ';', '=', '@', '[', '\\', ']', '^', '|']

end FederatedLogin.Url
