import FederatedLogin.Power
import FederatedLogin.Text.Digits
import FederatedLogin.Text.Split

/-!
# Universally unique identifiers

An identifier is a number of 128 bits. It is written as five groups of lower case hexadecimal digits
with hyphens between them. It may also be read without the hyphens, in braces, or after `urn:uuid:`,
with digits of either case.
-/

namespace FederatedLogin

/-- An identifier of 128 bits. -/
structure Uuid where
  toNat : Nat
  toNat_lt : toNat < twoPow 128
  deriving DecidableEq, Repr

namespace Uuid

open FederatedLogin.Text

/-- The identifier of the last 128 bits of a number. -/
def ofNat (n : Nat) : Uuid := ⟨n % twoPow 128, Nat.mod_lt _ (twoPow_pos 128)⟩

instance : Inhabited Uuid := ⟨ofNat 0⟩

/-- The random identifier of the last 122 bits of a number: all but the four bits of the version,
which is 4, and the two of the variant. -/
def ofRandom (n : Nat) : Uuid :=
  ofNat (n / twoPow 74 % twoPow 48 * twoPow 80 + 4 * twoPow 76
    + n / twoPow 62 % twoPow 12 * twoPow 64 + 2 * twoPow 62 + n % twoPow 62)

/-- The four bits that say how the identifier was made. -/
def version (u : Uuid) : Nat := u.toNat / twoPow 76 % 16

/-- The five groups of digits with hyphens between them. -/
def text (u : Uuid) : List Char :=
  hexDigits 8 (u.toNat / twoPow 96) ++ '-' :: hexDigits 4 (u.toNat / twoPow 80)
    ++ '-' :: hexDigits 4 (u.toNat / twoPow 64) ++ '-' :: hexDigits 4 (u.toNat / twoPow 48)
    ++ '-' :: hexDigits 12 u.toNat

/-- The written identifier as a string. -/
def render (u : Uuid) : String := String.ofList u.text

instance : ToString Uuid := ⟨render⟩

/-! ## Reading -/

/-- Reads 32 digits. -/
def readDigits? (cs : List Char) : Option Uuid :=
  if cs.length = 32 then (hexNumber? cs).map ofNat else none

/-- Reads five groups of digits with hyphens between them. -/
def readGroups? (cs : List Char) : Option Uuid :=
  let groups := pieces '-' cs
  if groups.map List.length = [8, 4, 4, 4, 12] then readDigits? groups.flatten else none

/-- The text inside a pair of braces. -/
def inBraces? (cs : List Char) : Option (List Char) :=
  match cs with
  | '{' :: cs => if cs.getLast? = some '}' then some cs.dropLast else none
  | _ => none

/-- The text after `urn:uuid:`, in letters of either case. -/
def afterUrn? (cs : List Char) : Option (List Char) :=
  if (cs.take 9).map Char.toLower = "urn:uuid:".toList then some (cs.drop 9) else none

/-- Reads an identifier in any of its four forms. -/
def read? (cs : List Char) : Option Uuid :=
  match inBraces? cs, afterUrn? cs with
  | some inner, _ => readGroups? inner
  | none, some rest => readGroups? rest
  | none, none => if cs.length = 32 then readDigits? cs else readGroups? cs

/-- Reads an identifier from a string. -/
def parse? (s : String) : Option Uuid := read? s.toList

end Uuid

end FederatedLogin
