import FederatedLogin.Power

/-!
# The store of session values

A store maps keys to values, each with or without an end. Entries that have ended are removed when
they are looked up, and all of them when a value is stored. The clock counts nanoseconds from some
start; ends beyond `latest` do not exist.
-/

namespace FederatedLogin.Session

/-- A stored value, and when it ends. -/
structure Entry where
  value : String
  ends : Option Nat
  deriving DecidableEq, Repr, Inhabited

/-- The entry has not ended at the given time. -/
def Entry.isLive (now : Nat) (e : Entry) : Bool := e.ends.all (now < ·)

/-- Entries under keys. -/
structure Store where
  entries : List (String × Entry) := []
  deriving DecidableEq, Repr, Inhabited

namespace Store

/-- The clock reading beyond which no entry can end. -/
def latest : Nat := twoPow 63 * 1000000000 - 1

/-- The entry under a key. -/
def get? (s : Store) (key : String) : Option Entry := s.entries.lookup key

/-- The store without a key. -/
def erase (s : Store) (key : String) : Store := ⟨s.entries.filter fun e => e.1 ≠ key⟩

/-- The store without the entries that have ended. -/
def sweep (s : Store) (now : Nat) : Store := ⟨s.entries.filter fun e => e.2.isLive now⟩

/-- The value under a key, and the store after the look. -/
def load (s : Store) (now : Nat) (key : String) : Option String × Store :=
  match s.get? key with
  | none => (none, s)
  | some e => if e.isLive now then (some e.value, s) else (none, s.erase key)

/-- The store after a value is put under a key, to end after a number of nanoseconds. There is none
if the end does not exist. -/
def store? (s : Store) (now : Nat) (key value : String) (lifetime : Option Nat) : Option Store :=
  let ends := lifetime.map (now + ·)
  if ends.all (· ≤ latest) then
    some ⟨(key, ⟨value, ends⟩) :: ((s.sweep now).erase key).entries⟩
  else none

/-- The number of entries that have not ended. -/
def size (s : Store) (now : Nat) : Nat := (s.entries.filter fun e => e.2.isLive now).length

/-- No entry is left. -/
def isEmpty (s : Store) (now : Nat) : Bool := s.size now = 0

end Store

end FederatedLogin.Session
