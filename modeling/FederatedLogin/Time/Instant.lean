import FederatedLogin.Power
import FederatedLogin.Time.Calendar

/-!
# Instants

Spans of time are integers, in nanoseconds.
An instant is a whole number of seconds since the start of 1970 and a part of a second. A part of
one second or more stands for a leap second, which follows the last second of a minute. Instants
lie in the years −262143 to 262142; a sum that leaves them does not exist.
-/

namespace FederatedLogin.Time

/-- The number of nanoseconds in a second. -/
def nanosPerSecond : Nat := 1000000000

/-- The nanoseconds of a number of seconds. -/
def seconds (n : Int) : Int := n * nanosPerSecond

/-- The longest span, in nanoseconds: as many milliseconds as a signed word of 64 bits holds. -/
def longestSpan : Int := (twoPow 63 - 1) * 1000000

/-- The number of seconds in a day. -/
def secondsPerDay : Nat := 86400

/-- The first second of the calendar. -/
def firstSecond : Int := -8334601228800

/-- The last second of the calendar. -/
def lastSecond : Int := 8210266876799

/-- The part of a second may follow the second: only the last second of a minute may be leapt. -/
def isSubsecond (seconds : Int) (nanos : Nat) : Bool :=
  nanos < nanosPerSecond || (nanos < 2 * nanosPerSecond && seconds % 60 = 59)

/-- A point of time. -/
structure Instant where
  seconds : Int
  nanos : Nat
  onCalendar : firstSecond ≤ seconds ∧ seconds ≤ lastSecond
  isSubsecond : isSubsecond seconds nanos = true
  deriving DecidableEq, Repr

namespace Instant

/-- The instant of a second and a part of it, if there is one. -/
def of? (seconds : Int) (nanos : Nat) : Option Instant :=
  if hs : firstSecond ≤ seconds ∧ seconds ≤ lastSecond then
    if hn : Time.isSubsecond seconds nanos = true then some ⟨seconds, nanos, hs, hn⟩ else none
  else none

/-- The last instant of the calendar that is no leap second. -/
def last : Instant := ⟨lastSecond, 999999999, by decide, by decide⟩

/-- The start of 1970. -/
def epoch : Instant := ⟨0, 0, by decide, by decide⟩

instance : Inhabited Instant := ⟨epoch⟩

/-- The nanoseconds since the start of 1970, not counting leap seconds. -/
def toNanos (t : Instant) : Int := t.seconds * nanosPerSecond + t.nanos

/-- The instant that lies the given number of nanoseconds after the start of 1970. -/
def ofNanos? (n : Int) : Option Instant :=
  of? (n / nanosPerSecond) (n % nanosPerSecond).toNat

/-- The instant that lies a span of nanoseconds after another one. A span of less than a second may
stay inside a leap second; one that leaves it does not count it. -/
def add? (t : Instant) (span : Int) : Option Instant :=
  if t.nanos < nanosPerSecond then ofNanos? (t.toNanos + span)
  else if span.tdiv nanosPerSecond < 0 then ofNanos? (t.toNanos + span)
  else if 0 < span.tdiv nanosPerSecond ∨ 2 * (nanosPerSecond : Int) ≤ t.nanos + span then
    ofNanos? (t.toNanos - nanosPerSecond + span)
  else of? t.seconds (t.nanos + span).toNat

/-- The instant is earlier than the other one. -/
def before (t u : Instant) : Bool :=
  t.seconds < u.seconds || (t.seconds = u.seconds && t.nanos < u.nanos)

end Instant

end FederatedLogin.Time
