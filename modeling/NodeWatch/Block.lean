/-!
# Blocks and instants

An instant is a count of seconds from the epoch and of nanoseconds within the second, in the range
of years that the calendar covers. The time between two blocks is signed, exact to the nanosecond,
and reported in whole milliseconds cut off towards zero.
-/

namespace NodeWatch

/-- A point in time. -/
structure Instant where
  /-- Whole seconds since the epoch. -/
  seconds : Int
  /-- Nanoseconds since that second. -/
  nanos : Nat
  earliest_le : -8334601228800 ≤ seconds := by omega
  le_latest : seconds ≤ 8210266876799 := by omega
  nanos_lt : nanos < 1000000000 := by omega
  deriving DecidableEq, Repr

namespace Instant

/-- The instant with these seconds and nanoseconds, if the calendar covers it. -/
def of? (seconds : Int) (nanos : Nat) : Option Instant :=
  if h : -8334601228800 ≤ seconds ∧ seconds ≤ 8210266876799 ∧ nanos < 1000000000 then
    some ⟨seconds, nanos, h.1, h.2.1, h.2.2⟩
  else none

/-- Nanoseconds since the epoch. -/
def sinceEpoch (t : Instant) : Int := t.seconds * 1000000000 + t.nanos

/-- Whole milliseconds from `earlier` to `t`, cut off towards zero. -/
def millisSince (t earlier : Instant) : Int :=
  (t.sinceEpoch - earlier.sinceEpoch).tdiv 1000000

end Instant

/-- A block of the chain. -/
structure Block where
  number : UInt64
  time : Instant
  deriving DecidableEq, Repr

namespace Block

/-- Milliseconds from the earlier block to `b`; negative when the clock went backwards. -/
def millisSince (b earlier : Block) : Int := b.time.millisSince earlier.time

end Block

end NodeWatch
