/-!
# Time

A time stamp is a 64-bit count of milliseconds, a span of time an exact count of nanoseconds.

* `Millis.after` adds a delay to a time stamp and stops at the last one.
* `Span.toMillis` drops the part of a span below a millisecond and keeps the low 64 bits of the rest.
* `ClockMove.apply` sets a manually driven clock, then advances it; the sum wraps.
-/

namespace Coordination

/-- Milliseconds since the epoch. -/
abbrev Millis := UInt64

/-- The time stamp `delay` after `t`, or the last time stamp there is. -/
def Millis.after (t delay : Millis) : Millis :=
  UInt64.ofNat (min (t.toNat + delay.toNat) (UInt64.size - 1))

theorem Millis.toNat_after (t delay : Millis) : (t.after delay).toNat = min (t.toNat + delay.toNat) (UInt64.size - 1) :=
  UInt64.toNat_ofNat_of_lt' (Nat.lt_of_le_of_lt (Nat.min_le_right ..) (by decide))

theorem Millis.le_max_right (now t : Millis) : t ≤ max now t := by
  show t ≤ if now ≤ t then t else now
  by_cases h : now ≤ t
  · rw [if_pos h]
    exact UInt64.le_refl _
  · rw [if_neg h]
    exact UInt64.le_of_lt (UInt64.not_le.1 h)

/-- A span of time in nanoseconds. -/
structure Span where
  nanos : Nat
  deriving DecidableEq, Repr

namespace Span

def ofMillis (n : Nat) : Span := ⟨n * 1000000⟩

def ofParts (seconds nanos : Nat) : Span := ⟨seconds * 1000000000 + nanos⟩

def zero : Span := ⟨0⟩

/-- The full milliseconds of a span. -/
def wholeMillis (s : Span) : Nat := s.nanos / 1000000

/-- A span as a time stamp counts it: whole milliseconds, of which the low 64 bits are kept. -/
def toMillis (s : Span) : Millis := UInt64.ofNat s.wholeMillis

theorem toNat_toMillis (s : Span) : s.toMillis.toNat = s.wholeMillis % UInt64.size := UInt64.toNat_ofNat'

/-- Whole seconds, and the nanoseconds left over. -/
def parts (s : Span) : Nat × Nat := (s.nanos / 1000000000, s.nanos % 1000000000)

end Span

/-- What is done to a manually driven clock: it may be set, and then advanced. -/
structure ClockMove where
  set : Option Millis
  advance : Option Millis
  deriving DecidableEq, Repr

namespace ClockMove

def stay : ClockMove := ⟨none, none⟩

def apply (m : ClockMove) (now : Millis) : Millis := m.set.getD now + m.advance.getD 0

end ClockMove

/-- What passes while some code runs: time on the stop watch, and moves of the manual clock. -/
structure Passing where
  takes : Span
  clock : ClockMove
  deriving DecidableEq, Repr

def Passing.nothing : Passing := ⟨.zero, .stay⟩

end Coordination
