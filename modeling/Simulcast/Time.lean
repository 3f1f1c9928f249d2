/-!
# Time and counters

Instants and durations are counted in nanoseconds and have no end: only doubling a duration stops,
at `longest`. A clock with sixty-four bits for its seconds, one of them for the sign, ends the run
at the first instant from 2 ^ 63 seconds on, so what is said of a run here is said of one that stays
before that. An instant may lie before the epoch, and its whole seconds are then zero. The clock
moves only when it is told to, and remembers how long it was asked to sleep.
-/

namespace Simulcast

structure Duration where
  nanos : Nat
  deriving DecidableEq, Repr

namespace Duration

def zero : Duration := ⟨0⟩

def ofSecs (n : Nat) : Duration := ⟨n * 1000000000⟩

def ofMillis (n : Nat) : Duration := ⟨n * 1000000⟩

def secs (d : Duration) : Nat := d.nanos / 1000000000

/-- Sixty-four bits of seconds and all nanoseconds of the last one. -/
def longest : Duration := ⟨18446744073709551615 * 1000000000 + 999999999⟩

/-- Twice as long, but not beyond `longest`. -/
def double (d : Duration) : Duration := ⟨min (2 * d.nanos) longest.nanos⟩

instance : LE Duration := ⟨fun a b => a.nanos ≤ b.nanos⟩
instance : LT Duration := ⟨fun a b => a.nanos < b.nanos⟩
instance (a b : Duration) : Decidable (a ≤ b) := inferInstanceAs (Decidable (a.nanos ≤ b.nanos))
instance (a b : Duration) : Decidable (a < b) := inferInstanceAs (Decidable (a.nanos < b.nanos))
instance : Add Duration := ⟨fun a b => ⟨a.nanos + b.nanos⟩⟩
instance : Sub Duration := ⟨fun a b => ⟨a.nanos - b.nanos⟩⟩

theorem le_def (a b : Duration) : a ≤ b ↔ a.nanos ≤ b.nanos := Iff.rfl

theorem lt_def (a b : Duration) : a < b ↔ a.nanos < b.nanos := Iff.rfl

end Duration

structure Instant where
  nanos : Int
  deriving DecidableEq, Repr

namespace Instant

def ofUnix (secs : Nat) : Instant := ⟨(secs : Int) * 1000000000⟩

def ofMillis (n : Int) : Instant := ⟨n * 1000000⟩

/-- Whole seconds since the epoch, zero before it. -/
def unix (t : Instant) : Nat := t.nanos.toNat / 1000000000

/-- The time from `earlier` to `t`, none of it when `t` comes first. -/
def since (t earlier : Instant) : Duration := ⟨(t.nanos - earlier.nanos).toNat⟩

/-- There is always a later instant, beyond the end of a clock too. -/
def after (t : Instant) (d : Duration) : Instant := ⟨t.nanos + d.nanos⟩

instance : LE Instant := ⟨fun a b => a.nanos ≤ b.nanos⟩
instance : LT Instant := ⟨fun a b => a.nanos < b.nanos⟩
instance (a b : Instant) : Decidable (a ≤ b) := inferInstanceAs (Decidable (a.nanos ≤ b.nanos))
instance (a b : Instant) : Decidable (a < b) := inferInstanceAs (Decidable (a.nanos < b.nanos))

theorem le_def (a b : Instant) : a ≤ b ↔ a.nanos ≤ b.nanos := Iff.rfl

end Instant

structure Clock where
  now : Instant
  slept : Duration
  deriving DecidableEq, Repr

namespace Clock

def startingAt (secs : Nat) : Clock := ⟨.ofUnix secs, .zero⟩

def set (c : Clock) (secs : Nat) : Clock := { c with now := .ofUnix secs }

def advance (c : Clock) (d : Duration) : Clock := { c with now := c.now.after d }

/-- Sleeping passes at once: the clock moves on, without an end, and the time is added to what was
slept. -/
def sleep (c : Clock) (d : Duration) : Clock :=
  { now := c.now.after d, slept := c.slept + d }

end Clock

/-! ### Counters

A counter has thirty-two bits and stops at its end. -/

def counterMax : Nat := 4294967295

def countUp (n : Nat) : Nat := min (n + 1) counterMax

theorem countUp_pos (n : Nat) : 0 < countUp n := by
  simp only [countUp, counterMax]
  omega

theorem countUp_ne_zero (n : Nat) : countUp n ≠ 0 := Nat.ne_of_gt (countUp_pos n)

end Simulcast
