/-!
Time is counted in nanoseconds from the start of a clock. A clock shows `now`
at every reading, except that readings announced in `scripted` come first, in
their order; so any finite run of readings is the run of some clock. A
deadline exists only while its second count fits into 63 bits.
-/

namespace Balance

abbrev Instant := Nat

abbrev Duration := Nat

def nanosPerSecond : Nat := 1000000000

def nanosPerMilli : Nat := 1000000

namespace Duration

def ofMillis (millis : Nat) : Duration := millis * nanosPerMilli

/-- Whole milliseconds, cut to their low 64 bits. -/
def millis64 (length : Duration) : Nat := length / nanosPerMilli % UInt64.size

def max : Duration := (UInt64.size - 1) * nanosPerSecond + 999999999

end Duration

namespace Instant

/-- First instant that has no representation. -/
def horizon : Instant := 0x8000000000000000 * nanosPerSecond

def deadline (start : Instant) (timeout : Duration) : Option Instant :=
  if start + timeout < horizon then some (start + timeout) else none

theorem deadline_eq_some_iff {start : Instant} {timeout : Duration} {due : Instant} :
    deadline start timeout = some due ↔ start + timeout = due ∧ due < horizon := by
  unfold deadline
  split
  · next h => simpa using fun e : start + timeout = due => e ▸ h
  · next h => simpa using fun e : start + timeout = due => Nat.not_lt.mp (e ▸ h)

/-- Whole milliseconds from `now` until `due`, none of them once it is past. -/
def remainingMillis (due now : Instant) : Nat := Duration.millis64 (due - now)

end Instant

structure Clock where
  now : Instant
  scripted : List Instant := []
deriving Repr, DecidableEq

namespace Clock

def read (clock : Clock) : Instant × Clock :=
  match clock.scripted with
  | [] => (clock.now, clock)
  | reading :: rest => (reading, { clock with scripted := rest })

def advance (clock : Clock) (length : Duration) : Clock :=
  { clock with now := clock.now + length }

@[simp] theorem read_unscripted (now : Instant) :
    (Clock.mk now []).read = (now, ⟨now, []⟩) := rfl

@[simp] theorem read_scripted (now reading : Instant) (rest : List Instant) :
    (Clock.mk now (reading :: rest)).read = (reading, ⟨now, rest⟩) := rfl

end Clock

end Balance
