/-!
Random numbers come from a stream fixed in advance, of which a selection
spends one number per random pick. A statement about every stream is a
statement about every outcome of the picks.
-/

namespace Balance

structure Draws where
  stream : Nat → Nat
  used : Nat := 0

namespace Draws

def roll (draws : Draws) (sides : Nat) : Nat × Draws :=
  (draws.stream draws.used % sides, { draws with used := draws.used + 1 })

theorem roll_lt (draws : Draws) {sides : Nat} (h : 0 < sides) :
    (draws.roll sides).1 < sides :=
  Nat.mod_lt _ h

/-- One round of a 64-bit mixing function. -/
def mix (word : UInt64) : UInt64 :=
  let word := (word ^^^ (word >>> 30)) * 0xbf58476d1ce4e5b9
  let word := (word ^^^ (word >>> 27)) * 0x94d049bb133111eb
  word ^^^ (word >>> 31)

/-- The stream that walks through the 64-bit words from `seed` in equal strides. -/
def seeded (seed : UInt64) : Draws where
  stream i := (mix (seed + 0x9e3779b97f4a7c15 * (UInt64.ofNat i + 1))).toNat

end Draws

end Balance
