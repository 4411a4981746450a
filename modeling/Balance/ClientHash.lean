/-!
The hash that ties a client id to a slot. Bytes are read as little-endian
32-bit words; each full word goes through one mixing round, the one to three
bytes that may be left go through a last round of their own, and the length
enters the seed. All arithmetic wraps at 32 bits.
-/

namespace Balance.ClientHash

def seed : UInt32 := 0xbc9f1d34

def multiplier : UInt32 := 0xc6a4a793

def word (b₀ b₁ b₂ b₃ : UInt8) : UInt32 :=
  b₀.toUInt32 ||| b₁.toUInt32 <<< 8 ||| b₂.toUInt32 <<< 16 ||| b₃.toUInt32 <<< 24

def absorb (hash word : UInt32) : UInt32 :=
  let mixed := (hash + word) * multiplier
  mixed ^^^ (mixed >>> 16)

def absorbTail (hash tail : UInt32) : UInt32 :=
  let mixed := (hash + tail) * multiplier
  mixed ^^^ (mixed >>> 24)

def absorbAll (hash : UInt32) : List UInt8 → UInt32
  | [] => hash
  | [b₀] => absorbTail hash (word b₀ 0 0 0)
  | [b₀, b₁] => absorbTail hash (word b₀ b₁ 0 0)
  | [b₀, b₁, b₂] => absorbTail hash (word b₀ b₁ b₂ 0)
  | b₀ :: b₁ :: b₂ :: b₃ :: rest => absorbAll (absorb hash (word b₀ b₁ b₂ b₃)) rest

def hash (bytes : List UInt8) : UInt32 :=
  absorbAll (seed ^^^ UInt32.ofNat bytes.length * multiplier) bytes

/-- The hash of a text is that of its UTF-8 bytes. -/
def ofText (text : String) : UInt32 := hash text.toUTF8.toList

end Balance.ClientHash
