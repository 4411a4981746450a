import Balance.ClientHash
import Mathlib

/-!
Client ids that nearly agree are told apart. No round of the hash loses anything:
a wrapping sum can be taken back, so can a product with an odd number, and a word
mixed with its own upper bits comes back when it is mixed once more. Of byte strings
of one length, the hash is therefore injective in each group of four bytes, and in
the one to three bytes behind the last one, while the other bytes stay.
-/

namespace Balance.ClientHash

def xorShift (places word : UInt32) : UInt32 := word ^^^ (word >>> places)

def mix (places sum : UInt32) : UInt32 := xorShift places (sum * multiplier)

/-- The word that takes the multiplier back. -/
def inverse : UInt32 := 0xd8198e9b

theorem absorb_eq (hash word : UInt32) : absorb hash word = mix 16 (hash + word) := rfl

theorem absorbTail_eq (hash tail : UInt32) : absorbTail hash tail = mix 24 (hash + tail) := rfl

theorem mul_multiplier_injective : Function.Injective fun word : UInt32 => word * multiplier := by
  have undone : multiplier * inverse = 1 := by decide
  have back : Function.LeftInverse (· * inverse) (· * multiplier) := by
    intro word
    dsimp only
    rw [UInt32.mul_assoc, undone, UInt32.mul_one]
  exact back.injective

section Mix

variable {places : UInt32} (half : 16 ≤ places.toNat) (short : places.toNat < 32)
include half short

theorem shiftRight_twice (word : UInt32) : word >>> places >>> places = 0 := by
  apply UInt32.toNat_inj.mp
  have gone : word.toNat < 2 ^ (places.toNat + places.toNat) :=
    Nat.lt_of_lt_of_le word.toNat_lt (Nat.pow_le_pow_right Nat.two_pos (by omega))
  rw [UInt32.toNat_shiftRight, UInt32.toNat_shiftRight, Nat.mod_eq_of_lt short,
    ← Nat.shiftRight_add, Nat.shiftRight_eq_div_pow, Nat.div_eq_of_lt gone]
  rfl

theorem xorShift_involutive : Function.Involutive (xorShift places) := by
  intro word
  calc
    _ = word ^^^ (word >>> places ^^^ word >>> places) ^^^ word >>> places >>> places := by
      rw [xorShift, xorShift, UInt32.shiftRight_xor]
      ac_rfl
    _ = word := by
      rw [UInt32.xor_self, shiftRight_twice half short, UInt32.xor_zero, UInt32.xor_zero]

theorem mix_injective : Function.Injective (mix places) :=
  (xorShift_involutive half short).injective.comp mul_multiplier_injective

end Mix

theorem absorb_inj {hash word other next : UInt32} :
    absorb hash word = absorb other next ↔ hash + word = other + next := by
  rw [absorb_eq, absorb_eq, (mix_injective (by decide) (by decide)).eq_iff]

theorem absorbTail_inj {hash word other next : UInt32} :
    absorbTail hash word = absorbTail other next ↔ hash + word = other + next := by
  rw [absorbTail_eq, absorbTail_eq, (mix_injective (by decide) (by decide)).eq_iff]

section Words

theorem or_shiftLeft {low places : Nat} (below : low < 2 ^ places) (high : Nat) :
    low ||| high <<< places = low + high * 2 ^ places := by
  rw [Nat.or_comm, ← Nat.shiftLeft_add_eq_or_of_lt below, Nat.shiftLeft_eq, Nat.add_comm]

theorem toNat_shifted {places : UInt32} (byte : UInt8) (fits : places.toNat ≤ 24) :
    (byte.toUInt32 <<< places).toNat = byte.toNat <<< places.toNat := by
  have bound : byte.toNat <<< places.toNat < 2 ^ 32 := by
    calc
      _ = byte.toNat * 2 ^ places.toNat := Nat.shiftLeft_eq ..
      _ < 2 ^ 8 * 2 ^ places.toNat :=
        Nat.mul_lt_mul_of_pos_right byte.toNat_lt (Nat.two_pow_pos _)
      _ ≤ 2 ^ 8 * 2 ^ 24 := Nat.mul_le_mul_left _ (Nat.pow_le_pow_right Nat.two_pos fits)
  rw [UInt32.toNat_shiftLeft, UInt8.toNat_toUInt32,
    Nat.mod_eq_of_lt (Nat.lt_of_le_of_lt fits (by decide)), Nat.mod_eq_of_lt bound]

theorem toNat_word (b₀ b₁ b₂ b₃ : UInt8) : (word b₀ b₁ b₂ b₃).toNat =
    b₀.toNat + b₁.toNat * 2 ^ 8 + b₂.toNat * 2 ^ 16 + b₃.toNat * 2 ^ 24 := by
  have one := b₀.toNat_lt
  have two : b₀.toNat + b₁.toNat * 2 ^ 8 < 2 ^ 16 := by
    have := b₁.toNat_lt
    omega
  have three : b₀.toNat + b₁.toNat * 2 ^ 8 + b₂.toNat * 2 ^ 16 < 2 ^ 24 := by
    have := b₂.toNat_lt
    omega
  rw [word, UInt32.toNat_or, UInt32.toNat_or, UInt32.toNat_or, toNat_shifted _ (by decide),
    toNat_shifted _ (by decide), toNat_shifted _ (by decide), UInt8.toNat_toUInt32]
  simp only [UInt32.reduceToNat, or_shiftLeft one, or_shiftLeft two, or_shiftLeft three]

theorem word_inj {b₀ b₁ b₂ b₃ c₀ c₁ c₂ c₃ : UInt8} :
    word b₀ b₁ b₂ b₃ = word c₀ c₁ c₂ c₃ ↔ b₀ = c₀ ∧ b₁ = c₁ ∧ b₂ = c₂ ∧ b₃ = c₃ := by
  have := b₀.toNat_lt
  have := b₁.toNat_lt
  have := b₂.toNat_lt
  have := c₀.toNat_lt
  have := c₁.toNat_lt
  have := c₂.toNat_lt
  simp only [← UInt32.toNat_inj, ← UInt8.toNat_inj, toNat_word]
  omega

end Words

theorem absorbAll_left_inj (bytes : List UInt8) {hash other : UInt32} :
    absorbAll hash bytes = absorbAll other bytes ↔ hash = other := by
  induction hash, bytes using absorbAll.induct generalizing other with
  | case1 hash => rfl
  | case2 hash b₀ => rw [absorbAll, absorbAll, absorbTail_inj, UInt32.add_left_inj]
  | case3 hash b₀ b₁ => rw [absorbAll, absorbAll, absorbTail_inj, UInt32.add_left_inj]
  | case4 hash b₀ b₁ b₂ => rw [absorbAll, absorbAll, absorbTail_inj, UInt32.add_left_inj]
  | case5 hash b₀ b₁ b₂ b₃ rest ih =>
    rw [absorbAll, absorbAll, ih, absorb_inj, UInt32.add_left_inj]

theorem absorbAll_take_drop (groups : Nat) (hash : UInt32) (bytes : List UInt8) :
    absorbAll (absorbAll hash (bytes.take (4 * groups))) (bytes.drop (4 * groups)) =
      absorbAll hash bytes := by
  induction groups generalizing hash bytes with
  | zero => rfl
  | succ groups ih =>
    rw [Nat.mul_succ]
    match bytes with
    | [] | [_] | [_, _] | [_, _, _] => rfl
    | b₀ :: b₁ :: b₂ :: b₃ :: rest => exact ih (absorb hash (word b₀ b₁ b₂ b₃)) rest

variable {first second : List UInt8}

theorem absorbAll_inj_of_drop {hash : UInt32} (length : first.length = second.length)
    (behind : first.drop 4 = second.drop 4) :
    absorbAll hash first = absorbAll hash second ↔ first = second := by
  match first, second with
  | [], [] => simp
  | [b₀], [c₀] => simp [absorbAll, absorbTail_inj, word_inj]
  | [b₀, b₁], [c₀, c₁] => simp [absorbAll, absorbTail_inj, word_inj]
  | [b₀, b₁, b₂], [c₀, c₁, c₂] => simp [absorbAll, absorbTail_inj, word_inj]
  | b₀ :: b₁ :: b₂ :: b₃ :: rest, c₀ :: c₁ :: c₂ :: c₃ :: others =>
    obtain rfl : rest = others := behind
    simp [absorbAll, absorbAll_left_inj, absorb_inj, word_inj]

theorem hash_eq_iff_of_group {group : Nat} (length : first.length = second.length)
    (outside : ∀ place, place / 4 ≠ group → first[place]? = second[place]?) :
    hash first = hash second ↔ first = second := by
  have before : first.take (4 * group) = second.take (4 * group) := by
    refine List.ext_getElem? fun place => ?_
    rw [List.getElem?_take, List.getElem?_take]
    split
    · exact outside place (by omega)
    · rfl
  have behind : (first.drop (4 * group)).drop 4 = (second.drop (4 * group)).drop 4 := by
    refine List.ext_getElem? fun place => ?_
    rw [List.drop_drop, List.drop_drop, List.getElem?_drop, List.getElem?_drop]
    exact outside _ (by omega)
  have same : (first.drop (4 * group)).length = (second.drop (4 * group)).length := by
    rw [List.length_drop, List.length_drop, length]
  rw [hash, hash, length, ← absorbAll_take_drop group _ first,
    ← absorbAll_take_drop group _ second, before, absorbAll_inj_of_drop same behind]
  constructor
  · intro rest
    rw [← List.take_append_drop (4 * group) first, before, rest, List.take_append_drop]
  · rintro rfl
    rfl

/-- Two byte strings of one length that differ, but only within one aligned group of
four bytes or within the one to three bytes behind the last, have different hashes.
So have two client ids whose texts take equally many bytes and differ in one of them. -/
theorem hash_ne_within_group :
    (∀ first second : List UInt8, first.length = second.length → first ≠ second →
      ∀ group, (∀ place, place / 4 ≠ group → first[place]? = second[place]?) →
        hash first ≠ hash second) ∧
      ∀ first second : String, first.toUTF8.toList.length = second.toUTF8.toList.length →
        ∀ place, (∀ other : Nat, first.toUTF8.toList[other]? ≠ second.toUTF8.toList[other]? ↔
            other = place) →
          ofText first ≠ ofText second := by
  constructor
  · intro first second length differ group outside
    exact mt (hash_eq_iff_of_group length outside).mp differ
  · intro first second length place only
    have differ : first.toUTF8.toList ≠ second.toUTF8.toList := by
      intro same
      exact (only place).mpr rfl (by rw [same])
    have outside (other : Nat) (far : other / 4 ≠ place / 4) :
        first.toUTF8.toList[other]? = second.toUTF8.toList[other]? := by
      by_contra found
      exact far (by rw [(only other).mp found])
    exact mt (hash_eq_iff_of_group length outside).mp differ

theorem hash_ne_within_group_addresses :
    let bytes : List UInt8 := [49, 57, 50, 46, 49, 54, 56, 46, 48, 46, 49]
    let other : List UInt8 := [49, 57, 50, 46, 49, 54, 56, 46, 55, 46, 57]
    (bytes.length = other.length ∧ bytes ≠ other ∧
        (∀ place, place / 4 ≠ 2 → bytes[place]? = other[place]?) ∧ hash bytes ≠ hash other) ∧
      ofText "192.168.0.1" ≠ ofText "192.169.0.1" := by
  intro bytes other
  have outside (place : Nat) (far : place / 4 ≠ 2) : bytes[place]? = other[place]? := by
    match place with
    | 0 | 1 | 2 | 3 | 4 | 5 | 6 | 7 => rfl
    | 8 | 9 | 10 => contradiction
    | place + 11 => rfl
  refine ⟨⟨rfl, by decide, outside, ?_⟩, ?_⟩
  · exact hash_ne_within_group.1 bytes other rfl (by decide) 2 outside
  · have first : "192.168.0.1".toUTF8.toList = bytes := by cbv
    have second : "192.169.0.1".toUTF8.toList = bytes.set 6 57 := by cbv
    refine hash_ne_within_group.2 _ _ (by rw [first, second]; rfl) 6 fun place => ?_
    rw [first, second]
    by_cases changed : place = 6
    · subst changed
      decide
    · simp [changed, List.getElem?_set_ne (Ne.symm changed)]

end Balance.ClientHash
