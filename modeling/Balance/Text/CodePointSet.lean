/-!
Sets of code points, kept as ranges in increasing order and written as lines
of hexadecimal numbers: `300-36f` is a range and `483` a single code point.
-/

namespace Balance.Text

def hexDigit? (c : Char) : Option Nat :=
  if '0' ≤ c ∧ c ≤ '9' then some (c.toNat - '0'.toNat)
  else if 'a' ≤ c ∧ c ≤ 'f' then some (c.toNat - 'a'.toNat + 10)
  else if 'A' ≤ c ∧ c ≤ 'F' then some (c.toNat - 'A'.toNat + 10)
  else none

/-- The number that the hexadecimal digits of a text write; other characters
count as zero. -/
def hexNumber (digits : List Char) : Nat :=
  digits.foldl (fun number c => 16 * number + (hexDigit? c).getD 0) 0

def words (line : String) : List (List Char) :=
  (line.toList.splitOn ' ').filter (!·.isEmpty)

structure CodePointSet where
  ranges : List (Nat × Nat)
deriving Repr, DecidableEq

namespace CodePointSet

def rangeOf (word : List Char) : Nat × Nat :=
  let first := word.takeWhile (· ≠ '-')
  match word.dropWhile (· ≠ '-') with
  | [] => (hexNumber first, hexNumber first)
  | _ :: last => (hexNumber first, hexNumber last)

def ofLines (lines : List String) : CodePointSet :=
  ⟨lines.flatMap fun line => (words line).map rangeOf⟩

/-- Ranges are searched from the front and the search stops behind `c`. -/
def containsIn (point : Nat) : List (Nat × Nat) → Bool
  | [] => false
  | (first, last) :: ranges =>
    if point < first then false
    else if point ≤ last then true
    else containsIn point ranges

def contains (set : CodePointSet) (c : Char) : Bool := containsIn c.toNat set.ranges

end CodePointSet

end Balance.Text
