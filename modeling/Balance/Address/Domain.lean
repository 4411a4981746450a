import Balance.Address.LabelClasses
import Balance.Address.MappingTable
import Balance.Address.Punycode
import Balance.Text.Normal

/-!
Host names. The characters of a name are replaced by table and composed, dots
separate its labels, and a label behind `xn--` is decoded. What then stands in
a label must be a character that needs no replacement; a label may not begin
with a mark, joiners need the right neighbours, and in a name with letters
written from right to left no label may mix the directions.
-/

namespace Balance.Address.Domain
open Balance.Text

def mapped? (c : Char) : Option (List Char) :=
  if ignored.contains c then some []
  else if disallowed.contains c then none
  else match shifted.replacement? c.toNat with
    | some point => some [Char.ofNat point]
    | none => some ((expanded.replacement? c.toNat).elim [c] (·.map Char.ofNat))

def isForbidden (c : Char) : Bool :=
  c ≤ ' ' || c = '\x7f' || "%#/:<>?@[\\]^|".toList.contains c

def isAscii (c : Char) : Bool := c ≤ '\x7f'

/-- Whether characters are in their final form. -/
def isSettled (label : List Char) : Bool :=
  label.all (fun c => mapped? c = some [c]) && Normal.compose label = label

def encodedMark : List Char := ['x', 'n', '-', '-']

def maxEncoded : Nat := 2000

def maxDecoded : Nat := 1000

def plainLabel? (label : List Char) : Option (List Char) :=
  if encodedMark.isPrefixOf label then do
    let code := label.drop encodedMark.length
    let plain ← Punycode.decode? code
    if code.all isAscii && !code.isEmpty && code.getLast? ≠ some '-' &&
        code.length ≤ maxEncoded && isSettled plain then
      some plain
    else none
  else if label.all isAscii || label.length ≤ maxDecoded then some label
  else none

namespace Joiner

def nonJoiner : Char := '\u200c'

def joiner : Char := '\u200d'

def isVirama (c : Char) : Bool := (Normal.Mark.ofChar c).rank = 9

/-- Whether letters on both sides join across this place. The characters
before it come in reverse order. -/
def joins (before after : List Char) : Bool :=
  (before.dropWhile transparent.contains).head?.any
      (fun c => leftJoining.contains c || dualJoining.contains c) &&
    (after.dropWhile transparent.contains).head?.any
      (fun c => rightJoining.contains c || dualJoining.contains c)

def isPlaced (before : List Char) : List Char → Bool
  | [] => true
  | c :: after =>
    (if c = joiner then before.head?.any isVirama
      else if c = nonJoiner then before.head?.any isVirama || joins before after
      else true) && isPlaced (c :: before) after

end Joiner

namespace Direction

def isRightward (c : Char) : Bool :=
  !(rightToLeft.contains c || arabicNumbers.contains c || europeanNumbers.contains c ||
    nonspacing.contains c || neutral.contains c)

/-- Whether a name with this character has to follow the rule of directions. -/
def demandsRule (c : Char) : Bool := rightToLeft.contains c || arabicNumbers.contains c

/-- The last character that is not a mark. -/
def closing (label : List Char) : Option Char :=
  (label.reverse.dropWhile nonspacing.contains).head?

def isConsistent (label : List Char) : Bool :=
  match label with
  | [] => true
  | first :: _ =>
    if rightToLeft.contains first then
      label.all (!isRightward ·) &&
        (closing label).any (fun c => !neutral.contains c) &&
        !(label.any arabicNumbers.contains && label.any europeanNumbers.contains)
    else
      isRightward first && label.all (!demandsRule ·) &&
        (closing label).any (fun c => isRightward c || europeanNumbers.contains c)

end Direction

def isValidLabel (label : List Char) : Bool :=
  !label.head?.any marks.contains && Joiner.isPlaced [] label && !label.any isForbidden

def labels? (name : String) : Option (List (List Char)) := do
  let name := Normal.compose (← name.toList.mapM mapped?).flatten
  let labels ← (name.splitOn '.').mapM plainLabel?
  let consistent :=
    !labels.any (·.any Direction.demandsRule) || labels.all Direction.isConsistent
  if labels.all isValidLabel && consistent then some labels else none

end Balance.Address.Domain
