import Balance.Text.CombiningTable

/-!
The composed normal form of a text. Characters are taken apart, marks behind a
base character are put into the order of their classes, and then each mark is
joined to the base it still can reach. Syllables of Hangul are joined and
taken apart by arithmetic, everything else by table.
-/

namespace Balance.Text.Normal

structure Mark where
  char : Char
  rank : Nat

def Mark.ofChar (c : Char) : Mark := ⟨c, (combiningClasses.value? c).getD 0⟩

namespace Hangul

def syllables : Nat := 0xac00

def leading : Nat := 0x1100

def vowels : Nat := 0x1161

def trailing : Nat := 0x11a7

def leadingCount : Nat := 19

def vowelCount : Nat := 21

def trailingCount : Nat := 28

def syllableCount : Nat := leadingCount * vowelCount * trailingCount

def split? (c : Char) : Option (List Char) :=
  let index := c.toNat - syllables
  if syllables ≤ c.toNat ∧ index < syllableCount then
    let head := Char.ofNat (leading + index / (vowelCount * trailingCount))
    let vowel := Char.ofNat (vowels + index % (vowelCount * trailingCount) / trailingCount)
    let tail := index % trailingCount
    some ([head, vowel] ++ if tail = 0 then [] else [Char.ofNat (trailing + tail)])
  else
    none

def within (first count : Nat) (c : Char) : Bool :=
  first ≤ c.toNat && c.toNat < first + count

def join? (first second : Char) : Option Char :=
  if within leading leadingCount first && within vowels vowelCount second then
    some (Char.ofNat (syllables +
      ((first.toNat - leading) * vowelCount + (second.toNat - vowels)) * trailingCount))
  else if within syllables syllableCount first &&
      (first.toNat - syllables) % trailingCount = 0 &&
      within (trailing + 1) (trailingCount - 1) second then
    some (Char.ofNat (first.toNat + (second.toNat - trailing)))
  else
    none

end Hangul

def join? (first second : Char) : Option Char :=
  match Hangul.join? first second with
  | some whole => some whole
  | none =>
    (compositions.compositions.find? fun composition =>
      composition.first = first.toNat && composition.second = second.toNat).map
        fun composition => Char.ofNat composition.whole

/-- No composition holds more than this many others inside each other. -/
def nestingLimit : Nat := 4

/-- Take a character apart, and the first part again. -/
def split : (depth : Nat) → Char → List Char
  | 0, c => [c]
  | depth + 1, c =>
    match Hangul.split? c with
    | some parts => parts
    | none =>
      match compositions.compositions.find? (·.whole = c.toNat) with
      | none => [c]
      | some composition =>
        split depth (Char.ofNat composition.first) ++ [Char.ofNat composition.second]

/-- Put a mark behind the last one that may not follow it. The marks before it
come in reverse order. -/
def place (mark : Mark) : List Mark → List Mark
  | [] => [mark]
  | other :: before =>
    if mark.rank ≠ 0 ∧ mark.rank < other.rank then other :: place mark before
    else mark :: other :: before

def ordered (cs : List Char) : List Mark :=
  (cs.foldl (fun placed c => place (.ofChar c) placed) []).reverse

/-- Whether nothing between a base and a mark of class `rank` keeps them apart. -/
def reaches (between : List Mark) (rank : Nat) : Bool :=
  between.getLast?.all (·.rank < rank)

/-- Join marks to `base`, behind which the marks `between` had to stay. -/
def joined (base : Option Char) (between : List Mark) : List Mark → List Char
  | [] => base.toList ++ between.map Mark.char
  | mark :: marks =>
    let whole? := base.bind fun base =>
      if reaches between mark.rank then join? base mark.char else none
    match whole? with
    | some whole => joined (some whole) between marks
    | none =>
      if mark.rank = 0 then
        base.toList ++ between.map Mark.char ++ joined (some mark.char) [] marks
      else
        joined base (between ++ [mark]) marks

def compose (cs : List Char) : List Char :=
  joined none [] (ordered (cs.flatMap (split nestingLimit)))

end Balance.Text.Normal
