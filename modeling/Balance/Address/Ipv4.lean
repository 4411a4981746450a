import Balance.Text.CodePointSet

/-!
Addresses of four bytes, written as one to four numbers between dots. All
numbers but the last fill one byte each and the last one fills the rest. A
number is decimal, or octal behind a zero, or hexadecimal behind `0x`.
-/

namespace Balance.Address.Ipv4
open Balance.Text

def isOctal (c : Char) : Bool := '0' ≤ c && c ≤ '7'

def numberIn (base : Nat) (isDigit : Char → Bool) (digits : List Char) : Option Nat :=
  if digits.all isDigit then
    some (digits.foldl (fun number c => base * number + (hexDigit? c).getD 0) 0)
  else
    none

/-- One part. Behind the mark of its base it may be empty, which is zero. -/
def number? : List Char → Option Nat
  | [] => none
  | '0' :: 'x' :: digits | '0' :: 'X' :: digits => numberIn 16 (hexDigit? · |>.isSome) digits
  | '0' :: digits => numberIn 8 isOctal digits
  | digits => numberIn 10 Char.isDigit digits

/-- The parts between the dots; one dot at the end is passed over. -/
def parts (name : List Char) : List (List Char) :=
  let pieces := name.splitOn '.'
  if pieces.getLast? = some [] then pieces.dropLast else pieces

/-- A host name whose last part is a number can only be an address. -/
def isNumeric (name : List Char) : Bool :=
  (parts name).getLast?.any fun part =>
    (!part.isEmpty && part.all Char.isDigit) || (number? part).isSome

def combine : (room : Nat) → List Nat → Option Nat
  | 0, _ => none
  | _, [] => none
  | room, [number] => if number < 256 ^ room then some number else none
  | room + 1, number :: numbers =>
    if number < 256 then (number * 256 ^ room + ·) <$> combine room numbers else none

def address? (name : List Char) : Option Nat := do
  combine 4 (← (parts name).mapM number?)

end Balance.Address.Ipv4
