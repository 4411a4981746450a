import Balance.Text.CodePointSet

/-!
Addresses of eight pieces between colons, each of one to four hexadecimal
digits. Two colons stand for at least one piece of zeros, once at most, and
the last two pieces may be written as four decimal numbers between dots.
-/

namespace Balance.Address.Ipv6
open Balance.Text

/-- A written piece, or the gap that two colons leave. -/
inductive Piece
  | value (number : Nat)
  | gap
deriving Repr, DecidableEq

def byte? (digits : List Char) : Option Nat :=
  let number := digits.foldl (fun number c => 10 * number + (c.toNat - '0'.toNat)) 0
  if digits = [] ∨ !digits.all Char.isDigit ∨ 255 < number ∨
      (1 < digits.length ∧ digits.head? = some '0') then none
  else some number

def dotted? (cs : List Char) : Option (List Piece) := do
  match ← (cs.splitOn '.').mapM byte? with
  | [a, b, c, d] => return [.value (256 * a + b), .value (256 * c + d)]
  | _ => none

/-- Pieces for which there is `room`; `gapped` says that the gap is used up. -/
def pieces? : (room : Nat) → (gapped : Bool) → List Char → Option (List Piece)
  | room, gapped, [] => if room = 0 || gapped then some [] else none
  | 0, _, _ :: _ => none
  | room + 1, gapped, c :: cs =>
    if c = ':' then
      if gapped then none else (Piece.gap :: ·) <$> pieces? room true cs
    else
      let digits := ((c :: cs).take 4).takeWhile (hexDigit? · |>.isSome)
      let piece := Piece.value (hexNumber digits)
      match (c :: cs).drop digits.length with
      | [] => (piece :: ·) <$> pieces? room gapped []
      | '.' :: _ =>
        if digits.isEmpty || room = 0 || (1 < room && !gapped) then none else dotted? (c :: cs)
      | ':' :: rest =>
        if digits.isEmpty || rest.isEmpty then none
        else (piece :: ·) <$> pieces? room gapped rest
      | _ => none

def filled (pieces : List Piece) : List Nat :=
  pieces.flatMap fun
    | .value number => [number]
    | .gap => List.replicate (9 - pieces.length) 0

def address? (cs : List Char) : Option (List Nat) :=
  match cs with
  | ':' :: ':' :: rest => (fun pieces => filled (.gap :: pieces)) <$> pieces? 7 true rest
  | ':' :: _ => none
  | _ => filled <$> pieces? 8 false cs

end Balance.Address.Ipv6
