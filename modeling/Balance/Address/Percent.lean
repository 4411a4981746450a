import Balance.Text.CodePointSet

/-!
Texts in which a percent sign and two hexadecimal digits stand for a byte.
-/

namespace Balance.Address.Percent
open Balance.Text

def digit? (byte : UInt8) : Option Nat := hexDigit? (Char.ofNat byte.toNat)

def escaped? (high low : UInt8) : Option UInt8 := do
  return UInt8.ofNat (16 * (← digit? high) + (← digit? low))

def decodeBytes : List UInt8 → List UInt8
  | 0x25 :: high :: low :: rest =>
    match escaped? high low with
    | some byte => byte :: decodeBytes rest
    | none => 0x25 :: decodeBytes (high :: low :: rest)
  | byte :: rest => byte :: decodeBytes rest
  | [] => []

/-- The text behind the escapes, if its bytes are those of a text. -/
def decode? (text : String) : Option String :=
  String.fromUTF8? ⟨(decodeBytes text.toUTF8.toList).toArray⟩

end Balance.Address.Percent
