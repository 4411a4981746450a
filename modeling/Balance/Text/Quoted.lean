import Balance.Text.Printable

/-!
A text between double quotes, as diagnostics show it. Quotes and backslashes
get a backslash, the usual controls their letter, and every other character
that is not printable its number in braces.
-/

namespace Balance.Text

def hexText (number : Nat) : String := String.ofList (Nat.toDigits 16 number)

def escape (c : Char) : String :=
  match c with
  | '"' => "\\\""
  | '\\' => "\\\\"
  | '\n' => "\\n"
  | '\r' => "\\r"
  | '\t' => "\\t"
  | '\x00' => "\\0"
  | c => if isPrintable c then c.toString else "\\u\x7b" ++ hexText c.toNat ++ "\x7d"

def quoted (text : String) : String :=
  "\"" ++ String.join (text.toList.map escape) ++ "\""

end Balance.Text
