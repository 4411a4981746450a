import Balance.Data
import Balance.Toml.Strings

/-!
Numbers, moments and truth values of TOML, each written as one run of
characters. Integers have 64 bits with a sign; single underscores may stand
between digits; a decimal number that is too large for a double is refused.
-/

namespace Balance.Toml
open Balance.Text

/-- Drop single underscores between digits. -/
def plainDigits (digit : Char → Bool) : List Char → Option (List Char)
  | [] => none
  | [c] => if digit c then some [c] else none
  | c :: '_' :: rest => if digit c then (plainDigits digit rest).map (c :: ·) else none
  | c :: rest => if digit c then (plainDigits digit rest).map (c :: ·) else none

def number (base : Nat) (digits : List Char) : Nat :=
  digits.foldl (fun value c => base * value + (hexDigit? c).getD 0) 0

def decimalDigits? (cs : List Char) : Option (List Char) := do
  let digits ← plainDigits isDigit cs
  if digits.length ≠ 1 ∧ digits.head? = some '0' then none else some digits

def splitSign : List Char → Bool × List Char
  | '+' :: rest => (false, rest)
  | '-' :: rest => (true, rest)
  | cs => (false, cs)

/-- Integers have 63 bits and a sign. -/
def integerLimit : Nat := 0x8000000000000000

def based? (base : Nat) (digit : Char → Bool) (cs : List Char) : Option Int := do
  let value := number base (← plainDigits digit cs)
  if value < integerLimit then some value else none

def integer? : List Char → Option Int
  | '0' :: 'x' :: digits => based? 16 isHexDigit digits
  | '0' :: 'o' :: digits => based? 8 (fun c => '0' ≤ c && c ≤ '7') digits
  | '0' :: 'b' :: digits => based? 2 (fun c => c = '0' || c = '1') digits
  | cs => do
    let (negative, cs) := splitSign cs
    let value := number 10 (← decimalDigits? cs)
    if negative then if value ≤ integerLimit then some (-value) else none
    else if value < integerLimit then some value else none

/-- Whether `digits · 10 ^ exponent` rounds to more than the largest double. -/
def overflows (digits : Nat) (exponent : Int) : Bool :=
  let bound := 1 <<< 1024 - 1 <<< 970
  if digits = 0 then false
  else
    match exponent with
    | .ofNat exponent => 400 < exponent || bound ≤ digits * Nat.pow 10 exponent
    | .negSucc exponent =>
      3 * (exponent + 1) ≤ digits.log2 && bound * Nat.pow 10 (exponent + 1) ≤ digits

def exponent? (cs : List Char) : Option Int := do
  let (negative, cs) := splitSign cs
  let value := number 10 (← plainDigits isDigit cs)
  some (if negative then -value else value)

def decimal? (cs : List Char) : Option Data := do
  let (negative, unsigned) := splitSign cs
  let shown := Data.decimal (String.ofList cs)
  if unsigned = ['i', 'n', 'f'] || unsigned = ['n', 'a', 'n'] then some shown
  else
    let isMark (c : Char) : Bool := c = 'e' || c = 'E'
    let mantissa := unsigned.takeWhile (!isMark ·)
    let power := unsigned.dropWhile (!isMark ·)
    let whole := mantissa.takeWhile (· ≠ '.')
    let fraction := mantissa.dropWhile (· ≠ '.')
    let wholeDigits ← decimalDigits? whole
    let fractionDigits ← if fraction.isEmpty then some [] else plainDigits isDigit fraction.tail
    let exponent ← if power.isEmpty then some 0 else exponent? power.tail
    if fraction.isEmpty && power.isEmpty then none
    else if !negative && overflows (number 10 (wholeDigits ++ fractionDigits))
        (exponent - fractionDigits.length) then none
    else some shown

def isLeapYear (year : Nat) : Bool :=
  year % 4 = 0 && (year % 100 ≠ 0 || year % 400 = 0)

def daysInMonth (year month : Nat) : Nat :=
  match month with
  | 2 => if isLeapYear year then 29 else 28
  | 4 | 6 | 9 | 11 => 30
  | _ => 31

def date? : List Char → Option (List Char)
  | a :: b :: c :: d :: '-' :: e :: f :: '-' :: g :: h :: rest =>
    let year := number 10 [a, b, c, d]
    let month := number 10 [e, f]
    let day := number 10 [g, h]
    if [a, b, c, d, e, f, g, h].all isDigit ∧ 1 ≤ month ∧ month ≤ 12 ∧ 1 ≤ day ∧
        day ≤ daysInMonth year month then some rest else none
  | _ => none

def fraction? : List Char → Option (List Char)
  | '.' :: rest =>
    if (rest.takeWhile isDigit).isEmpty then none else some (rest.dropWhile isDigit)
  | cs => some cs

def time? : List Char → Option (List Char)
  | a :: b :: ':' :: c :: d :: ':' :: e :: f :: rest =>
    if [a, b, c, d, e, f].all isDigit ∧ number 10 [a, b] ≤ 23 ∧ number 10 [c, d] ≤ 59 ∧
        number 10 [e, f] ≤ 60 then fraction? rest else none
  | _ => none

def isOffset : List Char → Bool
  | [] | ['Z'] | ['z'] => true
  | sign :: a :: b :: ':' :: c :: [d] =>
    (sign = '+' || sign = '-') && [a, b, c, d].all isDigit && number 10 [a, b] ≤ 23 &&
      number 10 [c, d] ≤ 59
  | _ => false

def isMoment (cs : List Char) : Bool :=
  match date? cs with
  | some [] => true
  | some (mark :: rest) =>
    (mark = 'T' || mark = 't' || mark = ' ') && (time? rest).any isOffset
  | none => time? cs = some []

def isScalar (c : Char) : Bool := isBare c || c = '+' || c = '.' || c = ':'

/-- A date and a time may be written with a space between them. -/
def isDateBeforeTime (run rest : List Char) : Bool :=
  match rest with
  | ' ' :: a :: b :: ':' :: _ => date? run = some [] && isDigit a && isDigit b
  | _ => false

def scalarRun (cs : List Char) : List Char × List Char :=
  let run := cs.takeWhile isScalar
  let rest := cs.dropWhile isScalar
  if isDateBeforeTime run rest then
    (run ++ ' ' :: (rest.drop 1).takeWhile isScalar, (rest.drop 1).dropWhile isScalar)
  else (run, rest)

def scalarOf? (run : List Char) : Option Data :=
  if run = ['t', 'r', 'u', 'e'] then some (.flag true)
  else if run = ['f', 'a', 'l', 's', 'e'] then some (.flag false)
  else if isMoment run then some (.moment (String.ofList run))
  else (integer? run).map .integer <|> decimal? run

def scalar? : Reader Data := fun cs =>
  let (run, rest) := scalarRun cs
  (scalarOf? run).map (·, rest)

end Balance.Toml
