import Balance.Text.CodePointSet
import Balance.Toml.Lexical

/-!
The four kinds of TOML strings. Basic strings are written with double quotes
and have escapes, literal strings are written with single quotes and have
none; three quotes open the form that may run over several lines. Such a form
may end in up to two quotes of its own, directly before the closing three.
-/

namespace Balance.Toml
open Balance.Text

def escaped? : Char → Option Char
  | 'b' => some '\x08'
  | 't' => some '\t'
  | 'n' => some '\n'
  | 'f' => some '\x0c'
  | 'r' => some '\r'
  | '"' => some '"'
  | '\\' => some '\\'
  | _ => none

/-- The character with the number that hexadecimal digits write; surrogates
and numbers past the last code point are none. -/
def numbered? (digits : List Char) : Option Char :=
  let number := hexNumber digits
  if digits.all isHexDigit ∧ number.isValidChar then some (Char.ofNat number) else none

def push (c : Char) (read : Option (List Char × List Char)) : Option (List Char × List Char) :=
  read.map fun (text, rest) => (c :: text, rest)

def basic : Reader (List Char)
  | [] => none
  | '"' :: rest => some ([], rest)
  | '\\' :: 'u' :: a :: b :: c :: d :: rest => do
    push (← numbered? [a, b, c, d]) (basic rest)
  | '\\' :: 'U' :: a :: b :: c :: d :: e :: f :: g :: h :: rest => do
    push (← numbered? [a, b, c, d, e, f, g, h]) (basic rest)
  | '\\' :: c :: rest => do push (← escaped? c) (basic rest)
  | c :: rest => if isInline c then push c (basic rest) else none

def literal : Reader (List Char)
  | [] => none
  | '\'' :: rest => some ([], rest)
  | c :: rest => if isInline c then push c (literal rest) else none

/-- What three quotes in a row mean, by the quotes that follow them: the
string ends, up to two of all these quotes being its own. -/
def closing (quote : Char) (rest : List Char) : List Char × List Char :=
  match rest with
  | a :: b :: more =>
    if a = quote then if b = quote then ([quote, quote], more) else ([quote], b :: more)
    else ([], rest)
  | [a] => if a = quote then ([quote], []) else ([], rest)
  | [] => ([], [])

/-- The rest of a basic string over several lines. With `skipping`, blanks and
line ends are passed over: a backslash ended the last line. -/
def multiBasic : (skipping : Bool) → Reader (List Char)
  | _, [] => none
  | _, '"' :: '"' :: '"' :: rest => some (closing '"' rest)
  | skipping, '\r' :: '\n' :: rest =>
    if skipping then multiBasic true rest else push '\n' (multiBasic false rest)
  | skipping, '\n' :: rest =>
    if skipping then multiBasic true rest else push '\n' (multiBasic false rest)
  | _, '\\' :: 'u' :: a :: b :: c :: d :: rest => do
    push (← numbered? [a, b, c, d]) (multiBasic false rest)
  | _, '\\' :: 'U' :: a :: b :: c :: d :: e :: f :: g :: h :: rest => do
    push (← numbered? [a, b, c, d, e, f, g, h]) (multiBasic false rest)
  | _, '\\' :: c :: rest =>
    if (lineEnd? (skipBlanks (c :: rest))).isSome then multiBasic true (c :: rest)
    else do push (← escaped? c) (multiBasic false rest)
  | skipping, c :: rest =>
    if skipping && isBlank c then multiBasic true rest
    else if isInline c && c ≠ '\\' then push c (multiBasic false rest)
    else none

def multiLiteral : Reader (List Char)
  | [] => none
  | '\'' :: '\'' :: '\'' :: rest => some (closing '\'' rest)
  | '\r' :: '\n' :: rest => push '\n' (multiLiteral rest)
  | c :: rest => if c = '\n' || isInline c then push c (multiLiteral rest) else none

/-- A line end directly behind the opening quotes does not count. -/
def skipFirstLineEnd (cs : List Char) : List Char := (lineEnd? cs).getD cs

def lineString? : Reader String
  | '"' :: rest => (basic rest).map fun (text, rest) => (String.ofList text, rest)
  | '\'' :: rest => (literal rest).map fun (text, rest) => (String.ofList text, rest)
  | _ => none

def string? : Reader String
  | '"' :: '"' :: '"' :: rest =>
    (multiBasic false (skipFirstLineEnd rest)).map fun (text, rest) => (String.ofList text, rest)
  | '\'' :: '\'' :: '\'' :: rest =>
    (multiLiteral (skipFirstLineEnd rest)).map fun (text, rest) => (String.ofList text, rest)
  | cs => lineString? cs

end Balance.Toml
