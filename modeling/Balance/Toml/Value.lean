import Balance.Toml.Document
import Balance.Toml.Scalar

/-!
Keys and values of TOML. Arrays and inline tables nest to a fixed depth; an
inline table is assembled by the same rules as the document around it.
-/

namespace Balance.Toml

/-- A key may have fewer parts than this, and values nest less deep. -/
def depthLimit : Nat := 80

def keyPart? (cs : List Char) : Option (String × List Char) :=
  match cs with
  | '"' :: _ | '\'' :: _ => lineString? cs
  | _ =>
    let bare := cs.takeWhile isBare
    if bare.isEmpty then none else some (String.ofList bare, cs.dropWhile isBare)

/-- The parts of a key; `fuel` bounds their number. -/
def keyParts? : (fuel : Nat) → Reader (List String)
  | 0, _ => none
  | fuel + 1, cs => do
    let (part, rest) ← keyPart? (skipBlanks cs)
    match skipBlanks rest with
    | '.' :: rest =>
      let (parts, rest) ← keyParts? fuel rest
      some (part :: parts, rest)
    | rest => some ([part], rest)

def key? : Reader (List String) := keyParts? (depthLimit - 1)

def items? (value : Reader Data) : (fuel : Nat) → Reader (List Data)
  | 0, _ => none
  | fuel + 1, cs =>
    match skipLines false cs with
    | ']' :: rest => some ([], rest)
    | cs => do
      let (item, rest) ← value cs
      match skipLines false rest with
      | ']' :: rest => some ([item], rest)
      | ',' :: rest =>
        let (items, rest) ← items? value fuel rest
        some (item :: items, rest)
      | _ => none

def pair? (value : Reader Data) : Reader (List String × Data) := fun cs => do
  match ← key? cs with
  | (key, '=' :: rest) =>
    let (data, rest) ← value (skipBlanks rest)
    some ((key, data), rest)
  | _ => none

def pairs? (value : Reader Data) : (fuel : Nat) → Entries → Reader Entries
  | 0, _, _ => none
  | fuel + 1, entries, cs => do
    let ((key, data), rest) ← pair? value cs
    let entries ← entries.insert [] key data
    match skipBlanks rest with
    | '\x7d' :: rest => some (entries, rest)
    | ',' :: rest => pairs? value fuel entries rest
    | _ => none

def inlineTable? (value : Reader Data) : Reader Data := fun cs =>
  match skipBlanks cs with
  | '\x7d' :: rest => some (.table [], rest)
  | cs => (pairs? value cs.length [] cs).map fun (entries, rest) =>
    (.table (entriesToData entries), rest)

/-- A value whose brackets and braces nest at most `depth` times. -/
def value? : (depth : Nat) → Reader Data
  | depth, cs =>
    match depth, cs with
    | depth + 1, '[' :: rest =>
      (items? (value? depth) (rest.length + 1) rest).map fun (items, rest) => (.list items, rest)
    | depth + 1, '\x7b' :: rest => inlineTable? (value? depth) rest
    | _, '"' :: _ | _, '\'' :: _ => (string? cs).map fun (text, rest) => (.text text, rest)
    | _, _ => scalar? cs

end Balance.Toml
