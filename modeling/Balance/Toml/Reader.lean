import Balance.Toml.Value

/-!
Reading a TOML document line by line. A line is empty, a header or a key with
its value, and may end in a comment; a mark of the byte order may precede the
first one. The answer is the table that the document writes, or nothing where
it is malformed.
-/

namespace Balance.Toml

structure Draft where
  base : List String := []
  entries : Entries := []

def header? (closing : List Char) : Reader (List String) := fun cs => do
  let (path, rest) ← key? cs
  if rest.take closing.length = closing then some (path, rest.drop closing.length) else none

def line? (draft : Draft) : Reader Draft
  | '[' :: '[' :: rest => do
    let (path, rest) ← header? [']', ']'] rest
    some (⟨path, ← draft.entries.openItem path⟩, rest)
  | '[' :: rest => do
    let (path, rest) ← header? [']'] rest
    some (⟨path, ← draft.entries.openTable path⟩, rest)
  | cs => do
    let ((path, data), rest) ← pair? (value? (depthLimit - 1)) cs
    some ({ draft with entries := ← draft.entries.insert draft.base path data }, rest)

/-- All lines; each step leaves fewer characters, so `fuel` is their number. -/
def lines? : (fuel : Nat) → Draft → List Char → Option Draft
  | 0, draft, cs => if cs.isEmpty then some draft else none
  | fuel + 1, draft, cs =>
    match skipLines false cs with
    | [] => some draft
    | cs => do
      let (draft, rest) ← line? draft cs
      lines? fuel draft (← endLine? rest)

def byteOrderMark : Char := '\ufeff'

def parse? (text : String) : Option Data :=
  let cs := match text.toList with
    | c :: rest => if c = byteOrderMark then rest else c :: rest
    | [] => []
  (lines? (cs.length + 1) {} cs).map fun draft => .table (entriesToData draft.entries)

end Balance.Toml
