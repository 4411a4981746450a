import Balance.Text.Quoted

/-!
JSON documents and their written form. A layout says what stands between the
parts: a pretty document has a line for each of them, a compact one has
nothing. Entries are written in the order in which they are listed.
-/

namespace Balance

inductive Json
  | null
  | flag (value : Bool)
  | number (value : Nat)
  | text (value : String)
  | list (items : List Json)
  | object (entries : List (String × Json))
deriving Repr, Inhabited

namespace Json

def escape (c : Char) : String :=
  match c with
  | '"' => "\\\""
  | '\\' => "\\\\"
  | '\n' => "\\n"
  | '\r' => "\\r"
  | '\t' => "\\t"
  | '\x08' => "\\b"
  | '\x0c' => "\\f"
  | c =>
    if c < ' ' then "\\u00" ++ (if c < '\x10' then "0" else "") ++ Text.hexText c.toNat
    else c.toString

def quoted (text : String) : String :=
  "\"" ++ String.join (text.toList.map escape) ++ "\""

structure Layout where
  gap : Nat → String
  colon : String

namespace Layout

def compact : Layout := ⟨fun _ => "", ":"⟩

def pretty : Layout := ⟨fun depth => "\n" ++ String.join (List.replicate depth "  "), ": "⟩

/-- Put brackets around parts that are `depth + 1` levels deep. -/
def enclose (layout : Layout) (depth : Nat) (opening closing : String) (parts : List String) :
    String :=
  if parts.isEmpty then opening ++ closing
  else
    opening ++ layout.gap (depth + 1) ++
      ("," ++ layout.gap (depth + 1)).intercalate parts ++ layout.gap depth ++ closing

end Layout

mutual

def write (layout : Layout) (depth : Nat) : Json → String
  | null => "null"
  | flag value => if value then "true" else "false"
  | number value => toString value
  | text value => quoted value
  | list items => layout.enclose depth "[" "]" (writeItems layout (depth + 1) items)
  | object entries => layout.enclose depth "\x7b" "\x7d" (writeEntries layout (depth + 1) entries)

def writeItems (layout : Layout) (depth : Nat) : List Json → List String
  | [] => []
  | item :: items => write layout depth item :: writeItems layout depth items

def writeEntries (layout : Layout) (depth : Nat) : List (String × Json) → List String
  | [] => []
  | (name, value) :: entries =>
    (quoted name ++ layout.colon ++ write layout depth value) :: writeEntries layout depth entries

end

def pretty (document : Json) : String := document.write .pretty 0

def compact (document : Json) : String := document.write .compact 0

def optional {α : Type} (write : α → Json) (value? : Option α) : Json := value?.elim null write

end Json

end Balance
