/-!
Values as a data format delivers them. A structure is read from a table by the
names of its fields or from a list by their order; a missing field has its
default and an unknown one is passed over. Formats differ in two points, held
by `Dialect`: whether a list may be longer than the structure, and what may
stand behind a name that is written as the only key of a table.
-/

namespace Balance

inductive Data
  | null
  | flag (value : Bool)
  | integer (value : Int)
  | decimal (text : String)
  | text (value : String)
  | moment (text : String)
  | list (items : List Data)
  | table (entries : List (String × Data))
deriving Repr, Inhabited

structure Dialect where
  surplus : Bool
  unit : Data → Bool

namespace Dialect

def json : Dialect where
  surplus := false
  unit
    | .null => true
    | _ => false

def toml : Dialect where
  surplus := true
  unit
    | .list items => items.isEmpty
    | .table entries => entries.isEmpty
    | _ => false

end Dialect

namespace Data

/-- The fields of a structure: `names` are their names in order. A moment is
read like a table without any of them. -/
def fields? (dialect : Dialect) (names : List String) : Data → Option (List (String × Data))
  | table entries => some entries
  | list items =>
    if items.length ≤ names.length || dialect.surplus then some (names.zip items) else none
  | moment _ => some []
  | _ => none

/-- Read one field, which is `default` when it is missing. -/
def field {α : Type} (fields : List (String × Data)) (name : String)
    (read : Data → Option α) (default : α) : Option α :=
  (fields.lookup name).elim (some default) read

def flag? : Data → Option Bool
  | flag value => some value
  | _ => none

def text? : Data → Option String
  | text value => some value
  | _ => none

def natBelow? (bound : Nat) : Data → Option Nat
  | integer (.ofNat value) => if value < bound then some value else none
  | _ => none

def list? {α : Type} (read : Data → Option α) : Data → Option (List α)
  | list items => items.mapM read
  | _ => none

def optional {α : Type} (read : Data → Option α) : Data → Option (Option α)
  | null => some none
  | data => some <$> read data

/-- A name, written as a text or as the only key of a table. -/
def name? (dialect : Dialect) : Data → Option String
  | text value => some value
  | table [(key, content)] => if dialect.unit content then some key else none
  | _ => none

end Data

end Balance
