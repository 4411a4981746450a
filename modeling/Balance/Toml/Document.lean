import Balance.Data

/-!
The tree of a TOML document while its lines come in. A table is opened by a
header, implied by the header of a table below it, or opened by a dotted key.
A header may take over an implied table once and nothing else; dotted keys may
extend implied and dotted tables, and must end in a dotted one. A key that is
taken is never written twice.
-/

namespace Balance.Toml

inductive Origin
  | header
  | implied
  | dotted
deriving Repr, DecidableEq

inductive Node
  | leaf (data : Data)
  | table (origin : Origin) (entries : List (String × Node))
  | tables (items : List (List (String × Node)))
deriving Inhabited

abbrev Entries := List (String × Node)

namespace Entries

def alter (key : String) (change : Option Node → Option Node) : Entries → Option Entries
  | [] => (change none).map fun node => [(key, node)]
  | (other, node) :: rest =>
    if other = key then (change (some node)).map fun node => (other, node) :: rest
    else (alter key change rest).map ((other, node) :: ·)

/-- Change the table at the end of a path; tables on the way are opened with
`missing` as their origin. Of a list of tables the last one counts. -/
def reach (missing : Origin) (change : Origin → Entries → Option Entries) :
    List String → Origin → Entries → Option Entries
  | [], origin, entries => change origin entries
  | key :: path, _, entries =>
    entries.alter key fun
      | none => (reach missing change path missing []).map (.table missing)
      | some (.leaf _) => none
      | some (.tables items) =>
        (reach missing change path .header (items.getLast?.getD [])).map fun last =>
          .tables (items.dropLast ++ [last])
      | some (.table origin inner) =>
        if missing = .dotted ∧ origin = .header then none
        else (reach missing change path origin inner).map (.table origin)

def insert (base path : List String) (data : Data) (entries : Entries) : Option Entries :=
  let write (origin : Origin) (inner : Entries) : Option Entries :=
    if (origin == .dotted) == path.dropLast.isEmpty then none
    else inner.alter (path.getLast?.getD "") fun
      | none => some (.leaf data)
      | some _ => none
  reach .implied (fun origin inner => reach .dotted write path.dropLast origin inner)
    base .header entries

def openTable (path : List String) (entries : Entries) : Option Entries :=
  let adopt (_ : Origin) (inner : Entries) : Option Entries :=
    inner.alter (path.getLast?.getD "") fun
      | none => some (.table .header [])
      | some (.table .implied inner) => some (.table .header inner)
      | some _ => none
  reach .implied adopt path.dropLast .header entries

def openItem (path : List String) (entries : Entries) : Option Entries :=
  let adopt (_ : Origin) (inner : Entries) : Option Entries :=
    inner.alter (path.getLast?.getD "") fun
      | none => some (.tables [[]])
      | some (.tables items) => some (.tables (items ++ [[]]))
      | some _ => none
  reach .implied adopt path.dropLast .header entries

end Entries

mutual

def Node.toData : Node → Data
  | .leaf data => data
  | .table _ entries => .table (entriesToData entries)
  | .tables items => .list (itemsToData items)

def entriesToData : List (String × Node) → List (String × Data)
  | [] => []
  | (key, node) :: rest => (key, node.toData) :: entriesToData rest

def itemsToData : List (List (String × Node)) → List Data
  | [] => []
  | entries :: rest => .table (entriesToData entries) :: itemsToData rest

end

end Balance.Toml
