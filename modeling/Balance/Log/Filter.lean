import Balance.Log.Record

/-!
Which records are written. A filter is a list of directives between commas;
a directive sets the level of all targets that begin with its own, and may be
bound to records that have certain fields. Of the directives that speak about
a record the most specific one decides, and a record about which none speaks
is not written.
-/

namespace Balance.Log

/-- Up to which level records are written, as a number that grows with detail:
0 writes none and 5 writes all. -/
abbrev Detail := Nat

namespace Detail

def all : Detail := 5

def errors : Detail := 1

def names : List (String × Detail) :=
  [("off", 0), ("error", 1), ("warn", 2), ("info", 3), ("debug", 4), ("trace", 5)]

/-- A number up to 5 or the name of a level in any case. -/
def ofText? (text : String) : Option Detail :=
  let digits := if text.startsWith "+" then (text.drop 1).toString else text
  if !digits.isEmpty && digits.toList.all Char.isDigit then
    digits.toNat?.filter (· ≤ all)
  else
    names.lookup (text.map Char.toLower)

def admits (detail : Detail) (level : Level) : Bool := 6 - level.severity ≤ detail

end Detail

structure Directive where
  target : Option String := none
  fields : List String := []
  detail : Detail
deriving Repr, DecidableEq

namespace Directive

def concerns (directive : Directive) (record : Record) : Bool :=
  directive.target.all (fun target => target.toList.isPrefixOf record.target.toList) &&
    directive.fields.all fun name => (record.fields.lookup name).isSome || name = "message"

/-- A longer target is more specific than a shorter one, and any target more
than none; then the number of fields counts. -/
def rank (directive : Directive) : Nat × Nat :=
  (directive.target.elim 0 (·.utf8ByteSize + 1), directive.fields.length)

def isMoreSpecific (one other : Directive) : Bool :=
  other.rank.1 < one.rank.1 || (other.rank.1 = one.rank.1 && other.rank.2 < one.rank.2)

def isStart (c : Char) : Bool :=
  c.isAlphanum || c = '-' || c = ':' || c = '_' || '\x7f' < c

/-- What is read of a directive. A directive that is bound to spans of work or
to values of fields never concerns a record. -/
inductive Reading
  | bound
  | directive (directive : Directive)
deriving Repr, DecidableEq

def detail? : List Char → Option Detail
  | [] => some Detail.all
  | '=' :: level => if level.isEmpty then some Detail.all else Detail.ofText? (String.ofList level)
  | _ => none

def brackets? (cs : List Char) : Option (List Char × List (List Char) × List Char) :=
  let isEnd (c : Char) : Bool := c = ']' || c = '\x7b'
  let span := cs.takeWhile (!isEnd ·)
  match cs.dropWhile (!isEnd ·) with
  | ']' :: rest => some (span, [], rest)
  | '\x7b' :: rest =>
    let fields := (rest.takeWhile (· ≠ '\x7d')).splitOn ','
    match rest.dropWhile (· ≠ '\x7d') with
    | _ :: ']' :: rest => if fields.any List.isEmpty then none else some (span, fields, rest)
    | _ => none
  | _ => none

def ofText? (text : String) : Option Reading :=
  let cs := text.toList
  let isEnd (c : Char) : Bool := c = '=' || c = '['
  let target := cs.takeWhile (!isEnd ·)
  let target? := if target.isEmpty then none else some (String.ofList target)
  if !cs.head?.any (fun c => c = '[' || isStart c) then none
  else
    match cs.dropWhile (!isEnd ·) with
    | [] =>
      match Detail.ofText? text with
      | some detail => some (.directive { detail })
      | none => some (.directive { target := target?, detail := Detail.all })
    | '[' :: rest => do
      let (span, fields, rest) ← brackets? rest
      let detail ← detail? rest
      if !span.isEmpty || fields.any (·.contains '=') then
        return .bound
      else
        return .directive { target := target?, fields := fields.map String.ofList, detail }
    | rest => do
      return .directive { target := target?, detail := ← detail? rest }

end Directive

abbrev Filter := List Directive

namespace Filter

def readings (text : String) : List (Option Directive.Reading) :=
  (((text.toList.splitOn ',').filter (!·.isEmpty)).map String.ofList).map Directive.ofText?

/-- Without any directive, errors are written. -/
def ofReadings (readings : List Directive.Reading) : Filter :=
  if readings.isEmpty then [{ detail := Detail.errors }]
  else readings.filterMap fun
    | .directive directive => some directive
    | .bound => none

def ofText? (text : String) : Option Filter :=
  ofReadings <$> (readings text).mapM id

/-- The filter for a configured level; directives that cannot be read are
passed over. -/
def ofLevel (level : String) : Filter :=
  ofReadings ((readings ("url_balancer=" ++ level)).filterMap id)

/-- A filter given from outside wins over the configured level, unless it
cannot be read. -/
def choose (given : Option String) (level : String) : Filter :=
  (given.bind ofText?).getD (ofLevel level)

/-- The directive that decides about a record. Of two that are equally specific
the later one wins. -/
def deciding? (filter : Filter) (record : Record) : Option Directive :=
  (filter.filter (·.concerns record)).foldl (fun best directive =>
    if best.any (·.isMoreSpecific directive) then best else some directive) none

def admits (filter : Filter) (record : Record) : Bool :=
  (filter.deciding? record).any (·.detail.admits record.level)

end Filter

end Balance.Log
