/-!
Options of a command line. An option is written with its long name or its
letter, and its value is attached or the next argument; a value of its own
may not look like an option. Arguments are read from left to right, and the
first that is wrong, or that asks for help, ends the reading.
-/

namespace Balance.CommandLine

structure Flag where
  long : String
  short : Option Char := none
  repeatable : Bool := false
  accepts : String → Bool := fun _ => true

inductive Topic
  | program
  | check
  | simulate
  | watch
  | help
deriving Repr, DecidableEq

inductive Stop
  | misuse
  | help (topic : Topic)
deriving Repr, DecidableEq

inductive Spelling
  | long (name : String)
  | short (letter : Char)
deriving Repr, DecidableEq

namespace Spelling

def names (spelling : Spelling) (flag : Flag) : Bool :=
  match spelling with
  | long name => name = flag.long
  | short letter => flag.short = some letter

end Spelling

/-- An argument as an option with the value attached to it. A single hyphen is
an ordinary argument. -/
def option? (argument : String) : Option (Spelling × Option String) :=
  match argument.toList with
  | '-' :: '-' :: name =>
    let value := match name.dropWhile (· ≠ '=') with
      | [] => none
      | _ :: value => some (String.ofList value)
    some (.long (String.ofList (name.takeWhile (· ≠ '='))), value)
  | '-' :: letter :: rest =>
    let value := match rest with
      | [] => none
      | '=' :: value => some (String.ofList value)
      | value => some (String.ofList value)
    some (.short letter, value)
  | _ => none

abbrev Values := List (String × String)

namespace Values

def last? (values : Values) (name : String) : Option String := values.reverse.lookup name

def all (values : Values) (name : String) : List String :=
  (values.filter (·.1 = name)).map Prod.snd

end Values

structure Reading where
  values : Values
  rest : List String

/-- Note the value of an option. Only some options may be given twice. -/
def note (values : Values) (flag : Flag) (value : String) : Except Stop Values :=
  if !flag.accepts value || (!flag.repeatable && (values.lookup flag.long).isSome) then
    .error .misuse
  else
    .ok (values ++ [(flag.long, value)])

/-- Read the options in front. `waiting` is the option whose value comes next. -/
def readOptions (topic : Topic) (flags : List Flag) (values : Values) (waiting : Option Flag) :
    List String → Except Stop Reading
  | [] => if waiting.isSome then .error .misuse else .ok ⟨values, []⟩
  | argument :: arguments =>
    match waiting, option? argument with
    | some _, some _ => .error .misuse
    | some flag, none => do
      readOptions topic flags (← note values flag argument) none arguments
    | none, none => .ok ⟨values, argument :: arguments⟩
    | none, some (spelling, value) =>
      if argument = "--" then
        if arguments.isEmpty then .ok ⟨values, []⟩ else .error .misuse
      else
        match flags.find? spelling.names with
        | some flag =>
          match value with
          | some value => do readOptions topic flags (← note values flag value) none arguments
          | none => readOptions topic flags values (some flag) arguments
        | none =>
          if spelling = .short 'h' ∨ (spelling = .long "help" ∧ value = none) then
            .error (.help topic)
          else
            .error .misuse

end Balance.CommandLine
