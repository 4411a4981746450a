import Balance.CommandLine.Options
import Balance.Simulation

/-!
The commands of the program and how they are written. The path of the
configuration stands before the command, the options of a command behind it.
-/

namespace Balance.CommandLine

inductive Command
  | check
  | simulate (simulation : Simulation)
  | watch
deriving Repr, DecidableEq

structure Invocation where
  path : String
  command : Command
deriving Repr, DecidableEq

namespace Invocation

def defaultPath : String := "url-balancer.toml"

/-- A number that fits into a 64-bit word, perhaps with a plus in front. -/
def count? (text : String) : Option Nat :=
  let digits := match text.toList with
    | '+' :: digits => digits
    | digits => digits
  if digits ≠ [] ∧ digits.all Char.isDigit then
    let number := digits.foldl (fun number c => 10 * number + (c.toNat - '0'.toNat)) 0
    if number < UInt64.size then some number else none
  else
    none

def programFlags : List Flag :=
  [{ long := "config", short := some 'c', accepts := (!·.isEmpty) }]

def simulateFlags : List Flag :=
  [{ long := "requests", short := some 'n', accepts := fun text => (count? text).isSome },
    { long := "client-id" },
    { long := "fail", repeatable := true },
    { long := "default-url" }]

def simulation (values : Values) : Simulation :=
  let standard : Simulation := {}
  { requests := ((values.last? "requests").bind count?).getD standard.requests
    client := values.last? "client-id"
    failing := values.all "fail"
    default := (values.last? "default-url").getD standard.default }

/-- Read the options of a command, behind which nothing may stand. -/
def commandOptions (topic : Topic) (flags : List Flag) (arguments : List String) :
    Except Stop Values := do
  let reading ← readOptions topic flags [] none arguments
  if reading.rest.isEmpty then return reading.values else throw .misuse

def helpTopic : List String → Stop
  | [] => .help .program
  | ["check"] => .help .check
  | ["simulate"] => .help .simulate
  | ["watch"] => .help .watch
  | ["help"] => .help .help
  | _ => .misuse

def commandOf : List String → Except Stop Command
  | "check" :: arguments => do
    let _ ← commandOptions .check [] arguments
    return .check
  | "simulate" :: arguments => do
    return .simulate (simulation (← commandOptions .simulate simulateFlags arguments))
  | "watch" :: arguments => do
    let _ ← commandOptions .watch [] arguments
    return .watch
  | "help" :: arguments => throw (helpTopic arguments)
  | _ => throw .misuse

def read (arguments : List String) : Except Stop Invocation := do
  let reading ← readOptions .program programFlags [] none arguments
  let command ← commandOf reading.rest
  return ⟨(reading.values.last? "config").getD defaultPath, command⟩

end Invocation

end Balance.CommandLine
