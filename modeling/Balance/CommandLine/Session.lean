import Balance.Client.Following
import Balance.CommandLine.Help
import Balance.CommandLine.Invocation
import Balance.CommandLine.Report
import Balance.Log

/-!
One run of the program. The configuration is loaded before any command; then
the log lines of the command come before the document that it prints. A
command line that cannot be read ends with code 2, a configuration that is not
accepted with code 1.
-/

namespace Balance.CommandLine

structure Followed where
  path : String
  config : Config
  given : Option String
deriving Repr, DecidableEq

structure Outcome where
  exit : Nat
  output : List String := []
  errors : List String := []
  followed : Option Followed := none
deriving Repr, DecidableEq

namespace Outcome

def ofStop : Stop → Outcome
  | .misuse => { exit := 2, errors := Topic.program.lines }
  | .help topic => { exit := 0, output := topic.lines }

def ofRefusal (error : ConfigError) : Outcome :=
  { exit := 1, errors := ["Error: " ++ error.shown] }

end Outcome

/-- Log lines under a configuration; `given` is a filter from outside. -/
def logLines (config : LoggingConfig) (given : Option String) (events : List Event) :
    List String :=
  Log.lines (Log.Filter.choose given config.level) config.json events

/-- What a command prints besides the log; following changes prints nothing. -/
def Command.document : Command → Operation Client (Option Json)
  | .check => (some ∘ Setup.toJson) <$> Setup.ofClient
  | .simulate simulation => (some ∘ simulationToJson) <$> simulation.report
  | .watch => do
    Client.init
    return none

def Invocation.perform (invocation : Invocation) (config : Config) (given : Option String)
    (ambient : Ambient) : Outcome :=
  let done := invocation.command.document { config := config.balancing } ambient
  let loaded := Event.configLoaded invocation.path config.balancing.urls.length
  { exit := 0
    output := logLines config.logging given (loaded :: done.events) ++
      (done.answer.map Json.pretty).toList
    followed :=
      if invocation.command = .watch then some ⟨invocation.path, config, given⟩ else none }

/-- A run with these arguments. `read` fetches the content of a file. -/
def session {m : Type → Type} [Monad m] (arguments : List String)
    (read : String → m (Except FileError ByteArray)) (given : Option String)
    (ambient : Ambient) : m Outcome := do
  match Invocation.read arguments with
  | .error stop => return .ofStop stop
  | .ok invocation =>
    match Config.load (← read invocation.path) with
    | .error error => return .ofRefusal error
    | .ok config => return invocation.perform config given ambient

namespace Followed

def start (followed : Followed) : SharedClient :=
  let config := followed.config.balancing
  { current := { config, stage := Client.stageFor config } }

def lines (followed : Followed) (events : List Event) : List String :=
  logLines followed.config.logging followed.given events

end Followed

end Balance.CommandLine
