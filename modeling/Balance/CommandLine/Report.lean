import Balance.Simulation
import Balance.Text.Json

/-!
What the commands print: the effective setup, and the result of a simulation.
Both are JSON documents with their entries in the order of the names.
-/

namespace Balance.CommandLine

def texts (items : List String) : Json := .list (items.map .text)

def excludedToJson (excluded : ExcludedUrl) : Json :=
  .object [
    ("remaining_ms", .optional .number excluded.remainingMillis),
    ("url", .text excluded.url)]

def snapshotToJson (snapshot : Snapshot) : Json :=
  .object [
    ("active", texts snapshot.active),
    ("excluded", .list (snapshot.excluded.map excludedToJson)),
    ("probation", texts snapshot.probation)]

def simulationToJson (report : Simulation.Report) : Json :=
  .object [
    ("pool", .optional snapshotToJson report.pool),
    ("requests", .number report.requests),
    ("selections", .object (report.selections.map fun (url, count) => (url, .number count)))]

structure Setup where
  config : BalancingConfig
  algorithm : Option Algorithm
  failover : Bool
deriving Repr, DecidableEq

namespace Setup

def ofClient : Operation Client Setup := do
  Client.init
  let algorithm ← Client.algorithm
  return ⟨(← Operation.state).config, algorithm, ← Client.hasFailover⟩

def toJson (setup : Setup) : Json :=
  .object [
    ("active", .flag setup.config.active),
    ("algorithm", .optional (.text ∘ Algorithm.name) setup.algorithm),
    ("failover", .flag setup.failover),
    ("urls", texts setup.config.urls),
    ("weights", .optional (fun weights => .list (weights.map (.number ·.toNat)))
      setup.config.weights)]

end Setup

end Balance.CommandLine
