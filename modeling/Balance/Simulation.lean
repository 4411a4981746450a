import Balance.Client
import Balance.Tally

/-!
A simulation sends a number of requests through one client, one after the
other. The calls to some URLs fail with a 503 and all others succeed; each
outcome is reported to the client. The tally counts which URLs were handed
out.
-/

namespace Balance

structure Simulation where
  requests : Nat := 10
  client : Option String := none
  failing : List Url := []
  default : Url := "http://localhost"
deriving Repr, DecidableEq

namespace Simulation

def fails (simulation : Simulation) (url : Url) : Bool :=
  simulation.failing.any (Url.covers · url)

def settle (simulation : Simulation) (url : Url) : Operation Client Unit := do
  if simulation.fails url then
    match ← Client.fail url (.status FailoverConfig.serviceUnavailable) with
    | .ok _ => return ()
    | .error refusal => Operation.report (.failureNotRecorded url refusal)
  else
    let _ ← Client.confirm url

/-- One request; answers the URL that it was sent to. -/
def request (simulation : Simulation) : Operation Client Url := do
  let url ← Client.url simulation.default simulation.client
  simulation.settle url
  return url

def run (simulation : Simulation) : (requests : Nat) → Tally → Operation Client Tally
  | 0, tally => return tally
  | requests + 1, tally => do
    let url ← simulation.request
    simulation.run requests (tally.increment url)

structure Report where
  requests : Nat
  selections : Tally
  pool : Option Snapshot
deriving Repr, DecidableEq

def report (simulation : Simulation) : Operation Client Report := do
  let selections ← simulation.run simulation.requests []
  return ⟨simulation.requests, selections, ← Client.snapshot⟩

end Simulation

end Balance
