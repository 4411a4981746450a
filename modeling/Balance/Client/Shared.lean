import Balance.Client

/-!
A shared client serves the newest configuration. A new configuration brings a
whole new client, so failures are forgotten; whoever holds an earlier client
goes on using that one.
-/

namespace Balance

structure SharedClient where
  earlier : List Client := []
  current : Client
deriving Repr, DecidableEq

namespace SharedClient

def ofConfig (config : BalancingConfig) : SharedClient := { current := { config } }

/-- The number by which the current client can be held. -/
def generation (shared : SharedClient) : Nat := shared.earlier.length

def replace (config : BalancingConfig) : Operation SharedClient Unit := do
  let shared ← Operation.state
  let install (client : Client) : SharedClient :=
    { earlier := shared.earlier ++ [shared.current], current := client }
  Operation.on { config } install Client.init
  Operation.report .reloaded

/-- Run an operation on the client of a generation that was held. -/
def onGeneration {α : Type} (generation : Nat) (operation : Operation Client α) :
    Operation SharedClient (Option α) := do
  let shared ← Operation.state
  match shared.earlier[generation]? with
  | some client =>
    let embed (client : Client) := { shared with earlier := shared.earlier.set generation client }
    some <$> Operation.on client embed operation
  | none =>
    if generation = shared.generation then
      some <$> Operation.on shared.current (fun current => { shared with current }) operation
    else
      return none

end SharedClient

end Balance
