import Balance.Algorithm
import Balance.ClientHash
import Balance.Operation

/-!
How a slot of the candidate sequence is picked. Round robin walks through the
sequence with a counter of its own, a 64-bit word that wraps around. A random
pick spends one random number, and the client hash sends a client id to one
slot, or picks at random where there is no client id. An empty sequence has no
slot and moves nothing.
-/

namespace Balance

inductive Strategy
  | roundRobin (counter : UInt64)
  | random
  | clientHash
deriving Repr, DecidableEq

namespace Strategy

def ofAlgorithm : Algorithm → Strategy
  | .roundRobin | .weightedRoundRobin => .roundRobin 0
  | .random | .weightedRandom => .random
  | .ipHash => .clientHash

def name : Strategy → String
  | roundRobin _ => "round-robin"
  | random => "random"
  | clientHash => "ip-hash"

def slotOf (client : String) (length : Nat) : Nat :=
  (ClientHash.ofText client).toNat % length

def pickRandom (length : Nat) : Operation Strategy (Option Nat) :=
  some <$> Operation.roll length

def pick (length : Nat) (client : Option String) : Operation Strategy (Option Nat) := do
  if length = 0 then
    return none
  else
    match ← Operation.state with
    | roundRobin counter =>
      Operation.put (roundRobin (counter + 1))
      return some (counter.toNat % length)
    | random => pickRandom length
    | clientHash =>
      match client with
      | some client => return some (slotOf client length)
      | none => pickRandom length

end Strategy

end Balance
