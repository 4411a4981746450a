import Balance.Pool.Operations
import Balance.Weight

/-!
Where a selection takes its candidates from: a fixed sequence, or a pool that
tracks failures. Failures are tracked when that is asked for and there are two
distinct URLs to move between.
-/

namespace Balance

inductive Source
  | fixed (urls : List Url)
  | failover (pool : Pool)
deriving Repr, DecidableEq

namespace Source

def build (urls : List Url) (weights : Option (List UInt32)) (failover : Bool) : Source :=
  let expanded := Weight.expand urls weights
  if failover && 2 ≤ Weight.distinctCount urls then
    .failover (Pool.ofBaseline expanded)
  else
    .fixed expanded

def pool? : Source → Option Pool
  | fixed _ => none
  | failover pool => some pool

def isFailover (source : Source) : Bool := source.pool?.isSome

/-- Run a pool operation; a fixed sequence answers `absent`. -/
def onPool {α : Type} (absent : α) (operation : Operation Pool α) : Operation Source α := do
  match ← Operation.state with
  | fixed _ => return absent
  | failover pool => Operation.on pool failover operation

def candidates : Operation Source (List Url) := do
  match ← Operation.state with
  | fixed urls => return urls
  | failover pool => Operation.on pool failover Pool.candidates

/-- A fixed sequence hands out every URL. -/
def take (url : Url) : Operation Source Take := onPool .active (Pool.take url)

def snapshot : Operation Source (Option Snapshot) :=
  onPool none (some <$> Pool.snapshot)

end Source

end Balance
