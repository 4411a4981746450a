import Balance.Source
import Balance.Strategy

/-!
A balancer binds one strategy to one source of candidates. A selection picks
and takes until a pick is not withheld, at most once per candidate; should
every pick be withheld, the first candidate that can be taken is chosen.
-/

namespace Balance

structure Balancer where
  source : Source
  strategy : Option Strategy
  algorithm : Option Algorithm
deriving Repr, DecidableEq

namespace Balancer

/-- With fewer than two distinct URLs no strategy is needed and failures are
not tracked. Weights only apply to weighted algorithms. -/
def create (algorithm : Option Algorithm) (urls : List Url) (weights : Option (List UInt32))
    (failover : Bool) : Balancer :=
  if Weight.distinctCount urls < 2 then
    ⟨.build urls none false, none, none⟩
  else
    let algorithm := algorithm.getD .roundRobin
    let weights := if algorithm.isWeighted then weights else none
    ⟨.build urls weights failover, some (.ofAlgorithm algorithm), some algorithm⟩

theorem strategy_create {urls : List Url} (algorithm : Option Algorithm)
    (weights : Option (List UInt32)) (failover : Bool) (several : 2 ≤ Weight.distinctCount urls) :
    (create algorithm urls weights failover).strategy =
      some (.ofAlgorithm (algorithm.getD .roundRobin)) := by
  rw [create, if_neg (Nat.not_lt.mpr several)]

def initialCandidates (balancer : Balancer) : List Url :=
  match balancer.source with
  | .fixed urls => urls
  | .failover pool => pool.baseline

/-- What is reported of a new balancer: nothing where there is no strategy. -/
def creation (balancer : Balancer) : List Event :=
  balancer.strategy.toList.map fun strategy =>
    .balancerCreated strategy.name balancer.initialCandidates.length balancer.source.isFailover

def hasFailover (balancer : Balancer) : Bool := balancer.source.isFailover

def onSource {α : Type} (operation : Operation Source α) : Operation Balancer α := do
  let balancer ← Operation.state
  Operation.on balancer.source (fun source => { balancer with source }) operation

def candidates : Operation Balancer (List Url) := onSource Source.candidates

def take (url : Url) : Operation Balancer Take := onSource (Source.take url)

def snapshot : Operation Balancer (Option Snapshot) := onSource Source.snapshot

/-- The slot that the strategy picks; without one the first slot. -/
def pickSlot (length : Nat) (client : Option String) : Operation Balancer (Option Nat) := do
  let balancer ← Operation.state
  match balancer.strategy with
  | none => return if length = 0 then none else some 0
  | some strategy =>
    Operation.on strategy (fun strategy => { balancer with strategy := some strategy })
      (Strategy.pick length client)

def choose (urls : List Url) (client : Option String) : Operation Balancer (Option Url) := do
  return (← pickSlot urls.length client).bind fun slot => urls[slot]?

/-- Pick and take up to `attempts` times. The inner answer is missing when
every pick was withheld, the outer one when nothing could be picked. -/
def tryPicks (client : Option String) :
    (attempts : Nat) → List Url → Operation Balancer (Option (Option Url))
  | 0, _ => return some none
  | attempts + 1, urls => do
    match ← choose urls client with
    | none => return none
    | some url =>
      match ← take url with
      | .withheld =>
        Operation.report (.withheld url)
        tryPicks client attempts (← candidates)
      | _ => return some (some url)

def takeFirst : List Url → Operation Balancer (Option Url)
  | [] => return none
  | url :: urls => do
    match ← take url with
    | .withheld => takeFirst urls
    | _ => return some url

def chooseTaken (client : Option String) : Operation Balancer (Option Url) := do
  let urls ← candidates
  match ← tryPicks client (max urls.length 1) urls with
  | none => return none
  | some (some url) => return some url
  | some none => takeFirst (← candidates)

def select (client : Option String) : Operation Balancer (Except BalancerError Url) := do
  match ← chooseTaken client with
  | none => return .error .noUrlAvailable
  | some url =>
    Operation.report (.selected url)
    return .ok url

def fail (called : Url) (timeout : Duration) :
    Operation Balancer (Except BalancerError (Option Url)) := do
  if (← Operation.state).hasFailover then
    onSource (Source.onPool (.ok none) (.ok <$> Pool.fail called timeout))
  else
    Operation.report (.failureUntracked called)
    return .error .failoverUnavailable

/-- A call to `called` succeeded; answers whether this ended a probation. -/
def confirm (called : Url) : Operation Balancer (Except BalancerError Bool) := do
  if (← Operation.state).hasFailover then
    onSource (Source.onPool (.ok false) (.ok <$> Pool.confirm called))
  else
    Operation.report (.successUntracked called)
    return .error .failoverUnavailable

end Balancer

end Balance
