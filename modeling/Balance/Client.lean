import Balance.Balancer
import Balance.Call.Policy

/-!
A client serves one configuration. Its balancer is built on first use, at
most once; where balancing is off, every selection answers the caller's
default URL. Outcomes of calls go to the pool of the balancer if it tracks
failures, and the policy of the configuration sorts call errors.
-/

namespace Balance

inductive Stage
  | pending
  | off
  | ready (balancer : Balancer)
deriving Repr, DecidableEq

structure Client where
  config : BalancingConfig
  stage : Stage := .pending
deriving Repr, DecidableEq

namespace Client

def balancerFor (config : BalancingConfig) : Option Balancer :=
  if config.active && !config.urls.isEmpty then
    some (.create config.algorithm config.urls config.weights config.isFailover)
  else
    none

def constructionEvents (config : BalancingConfig) : List Event :=
  match balancerFor config with
  | none => [.balancingOff config.active]
  | some balancer =>
    let algorithm := config.algorithm.getD .roundRobin
    let ignored := config.weights.isSome && !algorithm.isWeighted
    (if ignored then [.weightsIgnored algorithm] else []) ++ balancer.creation ++
      [.balancerReady config.urls.length balancer.algorithm balancer.hasFailover]

def stageFor (config : BalancingConfig) : Stage :=
  match balancerFor config with
  | none => .off
  | some balancer => .ready balancer

def init : Operation Client Unit := do
  let client ← Operation.state
  match client.stage with
  | .pending =>
    Operation.put { client with stage := stageFor client.config }
    Operation.reportAll (constructionEvents client.config)
  | _ => return ()

/-- Run an operation on the balancer; without one the answer is `absent`. -/
def onBalancer {α : Type} (absent : α) (operation : Operation Balancer α) :
    Operation Client α := do
  init
  let client ← Operation.state
  match client.stage with
  | .ready balancer =>
    Operation.on balancer (fun balancer => { client with stage := .ready balancer }) operation
  | _ => return absent

def url (default : Url) (client : Option String) : Operation Client Url := do
  match ← onBalancer none (some <$> Balancer.select client) with
  | none => return default
  | some (.ok url) => return url
  | some (.error error) =>
    Operation.report (.fellBack error default)
    return default

def hasFailover : Operation Client Bool :=
  onBalancer false (Balancer.hasFailover <$> Operation.state)

def algorithm : Operation Client (Option Algorithm) :=
  onBalancer none (Balancer.algorithm <$> Operation.state)

def snapshot : Operation Client (Option Snapshot) := onBalancer none Balancer.snapshot

def policy? (client : Client) : Option FailoverConfig := client.config.failover

/-- Whether an error fails the URL; never without a policy. -/
def isFail (client : Client) (error : CallError) : Bool := client.policy?.any (·.isFail error)

def isRetry (client : Client) (error : CallError) : Bool := client.policy?.any (·.isRetry error)

def classify (client : Client) (error : CallError) : Verdict :=
  client.policy?.elim .propagate (·.classify error)

/-- Report a failed call. The configured URL behind `called` is excluded and
answered; where no failure is tracked the report is refused. -/
def fail (called : Url) (error : CallError) :
    Operation Client (Except BalancerError (Option Url)) := do
  if !(← hasFailover) then
    return .error .failoverUnavailable
  else
    match (← Operation.state).policy? with
    | none => return .error .failoverUnavailable
    | some policy =>
      match ← onBalancer (.error .failoverUnavailable)
          (Balancer.fail called policy.timeout) with
      | .error refusal => return .error refusal
      | .ok resolved =>
        Operation.report (.callFailed called resolved policy.timeout error)
        return .ok resolved

def confirm (called : Url) : Operation Client Bool := do
  if ← hasFailover then
    return (← onBalancer (.ok false) (Balancer.confirm called)).toOption.getD false
  else
    return false

end Client

end Balance
