import Balance.Call.Error
import Balance.Algorithm
import Balance.Clock
import Balance.Url

/-!
What the library reports while it works. Log lines and metrics are both read
off these events: some have a log line, some a metric, several have both.
-/

namespace Balance

inductive BalancerError
  | noUrlAvailable
  | failoverUnavailable
deriving Repr, DecidableEq

namespace BalancerError

def name : BalancerError → String
  | noUrlAvailable => "NoUrlAvailable"
  | failoverUnavailable => "FailoverUnavailable"

def message : BalancerError → String
  | noUrlAvailable => "no URL available for selection"
  | failoverUnavailable => "failover is not enabled for this load balancer"

end BalancerError

inductive Event
  | excluded (url : Url) (timeout : Duration)
  | poolReset
  | canary (url : Url)
  | readmitted (url : Url)
  | outOfRotation (count : Nat)
  | balancerCreated (strategy : String) (candidates : Nat) (failover : Bool)
  | withheld (url : Url)
  | selected (url : Url)
  | failureUntracked (url : Url)
  | successUntracked (url : Url)
  | balancingOff (active : Bool)
  | weightsIgnored (algorithm : Algorithm)
  | balancerReady (urls : Nat) (algorithm : Option Algorithm) (failover : Bool)
  | fellBack (error : BalancerError) (default : Url)
  | callFailed (url : Url) (resolved : Option Url) (timeout : Duration) (error : CallError)
  | reloaded
  | failBudgetSpent (url : Url) (attempts : Nat)
  | retryBudgetSpent (url : Url) (attempts : Nat)
  | retrying (url : Url) (attempt : Nat) (error : CallError)
  | configLoaded (path : String) (urls : Nat)
  | failureNotRecorded (url : Url) (error : BalancerError)
  | changeDetected (path : String)
  | changeRefused (reason : String)
  | watchStarted (path : String)
  | applyingConfig (urls : Nat)
deriving Repr, DecidableEq

end Balance
