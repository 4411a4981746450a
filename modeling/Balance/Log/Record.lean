import Balance.Event
import Balance.Text.Quoted

/-!
Log records: a level, the part of the library that speaks, a message and named
values. Most events have a record; those that only move a metric have none.
-/

namespace Balance.Log

inductive Level
  | trace
  | debug
  | info
  | warn
  | error
deriving Repr, DecidableEq

namespace Level

def name : Level → String
  | trace => "TRACE"
  | debug => "DEBUG"
  | info => "INFO"
  | warn => "WARN"
  | error => "ERROR"

/-- Higher is more severe. -/
def severity : Level → Nat
  | trace => 1
  | debug => 2
  | info => 3
  | warn => 4
  | error => 5

end Level

inductive Value
  | text (value : String)
  | shown (value : String)
  | number (value : Nat)
  | flag (value : Bool)
deriving Repr, DecidableEq

namespace Value

def plain : Value → String
  | text value | shown value => value
  | number value => toString value
  | flag value => if value then "true" else "false"

end Value

structure Record where
  level : Level
  target : String
  message : String
  fields : List (String × Value) := []
deriving Repr, DecidableEq

def optional (shown? : Option String) : String :=
  match shown? with
  | none => "None"
  | some shown => "Some(" ++ shown ++ ")"

namespace Target

def program : String := "url_balancer"

def pool : String := "url_balancer::load_balancer::failover"

def balancer : String := "url_balancer::load_balancer::balancer"

def client : String := "url_balancer::load_balancer::client"

def retries : String := "url_balancer::resilience::retries"

def watcher : String := "url_balancer::config::watcher"

end Target

open Level Value in
def ofEvent : Event → Option Record
  | .excluded url timeout => some
    { level := warn, target := Target.pool, message := "URL excluded after failure"
      fields := [("url", shown url), ("timeout_ms", number timeout.millis64)] }
  | .poolReset => some
    { level := warn, target := Target.pool, message := "All URLs excluded, resetting pool" }
  | .canary url => some
    { level := info, target := Target.pool, message := "Expired URL handed out as canary"
      fields := [("url", shown url)] }
  | .readmitted url => some
    { level := info, target := Target.pool
      message := "URL readmitted after successful canary call"
      fields := [("url", shown url)] }
  | .outOfRotation _ => none
  | .balancerCreated strategy candidates failover => some
    { level := debug, target := Target.balancer, message := "Load balancer created"
      fields := [("strategy", text strategy), ("candidates", number candidates),
        ("failover", flag failover)] }
  | .withheld url => some
    { level := trace, target := Target.balancer
      message := "Selected URL withheld, selecting again"
      fields := [("url", shown url)] }
  | .selected url => some
    { level := debug, target := Target.balancer, message := "URL selected"
      fields := [("url", shown url)] }
  | .failureUntracked url => some
    { level := warn, target := Target.balancer
      message := "fail() called on a load balancer without failover"
      fields := [("url", shown url)] }
  | .successUntracked url => some
    { level := warn, target := Target.balancer
      message := "ok() called on a load balancer without failover"
      fields := [("url", shown url)] }
  | .balancingOff active => some
    { level := debug, target := Target.client, message := "Load balancing disabled"
      fields := [("active", flag active)] }
  | .weightsIgnored algorithm => some
    { level := warn, target := Target.client
      message := "Weights are ignored by non-weighted algorithms"
      fields := [("algorithm", shown algorithm.name)] }
  | .balancerReady urls algorithm failover => some
    { level := info, target := Target.client, message := "Load balancer initialized"
      fields := [("urls", number urls),
        ("algorithm", shown (optional (algorithm.map Algorithm.variant))),
        ("failover", flag failover)] }
  | .fellBack cause default => some
    { level := warn, target := Target.client, message := "Falling back to default URL"
      fields := [("error", shown cause.message), ("default", shown default)] }
  | .callFailed url resolved timeout cause => some
    { level := warn, target := Target.client, message := "Call failed"
      fields := [("url", shown url), ("resolved", shown (optional (resolved.map Text.quoted))),
        ("timeout_ms", number timeout.millis64), ("error", shown cause.message)] }
  | .reloaded => some
    { level := info, target := Target.client
      message := "Load balancer configuration reloaded" }
  | .failBudgetSpent url attempts => some
    { level := warn, target := Target.retries, message := "Fail budget exhausted"
      fields := [("url", shown url), ("attempts", number attempts)] }
  | .retryBudgetSpent url attempts => some
    { level := warn, target := Target.retries, message := "Retry budget exhausted"
      fields := [("url", shown url), ("attempts", number attempts)] }
  | .retrying url attempt cause => some
    { level := debug, target := Target.retries, message := "Retrying on another URL"
      fields := [("url", shown url), ("attempt", number attempt),
        ("error", shown cause.message)] }
  | .configLoaded path urls => some
    { level := info, target := Target.program, message := "Configuration loaded"
      fields := [("path", shown path), ("urls", number urls)] }
  | .failureNotRecorded url cause => some
    { level := debug, target := Target.program, message := "Failure not recorded"
      fields := [("url", shown url), ("error", shown cause.message)] }
  | .changeDetected path => some
    { level := info, target := Target.watcher
      message := "Config file change detected, reloading"
      fields := [("path", shown (Text.quoted path))] }
  | .changeRefused reason => some
    { level := error, target := Target.watcher
      message := "Failed to reload config, keeping current configuration"
      fields := [("error", shown reason)] }
  | .watchStarted path => some
    { level := info, target := Target.watcher, message := "Config watcher started"
      fields := [("path", shown (Text.quoted path))] }
  | .applyingConfig urls => some
    { level := info, target := Target.program, message := "Applying new configuration"
      fields := [("urls", number urls)] }

end Balance.Log
