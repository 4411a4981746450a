import Balance.Algorithm
import Balance.Clock

/-!
What can be configured: the URLs to balance between and how, the policy for
failures, and the log output. Every field has a default.
-/

namespace Balance

structure FailoverConfig where
  active : Bool := false
  timeoutMillis : UInt64 := 60000
  failStatus : List UInt16 := []
  retryStatus : List UInt16 := []
  failMaxAttempt : UInt32 := 3
  retryMaxAttempt : UInt32 := 2
deriving Repr, DecidableEq

namespace FailoverConfig

def timeout (config : FailoverConfig) : Duration :=
  Duration.ofMillis config.timeoutMillis.toNat

end FailoverConfig

structure BalancingConfig where
  active : Bool := false
  urls : List String := []
  weights : Option (List UInt32) := none
  algorithm : Option Algorithm := none
  failover : Option FailoverConfig := none
deriving Repr, DecidableEq

namespace BalancingConfig

def isFailover (config : BalancingConfig) : Bool :=
  config.active && config.failover.any FailoverConfig.active

end BalancingConfig

structure LoggingConfig where
  level : String := "info"
  json : Bool := false
deriving Repr, DecidableEq

structure Config where
  balancing : BalancingConfig := {}
  logging : LoggingConfig := {}
deriving Repr, DecidableEq

end Balance
