import Balance.Config
import Balance.Data

/-!
Reading a configuration from the value that a data format delivers. Every
field may be missing; a value of the wrong kind, a number that is out of range
and an unknown algorithm are refused.
-/

namespace Balance
open Data

def Algorithm.ofData? (dialect : Dialect) (data : Data) : Option Algorithm :=
  (data.name? dialect).bind Algorithm.ofName?

def uint16? (data : Data) : Option UInt16 := (data.natBelow? UInt16.size).map UInt16.ofNat

def uint32? (data : Data) : Option UInt32 := (data.natBelow? UInt32.size).map UInt32.ofNat

def uint64? (data : Data) : Option UInt64 := (data.natBelow? UInt64.size).map UInt64.ofNat

def FailoverConfig.ofData? (dialect : Dialect) (data : Data) : Option FailoverConfig := do
  let default : FailoverConfig := {}
  let fields ← data.fields? dialect
    ["active", "timeout_ms", "fail_status", "retry_status", "fail_max_attempt",
      "retry_max_attempt"]
  return {
    active := ← field fields "active" flag? default.active
    timeoutMillis := ← field fields "timeout_ms" uint64? default.timeoutMillis
    failStatus := ← field fields "fail_status" (list? uint16?) default.failStatus
    retryStatus := ← field fields "retry_status" (list? uint16?) default.retryStatus
    failMaxAttempt := ← field fields "fail_max_attempt" uint32? default.failMaxAttempt
    retryMaxAttempt := ← field fields "retry_max_attempt" uint32? default.retryMaxAttempt }

def BalancingConfig.ofData? (dialect : Dialect) (data : Data) : Option BalancingConfig := do
  let fields ← data.fields? dialect ["active", "urls", "weights", "algorithm", "failover"]
  return {
    active := ← field fields "active" flag? false
    urls := ← field fields "urls" (list? text?) []
    weights := ← field fields "weights" (optional (list? uint32?)) none
    algorithm := ← field fields "algorithm" (optional (Algorithm.ofData? dialect)) none
    failover := ← field fields "failover" (optional (FailoverConfig.ofData? dialect)) none }

def LoggingConfig.ofData? (dialect : Dialect) (data : Data) : Option LoggingConfig := do
  let default : LoggingConfig := {}
  let fields ← data.fields? dialect ["log_level", "json_logs"]
  return {
    level := ← field fields "log_level" text? default.level
    json := ← field fields "json_logs" flag? default.json }

def Config.ofData? (dialect : Dialect) (data : Data) : Option Config := do
  let fields ← data.fields? dialect ["load_balancer", "observability"]
  return {
    balancing := ← field fields "load_balancer" (BalancingConfig.ofData? dialect) {}
    logging := ← field fields "observability" (LoggingConfig.ofData? dialect) {} }

end Balance
