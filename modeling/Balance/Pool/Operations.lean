import Balance.Operation
import Balance.Pool.Snapshot

/-!
The operations of a pool. `candidates`, `confirm` and `take` look at the
`degraded` flag first and go on to their guarded form only when it is set.
Each of them reads the clock at most once: `candidates` when the pool is not
clean, `fail` once the URL is resolved, `take` unless the URL is on
probation, `snapshot` always and `confirm` never.
-/

namespace Balance.Pool

def publish (pool : Pool) : Operation Pool Unit := do
  Operation.put pool.flagged
  Operation.report (.outOfRotation pool.outOfRotation)

def candidatesGuarded : Operation Pool (List Url) := do
  let pool ← Operation.state
  if pool.isClean then
    return pool.baseline
  else
    return pool.offered (← Operation.now)

def candidates : Operation Pool (List Url) := do
  let pool ← Operation.state
  if pool.degraded then candidatesGuarded else return pool.baseline

/-- Come back to the baseline when no URL is active any more. -/
def settle (pool : Pool) : Operation Pool Unit := do
  if pool.active.isEmpty then
    Operation.report .poolReset
    publish pool.reset
  else
    publish pool

def fail (called : Url) (timeout : Duration) : Operation Pool (Option Url) := do
  let pool ← Operation.state
  match pool.resolve called with
  | none => return none
  | some url =>
    let start ← Operation.now
    Operation.report (.excluded url timeout)
    settle (pool.exclude url (Instant.deadline start timeout))
    return some url

def confirmGuarded (called : Url) : Operation Pool Bool := do
  let pool ← Operation.state
  match pool.resolve called with
  | none => return false
  | some url =>
    if url ∈ pool.probation then
      Operation.report (.readmitted url)
      publish (pool.readmit url)
      return true
    else
      return false

/-- A call to `called` succeeded; answers whether this ended a probation. -/
def confirm (called : Url) : Operation Pool Bool := do
  let pool ← Operation.state
  if pool.degraded then confirmGuarded called else return false

def takeGuarded (url : Url) : Operation Pool Take := do
  let pool ← Operation.state
  if url ∈ pool.probation then
    return .withheld
  else
    let reading ← Operation.now
    match pool.exclusion? url with
    | none => return .active
    | some exclusion =>
      if exclusion.hasExpired reading then
        Operation.report (.canary url)
        publish (pool.promote url)
        return .canary
      else
        return .withheld

def take (url : Url) : Operation Pool Take := do
  let pool ← Operation.state
  if pool.degraded then takeGuarded url else return .active

def snapshot : Operation Pool Snapshot := do
  let pool ← Operation.state
  return pool.snapshotAt (← Operation.now)

end Balance.Pool
