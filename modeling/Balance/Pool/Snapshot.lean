import Balance.Pool.Basic

/-!
A view of a pool at one reading of the clock: the distinct active URLs, the
excluded ones with the time that is left, and those on probation, each in the
pool's own order.
-/

namespace Balance

structure ExcludedUrl where
  url : Url
  remainingMillis : Option Nat
deriving Repr, DecidableEq

structure Snapshot where
  active : List Url
  excluded : List ExcludedUrl
  probation : List Url
deriving Repr, DecidableEq

namespace Exclusion

def view (exclusion : Exclusion) (now : Instant) : ExcludedUrl :=
  ⟨exclusion.url, exclusion.expiry.map (Instant.remainingMillis · now)⟩

end Exclusion

def Pool.snapshotAt (pool : Pool) (now : Instant) : Snapshot where
  active := Url.distinct pool.active
  excluded := pool.excluded.map (·.view now)
  probation := pool.probation

end Balance
