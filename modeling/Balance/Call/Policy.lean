import Balance.Call.Error
import Balance.Config

/-!
What to do with a failed call. A 503, a status of the fail list and an
unreachable URL fail the URL; a status of the retry list is tried elsewhere;
anything else goes back to the caller. Failing wins over retrying.
-/

namespace Balance

inductive Verdict
  | fail
  | retry
  | propagate
deriving Repr, DecidableEq

namespace FailoverConfig

def serviceUnavailable : UInt16 := 503

def isFail (policy : FailoverConfig) (error : CallError) : Bool :=
  match error.status? with
  | some code => code == serviceUnavailable || policy.failStatus.contains code
  | none => error.isUnreachable

def isRetry (policy : FailoverConfig) (error : CallError) : Bool :=
  error.status?.any policy.retryStatus.contains

def classify (policy : FailoverConfig) (error : CallError) : Verdict :=
  if policy.isFail error then .fail
  else if policy.isRetry error then .retry
  else .propagate

theorem classify_eq_fail_iff (policy : FailoverConfig) (error : CallError) :
    policy.classify error = .fail ↔ policy.isFail error = true := by
  unfold classify
  split
  · simp_all
  · split <;> simp_all

end FailoverConfig

end Balance
