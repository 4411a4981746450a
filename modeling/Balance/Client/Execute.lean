import Balance.Client

/-!
The loop around a call: select a URL, call it, report the outcome, and try
again while the policy says so. Calls that ended in a failure and calls that
ended in a retry have a budget each; the call that uses up its budget is the
last one. Only a failing outcome excludes the URL, any other one confirms it.
-/

namespace Balance

structure Reply (α : Type) where
  outcome : Except CallError α
  elapsed : Duration := 0

/-- The called side: its state decides what the next call of a URL brings. -/
abbrev Remote (κ α : Type) : Type := Url → κ → Reply α × κ

namespace Client

variable {κ α : Type}

def call (remote : Remote κ α) (url : Url) :
    Operation (Client × κ) (Except CallError α) :=
  fun (client, state) ambient =>
    let (reply, state) := remote url state
    ⟨reply.outcome, (client, state),
      { ambient with clock := ambient.clock.advance reply.elapsed }, []⟩

/-- Calls from the point where `fails` and `retries` calls ended that way. -/
def attempt (remote : Remote κ α) (default : Url) (failMax retryMax : Nat)
    (fails retries : Nat) : Operation (Client × κ) (Except CallError α) := do
  let url ← Operation.onFirst (Client.url default none)
  match ← call remote url with
  | .ok value =>
    let _ ← Operation.onFirst (confirm url)
    return .ok value
  | .error error =>
    match (← Operation.state).1.classify error with
    | .fail =>
      match ← Operation.onFirst (fail url error) with
      | .error _ => return .error error
      | .ok _ =>
        if failMax ≤ fails + 1 then
          Operation.report (.failBudgetSpent url (fails + 1))
          return .error error
        else
          attempt remote default failMax retryMax (fails + 1) retries
    | .retry =>
      let _ ← Operation.onFirst (confirm url)
      if retryMax ≤ retries + 1 then
        Operation.report (.retryBudgetSpent url (retries + 1))
        return .error error
      else
        Operation.report (.retrying url (retries + 1) error)
        attempt remote default failMax retryMax fails (retries + 1)
    | .propagate =>
      let _ ← Operation.onFirst (confirm url)
      return .error error
termination_by (failMax - fails) + (retryMax - retries)

/-- Call until an outcome is final. Without a policy the first one is. -/
def execute (remote : Remote κ α) (default : Url) :
    Operation (Client × κ) (Except CallError α) := do
  let policy := (← Operation.state).1.policy?
  attempt remote default (policy.elim 0 (·.failMaxAttempt.toNat))
    (policy.elim 0 (·.retryMaxAttempt.toNat)) 0 0

end Client

end Balance
