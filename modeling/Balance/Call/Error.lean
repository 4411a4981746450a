import Balance.Call.Cause

/-!
The three ways in which a call fails: the answer carries a bad HTTP status,
no connection was established, or the exchange broke off. Failures of an HTTP
client are sorted into these three by `ofHttp`.
-/

namespace Balance

inductive CallError
  | status (code : UInt16)
  | connect (source : Cause)
  | transport (source : Cause)
deriving Repr, DecidableEq

namespace CallError

def toCause : CallError → Cause
  | status code => .answered code
  | connect source => .unconnected source
  | transport source => .interrupted source

def message (error : CallError) : String := error.toCause.message

def status? : CallError → Option UInt16
  | status code => some code
  | _ => none

def isUnreachable : CallError → Bool
  | status _ => false
  | connect _ => true
  | transport source => source.isUnreachable

end CallError

inductive HttpFailure
  | badStatus (code : UInt16)
  | noConnection (source : Cause)
  | broken (source : Cause)
deriving Repr, DecidableEq

namespace HttpFailure

/-- Client and server errors are failures, other statuses are not. -/
def ofStatus? (code : UInt16) : Option HttpFailure :=
  if 400 ≤ code ∧ code ≤ 599 then some (.badStatus code) else none

end HttpFailure

def CallError.ofHttp : HttpFailure → CallError
  | .badStatus code => .status code
  | .noConnection source => .connect source
  | .broken source => .transport source

end Balance
