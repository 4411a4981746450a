import Balance.Address
import Balance.Call.Error

/-!
A request is built before it is sent. That takes a URL that is well formed and
has a host.
-/

namespace Balance.HttpFailure

/-- The failure to build a request for a URL, if it comes to one. -/
def ofUrl? (url : String) : Option HttpFailure :=
  match Address.parse url with
  | .error fault => some (.broken (.wrapped "builder error" (.text fault.message)))
  | .ok address =>
    if address.host.isSome then none
    else some (.broken (.wrapped "builder error" (.text "URL scheme is not allowed")))

end Balance.HttpFailure
