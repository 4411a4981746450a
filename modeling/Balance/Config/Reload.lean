import Balance.Config.Loading
import Balance.Event

/-!
A watched configuration file. Every change of the file is read; what can be
accepted replaces the current configuration, and anything else is refused with
a reason.
-/

namespace Balance

structure Reload where
  result : Except ConfigError Config
  events : List Event

/-- A configuration that is not accepted leaves the current one in place. -/
def Reload.ofContent (path : String) (content : Except FileError ByteArray) : Reload :=
  let result := Config.load content
  let refused := match result with
    | .ok _ => []
    | .error error => [Event.changeRefused error.message]
  ⟨result, .changeDetected path :: refused⟩

end Balance
