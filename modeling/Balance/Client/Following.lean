import Balance.Client.Shared
import Balance.Config.Reload

/-!
A shared client that follows a configuration file. A change that is accepted
brings a new client, a refused one is only reported.
-/

namespace Balance.SharedClient

/-- Take up a change of the file at `path`, which now has this content. -/
def follow (path : String) (content : Except FileError ByteArray) :
    Operation SharedClient Unit := do
  let reload := Reload.ofContent path content
  Operation.reportAll reload.events
  match reload.result with
  | .error _ => return ()
  | .ok config =>
    Operation.report (.applyingConfig config.balancing.urls.length)
    replace config.balancing

end Balance.SharedClient
