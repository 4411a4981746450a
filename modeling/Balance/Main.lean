import Balance.CommandLine.Session

/-!
The program. It reads arguments, files, the environment and the clock, and
prints what a session answers. A followed file is looked at every two seconds.
-/

namespace Balance.Program
open CommandLine

def errorCode : IO.Error → Nat
  | .noFileOrDirectory _ code _ | .permissionDenied _ code _ | .inappropriateType _ code _
  | .invalidArgument _ code _ | .resourceExhausted _ code _ => code.toNat
  | .noSuchThing _ code _ | .interrupted _ code _ => code.toNat
  | _ => 5

def contentOf (path : String) : IO (Except FileError ByteArray) := do
  try
    return .ok (← IO.FS.readBinFile path)
  catch error =>
    return .error (.system (errorCode error))

def ambient : IO Ambient := do
  let reading ← IO.monoNanosNow
  return { clock := { now := reading }, draws := .seeded (UInt64.ofNat reading) }

def sameContent : Except FileError ByteArray → Except FileError ByteArray → Bool
  | .ok old, .ok new => old.data == new.data
  | .error old, .error new => old == new
  | _, _ => false

partial def follow (followed : Followed) (shared : SharedClient)
    (seen : Except FileError ByteArray) : IO Unit := do
  IO.sleep 2000
  let content ← contentOf followed.path
  if sameContent seen content then
    follow followed shared seen
  else
    let done := SharedClient.follow followed.path content shared (← ambient)
    (followed.lines done.events).forM IO.println
    follow followed done.state content

def run (arguments : List String) : IO UInt32 := do
  let given ← IO.getEnv "URL_BALANCER_LOG"
  let outcome ← session arguments contentOf given (← ambient)
  outcome.output.forM IO.println
  outcome.errors.forM IO.eprintln
  match outcome.followed with
  | none => return UInt32.ofNat outcome.exit
  | some followed =>
    (followed.lines [.watchStarted followed.path]).forM IO.println
    follow followed followed.start (← contentOf followed.path)
    return 0

end Balance.Program

def main (arguments : List String) : IO UInt32 := Balance.Program.run arguments
