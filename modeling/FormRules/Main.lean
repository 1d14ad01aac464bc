import FormRules.Command.Run
import Std.Time.DateTime.Timestamp

/-!
# The program

Reads the files that the command names, and answers at the present instant.
-/

open FormRules

/-- The contents of a file. -/
def readText (path : String) : IO (Except ReadError String) := do
  match ← (IO.FS.readBinFile path).toBaseIO with
  | .ok bytes => return (String.fromUTF8? bytes).elim (.error .notText) .ok
  | .error (.noFileOrDirectory ..) => return .error .notFound
  | .error (.permissionDenied ..) => return .error .denied
  | .error (.inappropriateType _ code _) => return .error (if code = 20 then .notDirectory else .directory)
  | .error (.invalidArgument _ 36 _) => return .error .nameTooLong
  | .error e => return .error (.failed (toString e))

def main (line : List String) : IO UInt32 := do
  let now ← Std.Time.Timestamp.now
  let paths := ((Command.ofLine line).toOption.map (·.paths)).getD []
  let contents ← paths.mapM fun path => do return (path, ← readText path)
  let response := Command.respond (fun path => (contents.lookup path).getD (.error .notFound))
    (.ofNanos now.toNanosecondsSinceUnixEpoch.val) line
  (← IO.getStdout).putStr response.output
  (← IO.getStderr).putStr response.errors
  return response.exitCode
