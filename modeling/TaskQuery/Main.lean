import TaskQuery.Command.Run
/-!
# The program

Reads the environment and files and prints what the run comes to.
-/

namespace TaskQuery.Command

def processEnvironment : IO (List (String × String)) := do
  let bytes ←
    try IO.FS.readBinFile "/proc/self/environ"
    catch _ => pure ByteArray.empty
  let text := (String.fromUTF8? bytes).getD ""
  return ((text.split (· == Char.ofNat 0)).toList.map toString).filterMap fun entry =>
    let name := entry.toList.takeWhile (· != '=')
    if name.length < entry.length then
      some (String.ofList name, String.ofList (entry.toList.drop (name.length + 1)))
    else
      none

/-- The error of the operating system behind an error of reading a file. The number of a
name that is too long may come negated. -/
def fileError : IO.Error → FileError
  | .noFileOrDirectory _ _ _ => .missing
  | .permissionDenied _ _ _ => .forbidden
  | .inappropriateType _ code _ => if code = 21 then .directory else .notDirectory
  | .invalidArgument _ code _ =>
      if code = 36 || 0 - code = 36 then .nameTooLong else .unreadable
  | _ => .unreadable

def readSystemFile (path : String) : IO (Except FileError ByteArray) := do
  try
    return .ok (← IO.FS.readBinFile path)
  catch e =>
    return .error (fileError e)

end TaskQuery.Command

open TaskQuery.Command

def main (args : List String) : IO UInt32 := do
  match ← run readSystemFile TaskQuery.Console.standardColumns (← processEnvironment) args with
  | .usageError =>
      IO.eprintln "usage: dartql [--log-level LEVEL] [--version] (parse|compile|filter) ..."
      return 2
  | .finished ending =>
      IO.print ending.stdout
      IO.eprint ending.stderr
      if let some crash := ending.crash then
        IO.eprintln crash.message
      return UInt32.ofNat ending.exitCode
