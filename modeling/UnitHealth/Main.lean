import UnitHealth.Check.Program

/-!
# The executable

The executable puts the program in front of a real machine. It reads the one file that the
arguments name and the setting of the log, and hands them to the program as a host.

It starts no other program. The listing is piped into it instead: whoever calls it has already
asked the service manager, so the question for the version counts as answered, and standard input
is the answer to the question for the units.
-/

namespace UnitHealth.Executable

/-- An error of the system, by its number where it has one of those that reading a file meets. -/
def ioError : IO.Error → IoError
  | .noFileOrDirectory _ number _ => .system number.toNat
  | .permissionDenied _ number _ => .system number.toNat
  | .inappropriateType _ number _ => .system number.toNat
  | .invalidArgument _ number _ => .system number.toNat
  | .otherError number _ => .system number.toNat
  | e => .other (toString e)

def readFile (path : String) : IO (Except IoError Text.Octets) := do
  try
    return .ok (← IO.FS.readBinFile path).toList
  catch e => return .error (ioError e)

/-- The file that the arguments name, if they name one. -/
def namedFile (arguments : List String) : Option String :=
  match CommandLine.parse arguments with
  | .ok line => line.config
  | .error _ => none

/-- The host on which a file has the given content and the units are the given listing. -/
def host (content : Except IoError Text.Octets) (listing : Text.Octets) : Host where
  file _ := content
  spawn _ question :=
    .ok ⟨some 0, if question = Systemctl.unitsQuestion then listing else [], []⟩

end UnitHealth.Executable

open UnitHealth in
/-- Run the program on the arguments, and print what it leaves behind. -/
def main (arguments : List String) : IO UInt32 := do
  let content ← match Executable.namedFile arguments with
    | some path => Executable.readFile path
    | none => pure (.error .notFound)
  let listing ← match CommandLine.parse arguments with
    | .ok _ => (← IO.getStdin).readBinToEnd
    | .error _ => pure .empty
  let setting ← IO.getEnv "RUST_LOG"
  let t := Transcript.ofArguments (Executable.host content listing.toList) arguments setting
  (← IO.getStderr).putStr t.stderr
  (← IO.getStdout).putStr t.stdout
  return UInt32.ofNat t.exitCode
