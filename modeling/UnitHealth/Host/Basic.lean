import UnitHealth.Host.ErrorText
import UnitHealth.Text.Utf8

/-!
# Hosts

The check touches its machine in two ways: it reads one file, and it runs one program. A host
answers both. The file answer is the octets of the file or the reason why it cannot be read, and
the program answer is the way the program ended with what it printed, or the reason why it could
not be started.

A host is a value. It answers the same question the same way however often it is asked, and what a
run asked of it is recorded by the run and not by the host.
-/

namespace UnitHealth

/-- Why the system could not read a file or start a program. -/
inductive IoError where
  /-- The system's error with this number. -/
  | system (number : Int)
  /-- An error that has only a text. -/
  | other (text : String)
  deriving DecidableEq

namespace IoError

def message : IoError → String
  | system number => s!"{ErrorText.ofNumber number} (os error {number})"
  | other text => text

/-- The reason alone, without the number. -/
def reason : IoError → String
  | system number => ErrorText.ofNumber number
  | other text => text

def notFound : IoError := system 2

/-- The file is no program. -/
def notExecutable : IoError := system 8

def permissionDenied : IoError := system 13

/-- A file stands where a directory is needed. -/
def notADirectory : IoError := system 20

/-- A directory stands where a file is needed. -/
def isADirectory : IoError := system 21

/-- A component of the name, or the whole, is longer than the system admits. -/
def nameTooLong : IoError := system 36

/-- Too many names lead on to other names. -/
def tooManyLinks : IoError := system 40

def notText : IoError := other "stream did not contain valid UTF-8"

end IoError

/-- How a program ended and what it printed. A program that was killed has no exit code. -/
structure Output where
  code : Option Int
  stdout : Text.Octets
  stderr : Text.Octets
  deriving DecidableEq

namespace Output

def succeeded (output : Output) : Bool :=
  output.code == some 0

@[simp] theorem succeeded_iff {output : Output} :
    output.succeeded = true ↔ output.code = some 0 := by
  simp [succeeded]

end Output

/-- The answer to an attempt to run a program. -/
abbrev Reply := Except IoError Output

/-- The wording of an exit code in an error. -/
def exitText : Option Int → String
  | none => "None"
  | some code => s!"Some({code})"

/-- A machine as the check sees it. -/
structure Host where
  /-- The octets of a file. -/
  file : String → Except IoError Text.Octets
  /-- The answer to running a program with arguments. -/
  spawn : String → List String → Reply

namespace Host

/-- The text of a file. A file that is no text cannot be read. -/
def fileText (host : Host) (path : String) : Except IoError String :=
  match host.file path with
  | .error e => .error e
  | .ok octets =>
    match Text.decode? octets with
    | none => .error .notText
    | some text => .ok text

end Host

end UnitHealth
