import UnitHealth.Check.Run
import UnitHealth.CommandLine.Parse
import UnitHealth.Log.Filter

/-!
# The program

The program reads its arguments, runs the check, and prints one line with the verdict. A fault
becomes a critical verdict on that line, and its report goes to standard error after the log. The
exit code is that of the verdict.

Arguments that are no request to run the check end the program at once, for help and version with
the text that was asked for. The words in which a mistake is reported are left out.
-/

namespace UnitHealth

/-- What a run of the program leaves behind. -/
structure Transcript where
  exitCode : Nat
  stdout : String
  /-- The lines of the log, without time stamps, and the report of a fault. The usage message for a
  mistake in the arguments is not part of it. -/
  stderr : String
  invocations : List Invocation
  deriving DecidableEq

namespace Transcript

/-- The lines that the filter lets through, each with its line feed. -/
def logText (filter : Filter) (events : List Event) : String :=
  String.join ((events.filter filter.admits).map fun e => e.line ++ "\n")

def verdictOf : Except Fault Verdict → Verdict
  | .ok verdict => verdict
  | .error fault => fault.verdict

/-- The report on the outcome of a run, which is empty unless there is a fault. -/
def reportOf : Except Fault Verdict → String
  | .ok _ => ""
  | .error fault => fault.report ++ "\n"

def ofRun (filter : Filter) (t : Traced (Except Fault Verdict)) : Transcript where
  exitCode := (verdictOf t.result).exitCode
  stdout := (verdictOf t.result).line ++ "\n"
  stderr := logText filter t.events ++ reportOf t.result
  invocations := t.invocations

/-- What the program leaves behind when its arguments are no request to run the check. -/
def ofStop (s : CommandLine.Stop) : Transcript where
  exitCode := s.exitCode
  stdout := s.text?.getD ""
  stderr := ""
  invocations := []

/-- What the program leaves behind, for its arguments and the filter that the environment sets. -/
def ofArguments (host : Host) (arguments : List String) (logSetting : Option String) :
    Transcript :=
  match CommandLine.parse arguments with
  | .error s => ofStop s
  | .ok line => ofRun (.ofEnvironment logSetting line.verbose) (Check.run host line)

end Transcript

end UnitHealth
