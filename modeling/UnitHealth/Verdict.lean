/-!
# Verdicts

A check ends in a verdict: a status and one message. The status decides the exit code by the
convention of monitoring plugins, where 0 means fine, 2 critical and 3 unknown. The line that a
check prints names the check, the status and the message.
-/

namespace UnitHealth

inductive Status where
  | ok
  | critical
  | unknown
  deriving DecidableEq

namespace Status

def exitCode : Status → Nat
  | ok => 0
  | critical => 2
  | unknown => 3

/-- The word for a status on the printed line. -/
def word : Status → String
  | ok => "OK"
  | critical => "CRITICAL"
  | unknown => "UNKNOWN"

end Status

structure Verdict where
  status : Status
  message : String
  deriving DecidableEq

namespace Verdict

def exitCode (v : Verdict) : Nat :=
  v.status.exitCode

def summary (v : Verdict) : String :=
  v.status.word ++ ": " ++ v.message

/-- The line that a check prints, without its line feed. -/
def line (v : Verdict) : String :=
  "CheckFailedUnits " ++ v.summary

/-- The verdict when the service manager cannot be reached. -/
def cannotConnect : Verdict where
  status := .unknown
  message := "Can not connect to systemd"

@[simp] theorem exitCode_mk (status : Status) (message : String) :
    (Verdict.mk status message).exitCode = status.exitCode := rfl

@[simp] theorem summary_mk (status : Status) (message : String) :
    (Verdict.mk status message).summary = status.word ++ ": " ++ message := rfl

@[simp] theorem line_mk (status : Status) (message : String) :
    (Verdict.mk status message).line =
      "CheckFailedUnits " ++ (status.word ++ ": " ++ message) := rfl

@[simp] theorem cannotConnect_status : cannotConnect.status = .unknown := rfl

end Verdict

end UnitHealth
