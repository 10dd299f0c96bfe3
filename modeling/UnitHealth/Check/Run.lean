import UnitHealth.Check.Evaluate
import UnitHealth.Manager.Systemctl
import UnitHealth.Settings

/-!
# Running the check

A run takes a command line to a verdict or a fault. It first settles what to do, then asks the
service manager. Either stage that fails puts its own context in front of the error, so the fault
says what was attempted before it says what went wrong.
-/

namespace UnitHealth.Check

/-- The events about the configuration that a command line names. -/
def configEvents (line : CommandLine) (config : FileConfig) : List Event :=
  line.config.toList.map fun path => .configLoaded path config

/-- The settings of a run. A configuration file that has been loaded is noted. -/
def settings (host : Host) (line : CommandLine) : Traced (Except Fault Settings) :=
  match Settings.configOf host line with
  | .error e => return .error (e.fault.within "Failed to load configuration")
  | .ok config => ⟨(configEvents line config).map .note, .ok (.merge line config)⟩

/-- Ask the service manager as the settings say, and judge what it answers. -/
def examine (host : Host) (s : Settings) : Traced (Except Fault Verdict) := do
  let outcome ← evaluate (Manager.connect host (.ofProgram s.systemctl)) (Manager.listUnits host)
    s.policy
  match outcome with
  | .error e => return .error (e.fault.within "Failed to enumerate systemd units")
  | .ok verdict => return .ok verdict

def run (host : Host) (line : CommandLine) : Traced (Except Fault Verdict) := do
  match ← settings host line with
  | .error fault => return .error fault
  | .ok s => examine host s

end UnitHealth.Check
