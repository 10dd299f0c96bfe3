import UnitHealth.Config.Basic
import UnitHealth.Fault
import UnitHealth.Host.Basic

/-!
# Loading a configuration file

Loading fails when the file cannot be read, which includes a file that is no text, and when its
text is no configuration. Either way the error names the file in its own wording and keeps the
reason apart as its cause.
-/

namespace UnitHealth

/-- Why a configuration file gives no configuration. -/
inductive ConfigError where
  /-- The file cannot be read. -/
  | unreadable (path : String) (cause : IoError)
  /-- The file is no configuration. -/
  | invalid (path : String) (cause : FormatError)
  deriving DecidableEq

namespace ConfigError

def message : ConfigError → String
  | unreadable path _ => s!"cannot read config file {path}"
  | invalid path _ => s!"invalid config file {path}"

def causes : ConfigError → List String
  | unreadable _ cause => [cause.message]
  | invalid _ cause => [cause.message]

def fault (e : ConfigError) : Fault where
  text := e.message
  causes := e.causes

end ConfigError

/-- The configuration in a file of a host. -/
def FileConfig.load (host : Host) (path : String) : Except ConfigError FileConfig :=
  match host.fileText path with
  | .error cause => .error (.unreadable path cause)
  | .ok text =>
    match FileConfig.parse text with
    | .error cause => .error (.invalid path cause)
    | .ok config => .ok config

end UnitHealth
