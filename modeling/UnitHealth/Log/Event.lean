import UnitHealth.Config.Basic
import UnitHealth.Manager.Error
import UnitHealth.Unit.Basic

/-!
# Log events

A run keeps an account of what it did as a sequence of events. An event carries the values that it
is about, so an account can be compared with the verdict and not only read. Its level, the part of
the program that it comes from, and its wording are functions of the event.
-/

namespace UnitHealth

/-- How much an event matters. -/
inductive Level where
  | error
  | warn
  | info
  | debug
  | trace
  deriving DecidableEq

namespace Level

/-- The levels by how much is logged when all up to them are. -/
def verbosity : Level → Nat
  | error => 1
  | warn => 2
  | info => 3
  | debug => 4
  | trace => 5

/-- The name of a level in front of a log line. -/
def label : Level → String
  | error => "ERROR"
  | warn => "WARN"
  | info => "INFO"
  | debug => "DEBUG"
  | trace => "TRACE"

/-- The level up to which events are logged when the command line decides. -/
def ofVerbose (verbose : Bool) : Level :=
  if verbose then debug else error

/-- The name of a level as a directive writes it. -/
def word : Level → String
  | error => "error"
  | warn => "warn"
  | info => "info"
  | debug => "debug"
  | trace => "trace"

end Level

inductive Component where
  /-- The program around the check: here, the client of the service manager. -/
  | client
  /-- The check itself with its configuration. -/
  | check
  deriving DecidableEq

def Component.name : Component → String
  | client => "check_failed_units"
  | check => "unitcheck_shared"

/-- Something that a run notes. -/
inductive Event where
  /-- A configuration file has been loaded. -/
  | configLoaded (path : String) (config : FileConfig)
  /-- The service manager is about to be asked. -/
  | connecting (program : String)
  /-- The service manager has given its version. -/
  | connected (version : String)
  /-- The service manager cannot be reached. -/
  | connectionFailed (cause : ConnectError)
  /-- The units are known, so many of them. -/
  | enumerated (count : Nat)
  /-- A failed service is excused because it is masked. -/
  | excused (unit : ManagedUnit)
  /-- A failed service is reported. -/
  | reported (unit : ManagedUnit)
  /-- The check has come out. -/
  | decided (status : Status)
  deriving DecidableEq

namespace Event

def level : Event → Level
  | connectionFailed _ => .warn
  | decided _ => .info
  | _ => .debug

def component : Event → Component
  | connecting _ => .client
  | connected _ => .client
  | _ => .check

def message : Event → String
  | configLoaded path config => s!"Loaded config from {path}: {config.summary}"
  | connecting program => s!"Connecting to service manager via {program}"
  | connected version => s!"Connected to service manager (version {version})"
  | connectionFailed cause => s!"Service manager connection failed: {cause.message}"
  | enumerated count => s!"Enumerated {count} units"
  | excused unit => s!"Ignoring masked failed unit {unit.name}"
  | reported unit => s!"Failed unit {unit.name} (load={unit.load.word}, sub={unit.sub})"
  | decided status => s!"Check result: {status.word}"

/-- A character as the log writes it. Those that could steer a terminal are written as escapes. -/
def logged (c : Char) : List Char :=
  if c = '\x1b' then "\\x1b".toList
  else if c = '\x07' then "\\x07".toList
  else if c = '\x08' then "\\x08".toList
  else if c = '\x0c' then "\\x0c".toList
  else if c = '\x7f' then "\\x7f".toList
  else if 0x80 ≤ c.toNat ∧ c.toNat ≤ 0x9f then
    "\\u\x7b".toList ++ Text.hexDigits c ++ ['\x7d']
  else [c]

/-- The log line of an event, without a time stamp and without its line feed. -/
def line (e : Event) : String :=
  e.level.label ++ " " ++ String.ofList (e.message.toList.flatMap logged)

end Event

end UnitHealth
