import UnitHealth.Fault
import UnitHealth.Host.Basic
import UnitHealth.Listing.Malformed

/-!
# Errors of the service manager

Two questions are put to the service manager: whether it can be reached, and which units it knows.
Each can fail because the client program cannot be started or because it ends badly, and the
second also because its output is no listing.

An enumeration error keeps its cause apart from its own wording, so a report that lists the causes
names each of them once. A connection error names the reason in its own wording.
-/

namespace UnitHealth

inductive ConnectError where
  /-- The client program could not be started. -/
  | spawn (program : String) (cause : IoError)
  /-- The client program ended with anything but exit code zero. -/
  | refused (program : String) (code : Option Int) (stderr : String)
  deriving DecidableEq

namespace ConnectError

def message : ConnectError → String
  | spawn program cause => s!"failed to run {program}: {cause.message}"
  | refused program code stderr =>
    s!"{program} could not reach the service manager (exit {exitText code}): {stderr}"

def causes : ConnectError → List String
  | spawn _ cause => [cause.message]
  | refused _ _ _ => []

def fault (e : ConnectError) : Fault where
  text := e.message
  causes := e.causes

end ConnectError

inductive EnumerationError where
  /-- The client program could not be started. -/
  | spawn (program : String) (cause : IoError)
  /-- The client program ended with anything but exit code zero. -/
  | commandFailed (code : Option Int) (stderr : String)
  /-- The output is no listing. -/
  | malformed (cause : MalformedOutput)
  deriving DecidableEq

namespace EnumerationError

def message : EnumerationError → String
  | spawn program _ => s!"failed to run {program}"
  | commandFailed code stderr => s!"unit listing failed (exit {exitText code}): {stderr}"
  | malformed _ => "malformed unit listing"

def causes : EnumerationError → List String
  | spawn _ cause => [cause.message]
  | commandFailed _ _ => []
  | malformed cause => [cause.message]

def fault (e : EnumerationError) : Fault where
  text := e.message
  causes := e.causes

end EnumerationError

end UnitHealth
