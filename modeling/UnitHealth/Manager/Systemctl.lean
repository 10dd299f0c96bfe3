import UnitHealth.Traced
import UnitHealth.Listing.Basic

/-!
# Asking the service manager

The service manager is asked through its client program, given by a name and by arguments that go
before those of every question. To connect is to ask once for the manager's version, which fails
when the client cannot be started or does not end with exit code zero. To enumerate is to ask once
for all units in the plainest form.

What a reply means is a function of the reply alone. Nothing is asked twice, and a manager carries
nothing but the client to ask.
-/

namespace UnitHealth

structure Systemctl where
  program : String
  arguments : List String
  deriving DecidableEq

namespace Systemctl

/-- The client program without arguments of its own. -/
def ofProgram (program : String) : Systemctl := ⟨program, []⟩

def versionQuestion : List String := ["show", "--property=Version", "--value"]

def unitsQuestion : List String :=
  ["list-units", "--all", "--full", "--plain", "--no-legend", "--no-pager"]

/-- The attempt to ask a question. -/
def ask (s : Systemctl) (question : List String) : Invocation :=
  ⟨s.program, s.arguments ++ question⟩

/-- The version that a reply gives, or why the manager cannot be reached. -/
def versionOf (program : String) : Reply → Except ConnectError String
  | .error cause => .error (.spawn program cause)
  | .ok output =>
    if output.succeeded then .ok (Text.trim (Text.decodeLossy output.stdout))
    else .error (.refused program output.code (Text.trim (Text.decodeLossy output.stderr)))

/-- The units that an output gives. Octets that are no text reject it as a whole, and the report
quotes all of it. -/
def unitsOfOutput (stdout : Text.Octets) : Except EnumerationError (List ManagedUnit) :=
  match Text.decode? stdout with
  | none => .error (.malformed ⟨Listing.query, .invalidUtf8, none, Text.decodeLossy stdout⟩)
  | some text =>
    match Listing.read text with
    | .error e => .error (.malformed e)
    | .ok units => .ok units

/-- The units that a reply gives, or why they cannot be enumerated. -/
def unitsOf (program : String) : Reply → Except EnumerationError (List ManagedUnit)
  | .error cause => .error (.spawn program cause)
  | .ok output =>
    if output.succeeded then unitsOfOutput output.stdout
    else .error (.commandFailed output.code (Text.trim (Text.decodeLossy output.stderr)))

end Systemctl

/-- A service manager that has answered. -/
structure Manager where
  client : Systemctl
  deriving DecidableEq

namespace Manager

/-- Make one attempt to reach the service manager. -/
def connect (host : Host) (client : Systemctl) : Traced (Except ConnectError Manager) := do
  Traced.note (.connecting client.program)
  let reply ← Traced.invoke host (client.ask Systemctl.versionQuestion)
  match Systemctl.versionOf client.program reply with
  | .error e => return .error e
  | .ok version =>
    Traced.note (.connected version)
    return .ok ⟨client⟩

/-- Ask once for the units. -/
def listUnits (host : Host) (manager : Manager) :
    Traced (Except EnumerationError (List ManagedUnit)) := do
  let reply ← Traced.invoke host (manager.client.ask Systemctl.unitsQuestion)
  return Systemctl.unitsOf manager.client.program reply

@[simp] theorem invocations_connect (host : Host) (client : Systemctl) :
    (connect host client).invocations = [client.ask Systemctl.versionQuestion] := by
  simp only [connect, Traced.invocations_bind, Traced.invocations_note, Traced.invocations_invoke,
    Traced.result_invoke]
  split <;> simp

@[simp] theorem events_connect (host : Host) (client : Systemctl) :
    (connect host client).events = .connecting client.program ::
      match Systemctl.versionOf client.program (host.spawn client.program
        (client.arguments ++ Systemctl.versionQuestion)) with
      | .error _ => []
      | .ok version => [.connected version] := by
  simp only [connect, Traced.events_bind, Traced.events_note, Traced.events_invoke,
    Traced.result_invoke, Systemctl.ask]
  split <;> simp

@[simp] theorem invocations_listUnits (host : Host) (manager : Manager) :
    (listUnits host manager).invocations = [manager.client.ask Systemctl.unitsQuestion] := rfl

@[simp] theorem events_listUnits (host : Host) (manager : Manager) :
    (listUnits host manager).events = [] := rfl

@[simp] theorem result_listUnits (host : Host) (manager : Manager) :
    (listUnits host manager).result = Systemctl.unitsOf manager.client.program
      (host.spawn manager.client.program
        (manager.client.arguments ++ Systemctl.unitsQuestion)) := rfl

end Manager

end UnitHealth
