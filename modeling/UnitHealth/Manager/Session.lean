import UnitHealth.Manager.Systemctl

/-!
# Sessions

A session is a sequence of requests to connect and to enumerate, while the machine may change
between them. It carries one thing from a request to the next: the manager of the last connection,
which a failed attempt to connect takes away and a failed enumeration leaves in place.

Every request is answered from the reply that its own attempt gets.
-/

namespace UnitHealth

inductive Request where
  | connect (client : Systemctl)
  | listUnits
  deriving DecidableEq

inductive Answer where
  /-- An attempt to connect came out so. -/
  | connection (outcome : Except ConnectError PUnit)
  /-- An enumeration came out so. -/
  | units (outcome : Except EnumerationError (List ManagedUnit))
  /-- There is no manager to ask. -/
  | notConnected

/-- The manager that a session keeps, if any. -/
abbrev Session := Option Manager

namespace Session

/-- Answer one request on a host. -/
def step (session : Session) (host : Host) : Request → Traced (Answer × Session)
  | .connect client => do
    match ← Manager.connect host client with
    | .error e => return (.connection (.error e), none)
    | .ok manager => return (.connection (.ok ⟨⟩), some manager)
  | .listUnits =>
    match session with
    | none => return (.notConnected, none)
    | some manager => do
      let outcome ← Manager.listUnits host manager
      return (.units outcome, some manager)

/-- Answer requests one after the other, each on the host as it is then. -/
def run (session : Session) : List (Host × Request) → List (Traced Answer)
  | [] => []
  | (host, request) :: rest =>
    let t := session.step host request
    ⟨t.steps, t.result.1⟩ :: run t.result.2 rest

@[simp] theorem run_nil (session : Session) : session.run [] = [] := rfl

@[simp] theorem step_listUnits_none (host : Host) :
    step none host .listUnits = ⟨[], (.notConnected, none)⟩ := rfl

end Session

end UnitHealth
