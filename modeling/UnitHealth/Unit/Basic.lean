import UnitHealth.Unit.ActiveState
import UnitHealth.Unit.LoadState

/-!
# Managed units

A managed unit is one row of what the service manager lists: a name with its type suffix, the two
states that the check looks at, and two texts that are carried for the log only.

A unit counts as a service when `.service` occurs in its name. This is a test for containment, so
a name that goes on after the suffix still counts.
-/

namespace UnitHealth

structure ManagedUnit where
  name : String
  load : LoadState
  active : ActiveState
  sub : String
  description : String
  deriving DecidableEq

namespace ManagedUnit

def ofColumns (name load active sub description : String) : ManagedUnit where
  name := name
  load := .ofWord load
  active := .ofWord active
  sub := sub
  description := description

/-- Whether the name marks a service. -/
def isService (unit : ManagedUnit) : Bool :=
  Text.contains unit.name ".service"

/-- Whether the unit is a service that has failed, masked or not. -/
def isFailedService (unit : ManagedUnit) : Bool :=
  unit.isService && unit.active.isFailed

variable (name load active sub description : String)

@[simp] theorem ofColumns_name : (ofColumns name load active sub description).name = name := rfl

@[simp] theorem ofColumns_load :
    (ofColumns name load active sub description).load = .ofWord load := rfl

@[simp] theorem ofColumns_active :
    (ofColumns name load active sub description).active = .ofWord active := rfl

@[simp] theorem ofColumns_sub : (ofColumns name load active sub description).sub = sub := rfl

@[simp] theorem ofColumns_description :
    (ofColumns name load active sub description).description = description := rfl

end ManagedUnit

end UnitHealth
