import UnitHealth.Unit.Basic
import UnitHealth.Verdict

/-!
# Failed services

The check reports the services that have failed. A policy can excuse masked units: it then drops
a failed service whose load state is masked, and nothing else. What is left is listed in the order
of the units, with multiplicity.

The verdict is OK when nothing is left, and otherwise critical with the names, each followed by a
comma.
-/

namespace UnitHealth

/-- What the check takes into account. -/
structure Policy where
  /-- Whether masked units are excused. -/
  ignoreMasked : Bool
  deriving DecidableEq

namespace Policy

/-- Whether a unit is excused although it is a failed service. -/
def excuses (policy : Policy) (unit : ManagedUnit) : Bool :=
  policy.ignoreMasked && unit.load.isMasked

/-- Whether a unit is reported. -/
def reports (policy : Policy) (unit : ManagedUnit) : Bool :=
  unit.isFailedService && !policy.excuses unit

@[simp] theorem excuses_of_strict (unit : ManagedUnit) : (Policy.mk false).excuses unit = false :=
  rfl

@[simp] theorem excuses_of_lenient (unit : ManagedUnit) :
    (Policy.mk true).excuses unit = unit.load.isMasked := rfl

end Policy

/-- The names of the failed services, in the order of the units. -/
def failedServices (policy : Policy) (units : List ManagedUnit) : List String :=
  (units.filter policy.reports).map ManagedUnit.name

namespace Verdict

/-- The names of a report, each followed by a comma. -/
def payload (names : List String) : String :=
  String.join (names.map (· ++ ","))

def ofNames : List String → Verdict
  | [] => ⟨.ok, "No failed service units"⟩
  | name :: rest => ⟨.critical, "Found failed service units: " ++ payload (name :: rest)⟩

def ofUnits (policy : Policy) (units : List ManagedUnit) : Verdict :=
  ofNames (failedServices policy units)

theorem toList_payload (names : List String) :
    (payload names).toList = names.flatMap fun name => name.toList ++ [','] := by
  simp [payload, String.toList_join, List.flatMap_map]

@[simp] theorem ofNames_nil : ofNames [] = ⟨.ok, "No failed service units"⟩ := rfl

theorem ofNames_status_eq_ok {names : List String} : (ofNames names).status = .ok ↔ names = [] := by
  cases names <;> simp [ofNames]

theorem ofNames_status_eq_critical {names : List String} :
    (ofNames names).status = .critical ↔ names ≠ [] := by
  cases names <;> simp [ofNames]

end Verdict

theorem failedServices_append (policy : Policy) (a b : List ManagedUnit) :
    failedServices policy (a ++ b) = failedServices policy a ++ failedServices policy b := by
  simp [failedServices]

end UnitHealth
