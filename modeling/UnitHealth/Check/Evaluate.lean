import UnitHealth.Traced
import UnitHealth.FailedServices

/-!
# Evaluating the check

The check connects, enumerates and judges, and each step happens only when the one before it came
out well. A manager that cannot be reached is a verdict of its own, since the check then knows
nothing. Units that cannot be enumerated are an error and no verdict.

The evaluation is over any kind of manager, any way to connect to it and any way to list its units.
-/

namespace UnitHealth

/-- The events about the failed services among some units, in order. -/
def Event.ofUnits (policy : Policy) (units : List ManagedUnit) : List Event :=
  (units.filter ManagedUnit.isFailedService).map fun unit =>
    if policy.excuses unit then .excused unit else .reported unit

namespace Check

def judge (policy : Policy) (units : List ManagedUnit) : Traced Verdict :=
  ⟨(Event.ofUnits policy units).map .note, .ofUnits policy units⟩

/-- Connect, enumerate and judge. -/
def evaluate {M : Type} (connect : Traced (Except ConnectError M))
    (listUnits : M → Traced (Except EnumerationError (List ManagedUnit))) (policy : Policy) :
    Traced (Except EnumerationError Verdict) := do
  match ← connect with
  | .error e =>
    Traced.note (.connectionFailed e)
    return .ok .cannotConnect
  | .ok manager =>
    match ← listUnits manager with
    | .error e => return .error e
    | .ok units =>
      Traced.note (.enumerated units.length)
      let verdict ← judge policy units
      Traced.note (.decided verdict.status)
      return .ok verdict

@[simp] theorem result_judge (policy : Policy) (units : List ManagedUnit) :
    (judge policy units).result = .ofUnits policy units := rfl

@[simp] theorem invocations_judge (policy : Policy) (units : List ManagedUnit) :
    (judge policy units).invocations = [] :=
  Traced.invocations_of_notes _ _

@[simp] theorem events_judge (policy : Policy) (units : List ManagedUnit) :
    (judge policy units).events = Event.ofUnits policy units :=
  Traced.events_of_notes _ _

section Evaluation

variable {M : Type} (connect : Traced (Except ConnectError M))
  (listUnits : M → Traced (Except EnumerationError (List ManagedUnit))) (policy : Policy)

/-- What connecting asks for comes first, and what enumerating asks for follows it where there is a
manager. Each appears once. -/
theorem invocations_evaluate : (evaluate connect listUnits policy).invocations =
    connect.invocations ++
      match connect.result with
      | .error _ => []
      | .ok manager => (listUnits manager).invocations := by
  rw [evaluate, Traced.invocations_bind]
  cases connect.result with
  | error e => simp
  | ok manager => cases listed : (listUnits manager).result <;> simp [listed]

/-- The events of connecting come first, then those of enumerating. What is noted after them is the
outcome, unless enumerating failed. -/
theorem events_evaluate : (evaluate connect listUnits policy).events =
    connect.events ++
      match connect.result with
      | .error e => [.connectionFailed e]
      | .ok manager =>
        (listUnits manager).events ++
          match (listUnits manager).result with
          | .error _ => []
          | .ok units =>
            .enumerated units.length ::
              (Event.ofUnits policy units ++ [.decided (Verdict.ofUnits policy units).status]) := by
  rw [evaluate, Traced.events_bind]
  cases connect.result with
  | error e => simp
  | ok manager => cases listed : (listUnits manager).result <;> simp [listed]

theorem result_evaluate : (evaluate connect listUnits policy).result =
    match connect.result with
    | .error _ => .ok .cannotConnect
    | .ok manager => (listUnits manager).result.map (.ofUnits policy) := by
  rw [evaluate, Traced.result_bind]
  cases connect.result with
  | error e => rfl
  | ok manager => cases listed : (listUnits manager).result <;> simp [listed, Except.map]

end Evaluation

end Check

end UnitHealth
