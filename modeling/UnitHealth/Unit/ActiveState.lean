import UnitHealth.Text.Words

/-!
# Active states

The active column of a listing tells what a unit is doing. A word that contains `failed` means a
failed unit. The other known words are matched exactly, and an unknown word is kept as it is, so
the reading of a word forgets nothing but the spelling of failure.
-/

namespace UnitHealth

/-- What a unit is doing. -/
inductive ActiveState where
  | active
  | reloading
  | inactive
  | failed
  | activating
  | deactivating
  | maintenance
  | refreshing
  | other (word : String)
  deriving DecidableEq

namespace ActiveState

/-- Read the word of the active column. Failure is looked for inside the word and comes first. -/
def ofWord (word : String) : ActiveState :=
  if Text.contains word "failed" then failed
  else
    match word with
    | "active" => active
    | "reloading" => reloading
    | "inactive" => inactive
    | "activating" => activating
    | "deactivating" => deactivating
    | "maintenance" => maintenance
    | "refreshing" => refreshing
    | _ => other word

def word : ActiveState → String
  | active => "active"
  | reloading => "reloading"
  | inactive => "inactive"
  | failed => "failed"
  | activating => "activating"
  | deactivating => "deactivating"
  | maintenance => "maintenance"
  | refreshing => "refreshing"
  | other word => word

def isFailed (state : ActiveState) : Bool :=
  state == failed

@[simp] theorem isFailed_failed : isFailed failed = true := rfl

@[simp] theorem isFailed_iff {state : ActiveState} : state.isFailed = true ↔ state = failed := by
  simp [isFailed]

theorem ofWord_of_contains {raw : String} (h : Text.contains raw "failed" = true) :
    ofWord raw = failed := by
  simp [ofWord, h]

/-- A word is read as failure exactly when failure occurs inside it. -/
theorem isFailed_ofWord (raw : String) : (ofWord raw).isFailed = Text.contains raw "failed" := by
  unfold ofWord
  split
  · next h => rw [h, isFailed_failed]
  · next h =>
    rw [Bool.eq_false_iff.mpr h]
    split <;> rfl

end ActiveState

end UnitHealth
