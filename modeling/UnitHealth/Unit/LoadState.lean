import UnitHealth.Text.Words

/-!
# Load states

The load column of a listing tells whether a unit's definition was found and read. A word that
contains `masked` means a masked unit, however the mask was applied, so `masked-runtime` is read
as `masked`. The other known words are matched exactly, and an unknown word is kept as it is.
-/

namespace UnitHealth

/-- Whether and how the definition of a unit is loaded. -/
inductive LoadState where
  | loaded
  | masked
  | notFound
  | badSetting
  | error
  | merged
  | stub
  | other (word : String)
  deriving DecidableEq

namespace LoadState

/-- Read the word of the load column. Masking is looked for inside the word and comes first. -/
def ofWord (word : String) : LoadState :=
  if Text.contains word "masked" then masked
  else
    match word with
    | "loaded" => loaded
    | "not-found" => notFound
    | "bad-setting" => badSetting
    | "error" => error
    | "merged" => merged
    | "stub" => stub
    | _ => other word

def word : LoadState → String
  | loaded => "loaded"
  | masked => "masked"
  | notFound => "not-found"
  | badSetting => "bad-setting"
  | error => "error"
  | merged => "merged"
  | stub => "stub"
  | other word => word

def isMasked (state : LoadState) : Bool :=
  state == masked

@[simp] theorem isMasked_masked : isMasked masked = true := rfl

@[simp] theorem isMasked_iff {state : LoadState} : state.isMasked = true ↔ state = masked := by
  simp [isMasked]

theorem ofWord_of_contains {raw : String} (h : Text.contains raw "masked" = true) :
    ofWord raw = masked := by
  simp [ofWord, h]

/-- A word is read as a mask exactly when a mask occurs inside it. -/
theorem isMasked_ofWord (raw : String) : (ofWord raw).isMasked = Text.contains raw "masked" := by
  unfold ofWord
  split
  · next h => rw [h, isMasked_masked]
  · next h =>
    rw [Bool.eq_false_iff.mpr h]
    split <;> rfl

end LoadState

end UnitHealth
