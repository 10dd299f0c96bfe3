import UnitHealth.Proofs.Text.Words
import UnitHealth.Unit.Basic

/-!
# The words of states

A state is read from a word and has a canonical word of its own. The two readings differ in one
place only: a word that contains `failed`, or `masked` in the load column, is read as that state
and loses its spelling. Every other word is the canonical word of what it is read as.

A listed state is one that some word is read as. A state that keeps a word is listed only when the
word has no state of its own. On listed states writing and reading are inverse to each other.
-/

namespace UnitHealth

namespace LoadState

/-- The words of the load column that are matched exactly. -/
def exactWords : List String :=
  ["loaded", "not-found", "bad-setting", "error", "merged", "stub"]

/-- A load state that some word is read as. -/
def Listed : LoadState → Prop
  | other word =>
      Text.IsWord word.toList ∧ ¬ "masked".toList <:+: word.toList ∧ word ∉ exactWords
  | _ => True

instance : DecidablePred Listed
  | other _ => inferInstanceAs (Decidable (_ ∧ _ ∧ _))
  | loaded | masked | notFound | badSetting | error | merged | stub => .isTrue trivial

/-- Only the spelling of a mask is lost. -/
theorem word_ofWord (raw : String) :
    (ofWord raw).word = if Text.contains raw "masked" then "masked" else raw := by
  unfold ofWord
  split
  · rfl
  · split <;> rfl

theorem ofWord_eq_other_iff {raw word : String} :
    ofWord raw = other word ↔
      raw = word ∧ ¬ "masked".toList <:+: raw.toList ∧ raw ∉ exactWords := by
  unfold ofWord
  rw [← Text.contains_iff]
  split
  · next masked => simp [masked]
  · next unmasked => split <;> simp_all [exactWords]

theorem listed_ofWord {raw : String} (h : Text.IsWord raw.toList) : (ofWord raw).Listed := by
  cases state : ofWord raw with
  | other word =>
      obtain ⟨rfl, unmasked, inexact⟩ := ofWord_eq_other_iff.mp state
      exact ⟨h, unmasked, inexact⟩
  | _ => trivial

theorem Listed.isWord_word {state : LoadState} (h : state.Listed) :
    Text.IsWord state.word.toList := by
  cases state with
  | other word => exact h.1
  | _ => decide +kernel

theorem Listed.ofWord_word {state : LoadState} (h : state.Listed) : ofWord state.word = state := by
  cases state with
  | other word =>
      obtain ⟨-, unmasked, inexact⟩ := h
      exact ofWord_eq_other_iff.mpr ⟨rfl, unmasked, inexact⟩
  | _ => decide +kernel

end LoadState

namespace ActiveState

/-- The words of the active column that are matched exactly. -/
def exactWords : List String :=
  ["active", "reloading", "inactive", "activating", "deactivating", "maintenance", "refreshing"]

/-- An active state that some word is read as. -/
def Listed : ActiveState → Prop
  | other word =>
      Text.IsWord word.toList ∧ ¬ "failed".toList <:+: word.toList ∧ word ∉ exactWords
  | _ => True

instance : DecidablePred Listed
  | other _ => inferInstanceAs (Decidable (_ ∧ _ ∧ _))
  | active | reloading | inactive | failed | activating | deactivating | maintenance
  | refreshing => .isTrue trivial

/-- Only the spelling of a failure is lost. -/
theorem word_ofWord (raw : String) :
    (ofWord raw).word = if Text.contains raw "failed" then "failed" else raw := by
  unfold ofWord
  split
  · rfl
  · split <;> rfl

/-- A state keeps a word only when the word has no state of its own. -/
theorem ofWord_eq_other_iff {raw word : String} :
    ofWord raw = other word ↔
      raw = word ∧ ¬ "failed".toList <:+: raw.toList ∧ raw ∉ exactWords := by
  unfold ofWord
  rw [← Text.contains_iff]
  split
  · next failed => simp [failed]
  · next sound => split <;> simp_all [exactWords]

theorem listed_ofWord {raw : String} (h : Text.IsWord raw.toList) : (ofWord raw).Listed := by
  cases state : ofWord raw with
  | other word =>
      obtain ⟨rfl, sound, inexact⟩ := ofWord_eq_other_iff.mp state
      exact ⟨h, sound, inexact⟩
  | _ => trivial

theorem Listed.isWord_word {state : ActiveState} (h : state.Listed) :
    Text.IsWord state.word.toList := by
  cases state with
  | other word => exact h.1
  | _ => decide +kernel

theorem Listed.ofWord_word {state : ActiveState} (h : state.Listed) :
    ofWord state.word = state := by
  cases state with
  | other word =>
      obtain ⟨-, sound, inexact⟩ := h
      exact ofWord_eq_other_iff.mpr ⟨rfl, sound, inexact⟩
  | _ => decide +kernel

end ActiveState

end UnitHealth
