import UnitHealth.Proofs.Unit.States

/-!
# What reading a state forgets

A state column is read through one part: a word that holds the part anywhere is read as the state
that the part names. Every other word is kept, either as the word of a state that it is matched
with, or as it is. So reading forgets how a word spells the part, and nothing else. Two words are
read alike only when they are the same or both hold the part, and writing what was read gives the
word back or the part in its place.

A unit is read column by column, so two rows give the same unit exactly when their words agree up to
the spelling of failure and of masks.
-/

namespace UnitHealth

/-- A reading of words that loses the spelling of the words with a certain part, and nothing else.
The test on what was read tells which words these were. -/
structure LosesOnly {α : Type} (part : String) (read : String → α) (write : α → String)
    (test : α → Bool) : Prop where
  /-- Words are read alike only when they are the same or both hold the part. -/
  eq_iff : ∀ raw raw', read raw = read raw' ↔
    raw = raw' ∨ part.toList <:+: raw.toList ∧ part.toList <:+: raw'.toList
  /-- A word without the part is written again as it was. -/
  kept : ∀ raw, ¬ part.toList <:+: raw.toList → write (read raw) = raw
  /-- A word with the part is written as the part alone. -/
  collapsed : ∀ raw, part.toList <:+: raw.toList → write (read raw) = part
  /-- What is written is read as it was read before. -/
  again : ∀ raw, read (write (read raw)) = read raw
  test_iff : ∀ raw, test (read raw) = true ↔ part.toList <:+: raw.toList

namespace LosesOnly

variable {α : Type} {part : String} {read : String → α} {write : α → String} {test : α → Bool}

/-- A reading that takes the words with a part for one state, and otherwise has the word as what it
writes, loses only the spelling of the part. -/
theorem of_written
    (one : ∀ raw, Text.contains raw part = true → read raw = read part)
    (written : ∀ raw, write (read raw) = if Text.contains raw part then part else raw)
    (tested : ∀ raw, test (read raw) = Text.contains raw part) :
    LosesOnly part read write test := by
  have self : Text.contains part part = true := Text.contains_iff.mpr List.infix_rfl
  have kept : ∀ raw, ¬ part.toList <:+: raw.toList → write (read raw) = raw := by
    intro raw without
    rw [written, if_neg (mt Text.contains_iff.mp without)]
  have collapsed : ∀ raw, part.toList <:+: raw.toList → write (read raw) = part := by
    intro raw within
    rw [written, if_pos (Text.contains_iff.mpr within)]
  refine ⟨?_, kept, collapsed, ?_, ?_⟩
  · intro raw raw'
    constructor
    · -- The test tells the words with the part from the others, and the others are written again.
      intro same
      have agree : Text.contains raw part = Text.contains raw' part := by
        rw [← tested, ← tested, same]
      by_cases within : part.toList <:+: raw.toList
      · right
        rw [Text.contains_iff.mpr within] at agree
        exact ⟨within, Text.contains_iff.mp agree.symm⟩
      · left
        have without : ¬ part.toList <:+: raw'.toList := by
          rwa [← Text.contains_iff, ← agree, Text.contains_iff]
        rw [← kept raw within, same, kept raw' without]
    · rintro (rfl | ⟨within, within'⟩)
      · rfl
      · rw [one raw (Text.contains_iff.mpr within), one raw' (Text.contains_iff.mpr within')]
  · intro raw
    by_cases within : part.toList <:+: raw.toList
    · rw [collapsed raw within, one raw (Text.contains_iff.mpr within)]
    · rw [kept raw within]
  · intro raw
    rw [tested, Text.contains_iff]

end LosesOnly

theorem ActiveState.losesOnly : LosesOnly "failed" ofWord word isFailed := by
  refine .of_written ?_ word_ofWord isFailed_ofWord
  intro raw failed
  rw [ofWord_of_contains failed]
  decide +kernel

theorem LoadState.losesOnly : LosesOnly "masked" ofWord word isMasked := by
  refine .of_written ?_ word_ofWord isMasked_ofWord
  intro raw masked
  rw [ofWord_of_contains masked]
  decide +kernel

theorem ManagedUnit.ofColumns_inj {name load active sub description : String}
    {name' load' active' sub' description' : String} :
    ofColumns name load active sub description = ofColumns name' load' active' sub' description' ↔
      name = name' ∧ sub = sub' ∧ description = description' ∧
        LoadState.ofWord load = .ofWord load' ∧ ActiveState.ofWord active = .ofWord active' := by
  simp only [ofColumns, ManagedUnit.mk.injEq]
  tauto

/-- The readings of both state columns lose only spelling, that of failure in the active column and
that of masks in the load column. So two rows give one unit exactly when name, sub state and
description agree and each state word is the same or spells the same part. -/
theorem states_lose_only_spelling :
    LosesOnly "failed" ActiveState.ofWord ActiveState.word ActiveState.isFailed ∧
      LosesOnly "masked" LoadState.ofWord LoadState.word LoadState.isMasked ∧
      ∀ name load active sub description name' load' active' sub' description',
        ManagedUnit.ofColumns name load active sub description =
            .ofColumns name' load' active' sub' description' ↔
          name = name' ∧ sub = sub' ∧ description = description' ∧
            (load = load' ∨
              "masked".toList <:+: load.toList ∧ "masked".toList <:+: load'.toList) ∧
            (active = active' ∨
              "failed".toList <:+: active.toList ∧ "failed".toList <:+: active'.toList) := by
  refine ⟨ActiveState.losesOnly, LoadState.losesOnly, ?_⟩
  intro name load active sub description name' load' active' sub' description'
  rw [ManagedUnit.ofColumns_inj, LoadState.losesOnly.eq_iff, ActiveState.losesOnly.eq_iff]

end UnitHealth
