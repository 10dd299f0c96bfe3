/-!
# Splitting at a character

A text is taken apart at characters in several places: at blanks into words, at commas into the
names of a report, at the last dot into the stem and the type of a unit. What they have in common is
that the pieces hold none of the characters at which the text was split, and that the first and the
last occurrence of a character, or of two characters in a row, each leave one way to split.
-/

namespace UnitHealth.Text

/-- No piece of a split holds a character at which it was split. -/
theorem eq_false_of_mem_splitOnP (p : Char → Bool) (cs : List Char) :
    ∀ piece ∈ cs.splitOnP p, ∀ c ∈ piece, p c = false := by
  induction cs with
  | nil => simp
  | cons d cs ih =>
      cases split : cs.splitOnP p with
      | nil => exact absurd split (List.splitOnP_ne_nil p cs)
      | cons first others =>
          rw [split, List.forall_mem_cons] at ih
          rw [List.splitOnP_cons_eq_if_modifyHead, split]
          by_cases hd : p d = true
          · rw [if_pos hd]
            simpa using ih
          · rw [if_neg hd, List.modifyHead_cons]
            simpa [hd] using ih

theorem notMem_of_mem_splitOn {c : Char} {cs piece : List Char} (h : piece ∈ cs.splitOn c) :
    c ∉ piece := by
  intro mem
  have other := eq_false_of_mem_splitOnP (· == c) cs piece h c mem
  simp at other

/-- The first occurrence of a character splits a list in one way only. -/
theorem eq_of_append_cons_eq_of_first {c : Char} {a a' b b' : List Char}
    (h : a ++ c :: b = a' ++ c :: b') (ha : c ∉ a) (ha' : c ∉ a') : a = a' ∧ b = b' := by
  have split := congrArg (List.splitOn c) h
  rw [List.splitOn_append_cons_self_of_not_mem ha, List.splitOn_append_cons_self_of_not_mem ha']
    at split
  obtain ⟨rfl, -⟩ := List.cons.inj split
  simpa using h

/-- The last occurrence of a character splits a list in one way only. -/
theorem eq_of_append_cons_eq_of_last {c : Char} {a a' b b' : List Char}
    (h : a ++ c :: b = a' ++ c :: b') (hb : c ∉ b) (hb' : c ∉ b') : a = a' ∧ b = b' := by
  have backwards : b.reverse ++ c :: a.reverse = b'.reverse ++ c :: a'.reverse := by
    simpa using congrArg List.reverse h
  obtain ⟨back, front⟩ :=
    eq_of_append_cons_eq_of_first backwards (by simpa using hb) (by simpa using hb')
  exact ⟨List.reverse_inj.mp front, List.reverse_inj.mp back⟩

/-- Where the rest after two different characters does not hold them again, nothing stands before
them. -/
theorem eq_nil_of_cons_cons_eq_append {c d : Char} (ne : c ≠ d) {b b' before : List Char}
    (fresh : ¬ [c, d] <:+: b) (h : c :: d :: b = before ++ c :: d :: b') : before = [] := by
  match before with
  | [] => rfl
  | [e] => exact absurd (List.cons.inj (List.cons.inj h).2).1.symm ne
  | e :: f :: before =>
      obtain rfl : b = before ++ c :: d :: b' := (List.cons.inj (List.cons.inj h).2).2
      exact absurd ⟨before, b', by simp⟩ fresh

/-- The last occurrence of two different characters one after the other splits a list in one way
only. -/
theorem eq_of_append_cons_cons_eq_of_last {c d : Char} (ne : c ≠ d) {a a' b b' : List Char}
    (h : a ++ c :: d :: b = a' ++ c :: d :: b') (hb : ¬ [c, d] <:+: b) (hb' : ¬ [c, d] <:+: b') :
    a = a' ∧ b = b' := by
  rcases List.append_eq_append_iff.mp h with ⟨between, rfl, split⟩ | ⟨between, rfl, split⟩
  · obtain rfl := eq_nil_of_cons_cons_eq_append ne hb split
    simpa using split
  · obtain rfl := eq_nil_of_cons_cons_eq_append ne hb' split
    simpa using split.symm

/-- To put a text after each occurrence of a character is to put both between the pieces. -/
theorem flatMap_eq_intercalate_splitOn (c : Char) (margin cs : List Char) :
    (cs.flatMap fun d => if d = c then d :: margin else [d]) =
      (c :: margin).intercalate (cs.splitOn c) := by
  induction cs with
  | nil => rfl
  | cons d cs ih =>
      obtain ⟨piece, pieces, split⟩ := List.exists_cons_of_ne_nil (List.splitOn_ne_nil c cs)
      rw [List.flatMap_cons, ih]
      rw [List.splitOn_eq_splitOnP] at split ⊢
      rw [List.splitOn_eq_splitOnP, List.splitOnP_cons_eq_if_modifyHead, split]
      by_cases same : d = c
      · simp [same]
      · cases pieces <;> simp [same]

end UnitHealth.Text
