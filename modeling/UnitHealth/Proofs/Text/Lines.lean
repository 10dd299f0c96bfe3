import UnitHealth.Text.Blank
import UnitHealth.Text.Lines

/-!
# Whole lines

A text of whole lines is empty or ends in a line feed. Such a text may be followed by any other:
the lines of both together are those of the first and then those of the second, and the first has as
many lines as line feeds. Without the last line feed this fails, since the second text would go on
with the last line of the first.

A line has no line feed, and a text without one is a single line unless it is empty. In particular a
line is read back from its own text. A carriage return at its end does no harm there, because it
would have to stand before a line feed to be dropped. With a line feed after it, it is read back
when a space is the only blank in it, and so are many such lines together.
-/

namespace UnitHealth.Text

/-- A text that is empty or ends in a line feed. -/
def WholeLines (text : String) : Prop :=
  text = "" ∨ text.toList.getLast? = some '\n'

instance : DecidablePred WholeLines :=
  fun _ => inferInstanceAs (Decidable (_ ∨ _))

/-! ## Sequences of characters -/

@[simp] theorem linesOf_lineFeed_cons (cs : List Char) : linesOf ('\n' :: cs) = [] :: linesOf cs :=
  rfl

@[simp] theorem linesOf_return_lineFeed_cons (cs : List Char) :
    linesOf ('\r' :: '\n' :: cs) = [] :: linesOf cs := rfl

/-- A character that is no part of an ending goes to the front of the line after it. -/
theorem linesOf_cons_of_inside {c : Char} {cs : List Char} (inside : c ≠ '\n')
    (lone : ∀ rest, c = '\r' → cs ≠ '\n' :: rest) :
    linesOf (c :: cs) = (c :: (linesOf cs).headD []) :: (linesOf cs).tail := by
  rw [linesOf.eq_4 c cs inside lone]
  cases linesOf cs <;> rfl

theorem linesOf_ne_nil {cs : List Char} (occupied : cs ≠ []) : linesOf cs ≠ [] := by
  fun_cases linesOf cs <;> simp_all

/-- A line feed ends the line before it, whatever follows. -/
theorem linesOf_append_lineFeed_cons (a b : List Char) :
    linesOf (a ++ '\n' :: b) = linesOf (a ++ ['\n']) ++ linesOf b := by
  fun_induction linesOf a with
  | case1 => rfl
  | case2 cs ih => simpa using ih
  | case3 cs ih => simpa using ih
  | case4 c cs inside lone _ ih | case5 c cs inside lone _ _ _ ih =>
      by_cases dropped : c = '\r' ∧ cs = []
      · -- The carriage return is part of the ending, which it was not before.
        obtain ⟨rfl, rfl⟩ := dropped
        rfl
      · have lone' : ∀ rest tail, c = '\r' → cs ++ '\n' :: rest ≠ '\n' :: tail := by
          rintro rest tail hc same
          obtain rfl | ⟨after, rfl, -⟩ := List.append_eq_cons_iff.mp same |>.imp And.left id
          · exact dropped ⟨hc, rfl⟩
          · exact lone after hc rfl
        obtain ⟨line, others, split⟩ :=
          List.exists_cons_of_ne_nil (linesOf_ne_nil (List.append_ne_nil_of_right_ne_nil cs
            (List.cons_ne_nil '\n' [])))
        rw [List.cons_append, List.cons_append, linesOf_cons_of_inside inside (lone' b),
          linesOf_cons_of_inside inside (lone' []), ih, split]
        rfl

/-- Only a line feed in front of some characters adds a line to theirs. -/
theorem length_linesOf_cons {c : Char} {cs : List Char} (inside : c ≠ '\n') (occupied : cs ≠ []) :
    (linesOf (c :: cs)).length = (linesOf cs).length := by
  by_cases dropped : c = '\r' ∧ ∃ rest, cs = '\n' :: rest
  · obtain ⟨rfl, rest, rfl⟩ := dropped
    rfl
  · have lone : ∀ rest, c = '\r' → cs ≠ '\n' :: rest := fun rest hc split =>
      dropped ⟨hc, rest, split⟩
    obtain ⟨line, others, split⟩ := List.exists_cons_of_ne_nil (linesOf_ne_nil occupied)
    simp [linesOf_cons_of_inside inside lone, split]

/-- A text that ends in a line feed has as many lines as line feeds. -/
theorem length_linesOf_append_lineFeed (cs : List Char) :
    (linesOf (cs ++ ['\n'])).length = cs.count '\n' + 1 := by
  induction cs with
  | nil => rfl
  | cons c cs ih =>
      by_cases inside : c = '\n'
      · simp [inside, ih]
      · rw [List.cons_append, length_linesOf_cons inside (by simp), ih,
          List.count_cons_of_ne inside]

theorem notMem_of_mem_linesOf {cs : List Char} : ∀ line ∈ linesOf cs, '\n' ∉ line := by
  fun_induction linesOf cs with
  | case1 => simp
  | case2 cs ih | case3 cs ih => simpa using ih
  | case4 c cs inside => simpa [eq_comm] using inside
  | case5 c cs inside _ line others split ih =>
      simp only [split, List.forall_mem_cons] at ih ⊢
      simpa [eq_comm] using ⟨⟨inside, ih.1⟩, ih.2⟩

/-- Characters without a line feed make one line, unless there are none. -/
theorem linesOf_of_notMem {cs : List Char} (occupied : cs ≠ []) (fresh : '\n' ∉ cs) :
    linesOf cs = [cs] := by
  induction cs with
  | nil => exact absurd rfl occupied
  | cons c cs ih =>
      obtain ⟨first, others⟩ := not_or.mp (mt List.mem_cons.mpr fresh)
      have lone : ∀ rest, c = '\r' → cs ≠ '\n' :: rest := by
        rintro rest - rfl
        exact others List.mem_cons_self
      rw [linesOf_cons_of_inside (Ne.symm first) lone]
      cases cs with
      | nil => rfl
      | cons d cs => simp [ih (List.cons_ne_nil d cs) others]

/-- Characters that end no line are one line with the line feed after them. -/
theorem linesOf_append_newline {cs : List Char} (h : ∀ c ∈ cs, c ≠ '\n' ∧ c ≠ '\r') :
    linesOf (cs ++ ['\n']) = [cs] := by
  induction cs with
  | nil => rfl
  | cons c cs ih =>
      obtain ⟨⟨feed, ret⟩, others⟩ := List.forall_mem_cons.mp h
      rw [List.cons_append, linesOf, ih others]
      · exact feed
      · exact fun _ same => absurd same ret

/-! ## Texts -/

theorem lines_append {a : String} (whole : WholeLines a) (b : String) :
    lines (a ++ b) = lines a ++ lines b := by
  obtain rfl | last := whole
  · simp
  · obtain ⟨front, split⟩ := List.getLast?_eq_some_iff.mp last
    rw [lines, lines, lines, ← List.map_append, String.toList_append, split, List.append_assoc,
      List.singleton_append, linesOf_append_lineFeed_cons]

theorem length_lines {a : String} (whole : WholeLines a) :
    (lines a).length = a.toList.count '\n' := by
  obtain rfl | last := whole
  · rfl
  · obtain ⟨front, split⟩ := List.getLast?_eq_some_iff.mp last
    rw [lines, List.length_map, split, length_linesOf_append_lineFeed]
    simp

/-- A text in which a space is the only blank is one line with a line feed after it. -/
theorem lines_append_newline {line : String}
    (h : ∀ c ∈ line.toList, isBlank c = true → c = ' ') : lines (line ++ "\n") = [line] := by
  have plain : ∀ c ∈ line.toList, c ≠ '\n' ∧ c ≠ '\r' := by
    intro c hc
    constructor
    · rintro rfl
      exact absurd (h _ hc isBlank_newline) (by decide)
    · rintro rfl
      exact absurd (h _ hc isBlank_return) (by decide)
  rw [lines, String.toList_append]
  exact (congrArg (List.map String.ofList) (linesOf_append_newline plain)).trans (by simp)

/-- Such texts with a line feed after each are read back as the lines of all together. -/
theorem lines_join {ls : List String}
    (h : ∀ line ∈ ls, ∀ c ∈ line.toList, isBlank c = true → c = ' ') :
    lines (String.join (ls.map (· ++ "\n"))) = ls := by
  induction ls with
  | nil => rfl
  | cons line ls ih =>
      obtain ⟨first, others⟩ := List.forall_mem_cons.mp h
      have whole : WholeLines (line ++ "\n") := .inr (by simp)
      rw [List.map_cons, String.join_cons, lines_append whole, lines_append_newline first,
        ih others, List.singleton_append]

/-- A line is read back from its own text. -/
theorem lines_of_mem_lines {text line : String} (h : line ∈ lines text) (occupied : line ≠ "") :
    lines line = [line] := by
  obtain ⟨cs, mem, rfl⟩ := List.mem_map.mp h
  have ne : cs ≠ [] := by
    rintro rfl
    exact occupied rfl
  rw [lines, String.toList_ofList, linesOf_of_notMem ne (notMem_of_mem_linesOf cs mem)]
  rfl

end UnitHealth.Text
