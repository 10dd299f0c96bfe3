import Mathlib.Data.List.Forall2
import UnitHealth.Proofs.Listing.Rows
import UnitHealth.Proofs.Text.Lines

/-!
# The first bad line

A listing is read line by line and given up at the first line that is not complete. So the report on
a text that is no listing is determined by the lines up to that one: its number counts all lines
before it, blank or not, its text is the line as it stands, and its reason is the number of columns.
What follows does not matter, and neither does what the lines before hold beyond being complete.

A bad line is bad wherever it stands. Read on its own it is reported again, now as the first line.
-/

namespace UnitHealth.Listing

/-! ## Reports -/

/-- Some lines begin with complete ones and then have one that is not complete. -/
structure FirstBad (ls before : List String) (line : String) : Prop where
  split : ∃ after, ls = before ++ line :: after
  complete : ∀ l ∈ before, Complete l
  bad : ¬ Complete line

namespace FirstBad

variable {l line : String} {ls ls' before : List String}

theorem mem (h : FirstBad ls before line) : line ∈ ls := by
  obtain ⟨after, rfl⟩ := h.split
  simp

theorem length_columns_lt (h : FirstBad ls before line) : (columns line).length < 4 :=
  Nat.lt_of_not_le (not_or.mp h.bad).2

theorem ne_empty (h : FirstBad ls before line) : line ≠ "" := by
  rintro rfl
  exact h.bad (.inl (by simp [Blank]))

/-- Lines that agree up to the first bad one have it at the same place. -/
theorem of_prefix (h : FirstBad ls before line) (same : before ++ [line] <+: ls') :
    FirstBad ls' before line := by
  obtain ⟨after, rfl⟩ := same
  exact ⟨⟨after, by simp⟩, h.complete, h.bad⟩

end FirstBad

section Rejected

variable {l line : String} {ls before : List String}

/-- A complete line in front of others is passed over. -/
theorem firstBad_cons_of_complete (complete : Complete l) :
    FirstBad (l :: ls) before line ↔ ∃ rest, before = l :: rest ∧ FirstBad ls rest line := by
  constructor
  · rintro ⟨⟨after, split⟩, earlier, bad⟩
    cases before with
    | nil =>
        obtain ⟨rfl, -⟩ := List.cons.inj split
        exact absurd complete bad
    | cons first rest =>
        obtain ⟨rfl, rfl⟩ := List.cons.inj split
        exact ⟨rest, rfl, ⟨after, rfl⟩, (List.forall_mem_cons.mp earlier).2, bad⟩
  · rintro ⟨rest, rfl, ⟨after, rfl⟩, earlier, bad⟩
    exact ⟨⟨after, rfl⟩, List.forall_mem_cons.mpr ⟨complete, earlier⟩, bad⟩

theorem firstBad_cons_of_not_complete (short : ¬ Complete l) :
    FirstBad (l :: ls) before line ↔ before = [] ∧ line = l := by
  constructor
  · rintro ⟨⟨after, split⟩, earlier, -⟩
    cases before with
    | nil => exact ⟨rfl, (List.cons.inj split).1.symm⟩
    | cons first rest =>
        obtain ⟨rfl, -⟩ := List.cons.inj split
        exact absurd (earlier l List.mem_cons_self) short
  · rintro ⟨rfl, rfl⟩
    exact ⟨⟨ls, rfl⟩, by simp, short⟩

/-- Lines are rejected exactly for the first of them that is not complete. -/
theorem readLines_eq_error_iff {number : Nat} {e : MalformedOutput} :
    readLines number ls = .error e ↔
      ∃ before line, FirstBad ls before line ∧
        e = shortLine (columns line).length (number + before.length) line := by
  induction ls generalizing number with
  | nil =>
      refine ⟨nofun, ?_⟩
      rintro ⟨before, line, ⟨⟨after, split⟩, -, -⟩, -⟩
      simp at split
  | cons l ls ih =>
      by_cases complete : Complete l
      · -- Whatever a complete line gives, it leaves the rejection to the lines after it.
        have passed : readLines number (l :: ls) = .error e ↔
            readLines (number + 1) ls = .error e := by
          rw [readLines_cons]
          obtain ⟨-, row, -⟩ | ⟨_, _, _, _, _, -, -, row⟩ | ⟨short, -⟩ := line_cases l
          · simp [row]
          · cases readLines (number + 1) ls <;> simp [row, Except.map]
          · exact absurd complete short
        have next : ∀ before : List String,
            number + 1 + before.length = number + (l :: before).length := by
          intro before
          rw [List.length_cons]
          omega
        simp only [passed, ih, firstBad_cons_of_complete complete]
        constructor
        · rintro ⟨before, line, first, rfl⟩
          exact ⟨l :: before, line, ⟨before, rfl, first⟩, by rw [next]⟩
        · rintro ⟨_, line, ⟨before, rfl, first⟩, rfl⟩
          exact ⟨before, line, first, by rw [next]⟩
      · simp only [readLines_cons, Row.ofLine_of_not_complete complete,
          firstBad_cons_of_not_complete complete]
        simp [eq_comm]

end Rejected

/-- A text is rejected exactly for its first line that is not complete. -/
theorem read_eq_error_iff {text : String} {e : MalformedOutput} :
    read text = .error e ↔
      ∃ before line, FirstBad (Text.lines text) before line ∧
        e = shortLine (columns line).length (before.length + 1) line := by
  simp only [read, readLines_eq_error_iff, Nat.add_comm 1]

/-! ## Units -/

/-- The unit that a line describes: its first four columns, and the others as the description. -/
def Describes (line : String) (unit : ManagedUnit) : Prop :=
  ∃ name load active sub rest, columns line = name :: load :: active :: sub :: rest ∧
    unit = .ofColumns name load active sub (Text.joinWords rest)

theorem describes_rightUnique : Relator.RightUnique Describes := by
  rintro line unit unit' ⟨name, load, active, sub, rest, cols, rfl⟩ ⟨_, _, _, _, _, cols', rfl⟩
  rw [cols] at cols'
  obtain ⟨rfl, rfl, rfl, rfl, rfl⟩ : name = _ ∧ load = _ ∧ active = _ ∧ sub = _ ∧ rest = _ := by
    simpa using cols'
  rfl

/-- Complete lines that are not blank describe one unit each, in order. -/
theorem forall₂_describes {ls : List String} (h : ∀ line ∈ ls, Complete line) :
    List.Forall₂ Describes (ls.filter fun line => ¬ Blank line) (ls.filterMap unitOf?) := by
  induction ls with
  | nil => exact .nil
  | cons line ls ih =>
      obtain ⟨complete, others⟩ := List.forall_mem_cons.mp h
      by_cases blank : Blank line
      · simpa [blank, unitOf?, Row.ofLine_of_blank blank, Row.unit?] using ih others
      · obtain ⟨-, -, none⟩ | ⟨name, load, active, sub, rest, -, cols, row⟩ | ⟨short, -⟩ :=
          line_cases line
        · have enough := complete.resolve_left blank
          rw [none] at enough
          exact absurd enough (by simp)
        · have described : Describes line
              (.ofColumns name load active sub (Text.joinWords rest)) := ⟨_, _, _, _, _, cols, rfl⟩
          simpa [blank, unitOf?, row, Row.unit?] using List.Forall₂.cons described (ih others)
        · exact absurd complete short

/-- A text is a listing exactly when all its lines are complete, and then it has one unit for each
line that is not blank. Any other text is rejected for its first line that is not complete, by the
number and the text of this line and by its columns, which are fewer than four. Nothing after this
line matters, and on its own it is rejected again, as line one. -/
theorem read_iff_first_bad (text : String) :
    ((∃ units, read text = .ok units) ↔ ∀ line ∈ Text.lines text, Complete line) ∧
      (∀ units, read text = .ok units ↔ (∀ line ∈ Text.lines text, Complete line) ∧
        List.Forall₂ Describes ((Text.lines text).filter fun line => ¬ Blank line) units) ∧
      (∀ e, read text = .error e ↔
        ∃ before line, FirstBad (Text.lines text) before line ∧ (columns line).length < 4 ∧
          e = ⟨query, .missingColumn (columns line).length, some (before.length + 1), line⟩) ∧
      (∀ before line, FirstBad (Text.lines text) before line →
        ∀ other, before ++ [line] <+: Text.lines other → read other = read text) ∧
      ∀ e, read text = .error e → read e.raw = .error { e with line := some 1 } := by
  refine ⟨?_, ?_, ?_, ?_, ?_⟩
  · exact ⟨fun ⟨units, accepted⟩ => (read_eq_ok_iff.mp accepted).1,
      fun complete => ⟨_, read_of_complete complete⟩⟩
  · intro units
    rw [read_eq_ok_iff]
    refine and_congr_right fun complete => ⟨?_, fun described => ?_⟩
    · rintro rfl
      exact forall₂_describes complete
    · exact describes_rightUnique.forall₂ described (forall₂_describes complete)
  · intro e
    rw [read_eq_error_iff]
    refine exists_congr fun before => exists_congr fun line => ?_
    rw [shortLine]
    exact ⟨fun ⟨first, eq⟩ => ⟨first, first.length_columns_lt, eq⟩,
      fun ⟨first, _, eq⟩ => ⟨first, eq⟩⟩
  · intro before line first other same
    have rejected := read_eq_error_iff.mpr ⟨before, line, first, rfl⟩
    rw [rejected]
    exact read_eq_error_iff.mpr ⟨before, line, first.of_prefix same, rfl⟩
  · intro e rejected
    obtain ⟨before, line, first, rfl⟩ := read_eq_error_iff.mp rejected
    refine read_eq_error_iff.mpr ⟨[], line, ?_, rfl⟩
    have alone : Text.lines line = [line] := Text.lines_of_mem_lines first.mem first.ne_empty
    exact ⟨⟨[], alone⟩, by simp, first.bad⟩

/-- A mark on its own is the first bad line of a text. The lines before it are a blank one and one
of a marked unit, and they are a listing. -/
theorem read_iff_first_bad_of_lone_mark :
    ∃ text, text = "\n● a.service loaded failed dead A  b\r\n* \nx" ∧
      read text = .error ⟨query, .missingColumn 0, some 3, "* "⟩ ∧
      read "* " = .error ⟨query, .missingColumn 0, some 1, "* "⟩ ∧
      read "\n● a.service loaded failed dead A  b\r\n" =
        .ok [.ofColumns "a.service" "loaded" "failed" "dead" "A b"] := by
  have first : FirstBad (Text.lines "\n● a.service loaded failed dead A  b\r\n* \nx")
      ["", "● a.service loaded failed dead A  b"] "* " :=
    ⟨⟨["x"], by decide +kernel⟩, by decide +kernel, by decide +kernel⟩
  have none : (columns "* ").length = 0 := by decide +kernel
  obtain ⟨-, -, blamed, -, again⟩ :=
    read_iff_first_bad "\n● a.service loaded failed dead A  b\r\n* \nx"
  have rejected := (blamed ⟨query, .missingColumn 0, some 3, "* "⟩).mpr
    ⟨_, _, first, by decide +kernel, by rw [none]; rfl⟩
  have occupied : ((Text.lines "\n● a.service loaded failed dead A  b\r\n").filter
      fun line => ¬ Blank line) = ["● a.service loaded failed dead A  b"] := by decide +kernel
  have described : Describes "● a.service loaded failed dead A  b"
      (.ofColumns "a.service" "loaded" "failed" "dead" "A b") :=
    ⟨_, _, _, _, ["A", "b"], by decide +kernel, rfl⟩
  obtain ⟨-, listed, -⟩ := read_iff_first_bad "\n● a.service loaded failed dead A  b\r\n"
  refine ⟨_, rfl, rejected, again _ rejected, (listed _).mpr ⟨by decide +kernel, ?_⟩⟩
  rw [occupied]
  exact .cons described .nil

end UnitHealth.Listing
