import UnitHealth.Listing.Basic
import UnitHealth.Proofs.Text.Words

/-!
# The rows of a listing

A line of a listing is complete when it is blank or has the four mandatory columns. Reading a line
depends on its columns alone: a blank line has no unit, a complete line that is not blank has one,
and any other line is short.

The main statement says when a listing is read and what is read then: every line is complete, and
the units are those of the lines in order.
-/

namespace UnitHealth.Listing

/-- The columns of a line: its words after at most one mark. -/
def columns (line : String) : List String :=
  dropMark (Text.words line)

/-- A line without any character but blanks. -/
def Blank (line : String) : Prop :=
  ∀ c ∈ line.toList, Text.isBlank c = true

/-- A line that a listing may have. -/
def Complete (line : String) : Prop :=
  Blank line ∨ 4 ≤ (columns line).length

-- Given by hand, since a search may find the instance that tries every character there is.
instance (line : String) : Decidable (Blank line) :=
  decidable_of_iff (line.toList.all Text.isBlank = true) List.all_eq_true

instance (line : String) : Decidable (Complete line) :=
  inferInstanceAs (Decidable (_ ∨ _))

/-- The unit that a row describes, if it describes one. -/
def Row.unit? : Row → Option ManagedUnit
  | .unit u => some u
  | .blank => none
  | .short _ => none

def unitOf? (line : String) : Option ManagedUnit :=
  (Row.ofLine line).unit?

theorem Row.ofLine_of_blank {line : String} (h : Blank line) :
    Row.ofLine line = .blank := by
  rw [Row.ofLine, Text.words_eq_nil_iff.mpr h]

/-- A line that is not blank is read by its columns. -/
theorem Row.ofLine_of_not_blank {line : String} (h : ¬ Blank line) :
    Row.ofLine line = .ofColumns (columns line) := by
  rw [Row.ofLine, columns]
  cases split : Text.words line with
  | nil => exact absurd (Text.words_eq_nil_iff.mp split) h
  | cons word rest => rfl

theorem Row.ofColumns_of_length_lt {cols : List String} (h : cols.length < 4) :
    Row.ofColumns cols = .short cols.length := by
  match cols, h with
  | [], _ | [_], _ | [_, _], _ | [_, _, _], _ => rfl

theorem columns_of_blank {line : String} (h : Blank line) :
    columns line = [] := by
  rw [columns, Text.words_eq_nil_iff.mpr h, dropMark_nil]

theorem isWord_of_mem_columns {line word : String} (h : word ∈ columns line) :
    Text.IsWord word.toList := by
  have mem : word ∈ Text.words line := by
    rw [columns] at h
    cases split : Text.words line with
    | nil => simp [split] at h
    | cons first rest =>
        rw [split, dropMark] at h
        split at h
        · exact List.mem_cons_of_mem first h
        · exact h
  exact Text.isWord_of_mem_words mem

/-- A line with the mandatory columns describes the unit of these columns. -/
theorem Row.ofLine_of_columns {line name load active sub : String} {rest : List String}
    (h : columns line = name :: load :: active :: sub :: rest) :
    Row.ofLine line =
      .unit (.ofColumns name load active sub (Text.joinWords rest)) := by
  have occupied : ¬ Blank line := by
    intro blank
    rw [columns_of_blank blank] at h
    cases h
  rw [Row.ofLine_of_not_blank occupied, h]
  rfl

theorem Row.ofLine_of_not_complete {line : String} (h : ¬ Complete line) :
    Row.ofLine line = .short (columns line).length := by
  obtain ⟨occupied, few⟩ := not_or.mp h
  rw [Row.ofLine_of_not_blank occupied, Row.ofColumns_of_length_lt (Nat.lt_of_not_le few)]

/-- The three kinds of lines, with what each is read as. -/
theorem line_cases (line : String) :
    (Complete line ∧ Row.ofLine line = .blank ∧ columns line = []) ∨
      (∃ name load active sub rest, Complete line ∧
        columns line = name :: load :: active :: sub :: rest ∧
        Row.ofLine line = .unit (.ofColumns name load active sub (Text.joinWords rest))) ∨
      (¬ Complete line ∧ Row.ofLine line = .short (columns line).length) := by
  by_cases complete : Complete line
  · rcases id complete with blank | enough
    · exact .inl ⟨complete, Row.ofLine_of_blank blank, columns_of_blank blank⟩
    · match cols : columns line, enough with
      | name :: load :: active :: sub :: rest, _ =>
          exact .inr (.inl ⟨name, load, active, sub, rest, complete, rfl,
            Row.ofLine_of_columns cols⟩)
  · exact .inr (.inr ⟨complete, Row.ofLine_of_not_complete complete⟩)

theorem readLines_eq_ok_iff {number : Nat} {ls : List String} {units : List ManagedUnit} :
    readLines number ls = .ok units ↔
      (∀ line ∈ ls, Complete line) ∧ units = ls.filterMap unitOf? := by
  induction ls generalizing number units with
  | nil => simp [eq_comm]
  | cons line ls ih =>
      rw [readLines_cons, List.forall_mem_cons, List.filterMap_cons, unitOf?]
      obtain ⟨complete, row, -⟩ | ⟨name, load, active, sub, rest, complete, -, row⟩ |
        ⟨short, row⟩ := line_cases line
      · simp [row, Row.unit?, complete, ih]
      · simp only [row, Row.unit?, complete, true_and]
        cases read : readLines (number + 1) ls with
        | error e =>
            have reject : ¬ ∀ line ∈ ls, Complete line := by
              intro all
              have accept : readLines (number + 1) ls = .ok _ := ih.mpr ⟨all, rfl⟩
              rw [read] at accept
              cases accept
            simp [Except.map, reject]
        | ok others =>
            obtain ⟨all, rfl⟩ := ih.mp read
            rw [Except.map, Except.ok.injEq]
            exact ⟨fun same => ⟨all, same.symm⟩, fun ⟨_, same⟩ => same.symm⟩
      · simp [row, short]

theorem read_eq_ok_iff {text : String} {units : List ManagedUnit} :
    read text = .ok units ↔
      (∀ line ∈ Text.lines text, Complete line) ∧ units = (Text.lines text).filterMap unitOf? :=
  readLines_eq_ok_iff

theorem read_of_complete {text : String} (h : ∀ line ∈ Text.lines text, Complete line) :
    read text = .ok ((Text.lines text).filterMap unitOf?) :=
  read_eq_ok_iff.mpr ⟨h, rfl⟩

theorem exists_read_eq_error_iff {text : String} :
    (∃ e, read text = .error e) ↔ ∃ line ∈ Text.lines text, ¬ Complete line := by
  constructor
  · rintro ⟨e, rejected⟩
    by_contra none
    push Not at none
    rw [read_of_complete none] at rejected
    cases rejected
  · rintro ⟨line, mem, short⟩
    cases result : read text with
    | error e => exact ⟨e, rfl⟩
    | ok units => exact absurd ((read_eq_ok_iff.mp result).1 line mem) short

end UnitHealth.Listing
