import UnitHealth.Proofs.Listing.FirstBad
import UnitHealth.Proofs.Unit.States

/-!
# Written listings

Units are written one on a line: the name, the words of the two states, the sub state and the
description, with one space between neighbours, and with or without a mark in front.

The main statement says what a listing can hold. A list of units is that of some listing exactly
when each of them is listable: its name and its sub state are words, its states are listed, and its
description is folded. Such units are read back from their marked lines. Their plain lines are read
back as well, unless one of the names is itself a mark, which would be taken for the mark of a line.
-/

namespace UnitHealth

namespace ManagedUnit

/-- A unit that some line of a listing describes. -/
structure Listable (unit : ManagedUnit) : Prop where
  name : Text.IsWord unit.name.toList
  load : unit.load.Listed
  active : unit.active.Listed
  sub : Text.IsWord unit.sub.toList
  description : Text.fold unit.description = unit.description

theorem listable_iff {unit : ManagedUnit} :
    unit.Listable ↔ Text.IsWord unit.name.toList ∧ unit.load.Listed ∧ unit.active.Listed ∧
      Text.IsWord unit.sub.toList ∧ Text.fold unit.description = unit.description :=
  ⟨fun h => ⟨h.name, h.load, h.active, h.sub, h.description⟩,
    fun ⟨name, load, active, sub, description⟩ => ⟨name, load, active, sub, description⟩⟩

instance : DecidablePred Listable :=
  fun _ => decidable_of_iff _ listable_iff.symm

def plainLine (unit : ManagedUnit) : String :=
  unit.name ++ " " ++ unit.load.word ++ " " ++ unit.active.word ++ " " ++ unit.sub ++ " " ++
    unit.description

def markedLine (unit : ManagedUnit) : String :=
  "●" ++ " " ++ unit.plainLine

namespace Listable

variable {unit : ManagedUnit}

theorem ofColumns_eq (h : unit.Listable) :
    ofColumns unit.name unit.load.word unit.active.word unit.sub
      (Text.joinWords (Text.words unit.description)) = unit := by
  have description : Text.joinWords (Text.words unit.description) = unit.description :=
    h.description
  rw [ofColumns, h.load.ofWord_word, h.active.ofWord_word, description]

theorem words_plainLine (h : unit.Listable) :
    Text.words unit.plainLine =
      unit.name :: unit.load.word :: unit.active.word :: unit.sub ::
        Text.words unit.description := by
  simp only [plainLine, Text.words_append_space, h.name.words_eq, h.load.isWord_word.words_eq,
    h.active.isWord_word.words_eq, h.sub.words_eq, List.cons_append, List.nil_append]

theorem not_blank_plainLine (h : unit.Listable) : ¬ Listing.Blank unit.plainLine := by
  intro blank
  have none := Text.words_eq_nil_iff.mpr blank
  rw [h.words_plainLine] at none
  cases none

/-- A space is the only blank in the line of a listable unit. -/
theorem eq_space_of_mem_plainLine (h : unit.Listable) :
    ∀ c ∈ unit.plainLine.toList, Text.isBlank c = true → c = ' ' := by
  have space : ∀ c ∈ " ".toList, Text.isBlank c = true → c = ' ' := by simp
  have description := (Text.fold_eq_self_iff.mp h.description).eq_space
  simp only [plainLine, String.toList_append, List.forall_mem_append, and_assoc]
  exact ⟨h.name.tidy.eq_space, space, h.load.isWord_word.tidy.eq_space, space,
    h.active.isWord_word.tidy.eq_space, space, h.sub.tidy.eq_space, space, description⟩

theorem eq_space_of_mem_markedLine (h : unit.Listable) :
    ∀ c ∈ unit.markedLine.toList, Text.isBlank c = true → c = ' ' := by
  have mark : ∀ c ∈ ("●" ++ " ").toList, Text.isBlank c = true → c = ' ' :=
    List.forall_mem_cons.mpr ⟨by decide, List.forall_mem_singleton.mpr fun _ => rfl⟩
  rw [markedLine, String.toList_append, List.forall_mem_append]
  exact ⟨mark, h.eq_space_of_mem_plainLine⟩

end Listable

end ManagedUnit

namespace Listing

/-! ## Lines that describe units -/

section Describes

variable {line : String} {unit : ManagedUnit}

theorem Describes.complete (h : Describes line unit) : Complete line := by
  obtain ⟨name, load, active, sub, rest, cols, -⟩ := h
  exact .inr (by simp [cols])

theorem Describes.not_blank (h : Describes line unit) : ¬ Blank line := by
  obtain ⟨name, load, active, sub, rest, cols, -⟩ := h
  intro blank
  rw [columns_of_blank blank] at cols
  cases cols

/-- What a line describes is listable, since the columns of a line are words. -/
theorem Describes.listable (h : Describes line unit) : unit.Listable := by
  obtain ⟨name, load, active, sub, rest, cols, rfl⟩ := h
  have words : ∀ word ∈ name :: load :: active :: sub :: rest, Text.IsWord word.toList := by
    rw [← cols]
    exact fun word => isWord_of_mem_columns
  simp only [List.forall_mem_cons] at words
  obtain ⟨hname, hload, hactive, hsub, hrest⟩ := words
  refine ⟨hname, LoadState.listed_ofWord hload, ActiveState.listed_ofWord hactive, hsub, ?_⟩
  rw [ManagedUnit.ofColumns_description, Text.fold, Text.words_joinWords hrest]

theorem listable_of_mem {ls : List String} (complete : ∀ line ∈ ls, Complete line) :
    ∀ u ∈ ls.filterMap unitOf?, u.Listable := by
  have described : List.Forall₂ (fun u line => u.Listable ∧ Describes line u)
      (ls.filterMap unitOf?) (ls.filter fun line => ¬ Blank line) :=
    (forall₂_describes complete).flip.imp fun u line (h : Describes line u) => ⟨h.listable, h⟩
  exact ((List.forall₂_and_left _ _).mp described).1

/-- A listable unit is described by its marked line, whatever its name. -/
theorem describes_markedLine (h : unit.Listable) : Describes unit.markedLine unit := by
  have mark : Text.words "●" = ["●"] := by decide +kernel
  refine ⟨_, _, _, _, Text.words unit.description, ?_, h.ofColumns_eq.symm⟩
  rw [columns, ManagedUnit.markedLine, Text.words_append_space, mark, h.words_plainLine]
  rfl

/-- A listable unit is described by its plain line exactly when its name is no mark. Otherwise the
columns move up by one, and the description loses a word or was empty. -/
theorem describes_plainLine_iff (h : unit.Listable) :
    Describes unit.plainLine unit ↔ isMark unit.name = false := by
  constructor
  · rintro ⟨name, load, active, sub, rest, cols, same⟩
    by_contra marked
    rw [columns, h.words_plainLine, dropMark, if_pos (by simpa using marked)] at cols
    have moved : Text.words unit.description = sub :: rest := congrArg (List.drop 3) cols
    have words : ∀ word ∈ rest, Text.IsWord word.toList := by
      intro word mem
      have mem : word ∈ Text.words unit.description := moved ▸ List.mem_cons_of_mem sub mem
      exact Text.isWord_of_mem_words mem
    have kept : Text.words unit.description = rest := by
      rw [same, ManagedUnit.ofColumns_description, Text.words_joinWords words]
    exact List.cons_ne_self sub rest (moved.symm.trans kept)
  · intro unmarked
    refine ⟨_, _, _, _, Text.words unit.description, ?_, h.ofColumns_eq.symm⟩
    rw [columns, h.words_plainLine, dropMark, if_neg (by simp [unmarked])]

end Describes

/-! ## Written units -/

def write (lineOf : ManagedUnit → String) (units : List ManagedUnit) : String :=
  String.join ((units.map lineOf).map (· ++ "\n"))

/-- A text without blank lines is read exactly as units that its lines describe one by one. -/
theorem read_eq_ok_iff_describes {text : String} {units : List ManagedUnit}
    (occupied : ∀ line ∈ Text.lines text, ¬ Blank line) :
    read text = .ok units ↔ List.Forall₂ Describes (Text.lines text) units := by
  have all : ((Text.lines text).filter fun line => ¬ Blank line) = Text.lines text :=
    List.filter_eq_self.mpr (by simpa using occupied)
  have described : (∀ line ∈ Text.lines text, Complete line) →
      List.Forall₂ Describes (Text.lines text) ((Text.lines text).filterMap unitOf?) := by
    intro complete
    have each := forall₂_describes complete
    rwa [all] at each
  rw [read_eq_ok_iff]
  constructor
  · rintro ⟨complete, rfl⟩
    exact described complete
  · intro each
    have complete : ∀ line ∈ Text.lines text, Complete line :=
      ((List.forall₂_and_left _ _).mp (each.imp fun _ _ h => ⟨h.complete, h⟩)).1
    exact ⟨complete, describes_rightUnique.forall₂ each (described complete)⟩

theorem lines_write {lineOf : ManagedUnit → String} {units : List ManagedUnit}
    (spaced : ∀ u ∈ units, ∀ c ∈ (lineOf u).toList, Text.isBlank c = true → c = ' ') :
    Text.lines (write lineOf units) = units.map lineOf :=
  Text.lines_join (List.forall_mem_map.mpr spaced)

/-- Written units are read back exactly when each of them is described by its line. -/
theorem read_write_iff {lineOf : ManagedUnit → String} {units : List ManagedUnit}
    (spaced : ∀ u ∈ units, ∀ c ∈ (lineOf u).toList, Text.isBlank c = true → c = ' ')
    (occupied : ∀ u ∈ units, ¬ Blank (lineOf u)) :
    read (write lineOf units) = .ok units ↔ ∀ u ∈ units, Describes (lineOf u) u := by
  have lines := lines_write spaced
  rw [read_eq_ok_iff_describes (by rw [lines]; exact List.forall_mem_map.mpr occupied), lines,
    List.forall₂_map_left_iff, List.forall₂_same]

theorem read_markedLine {units : List ManagedUnit} (listable : ∀ u ∈ units, u.Listable) :
    read (write ManagedUnit.markedLine units) = .ok units :=
  (read_write_iff (fun u mem => (listable u mem).eq_space_of_mem_markedLine)
    fun u mem => (describes_markedLine (listable u mem)).not_blank).mpr
      fun u mem => describes_markedLine (listable u mem)

/-- A list of units is that of a listing exactly when each of them is listable. Then it is read back
from the marked lines of its units, and from their plain lines exactly when no unit has the name of
a mark. -/
theorem read_iff_listable (units : List ManagedUnit) :
    ((∃ text, read text = .ok units) ↔ ∀ u ∈ units, u.Listable) ∧
      ((∀ u ∈ units, u.Listable) →
        read (write ManagedUnit.markedLine units) = .ok units ∧
          (read (write ManagedUnit.plainLine units) = .ok units ↔
            ∀ u ∈ units, u.name ≠ "●" ∧ u.name ≠ "*")) := by
  refine ⟨⟨?_, fun listable => ⟨_, read_markedLine listable⟩⟩, fun listable => ⟨?_, ?_⟩⟩
  · rintro ⟨text, accepted⟩ u mem
    obtain ⟨complete, rfl⟩ := read_eq_ok_iff.mp accepted
    exact listable_of_mem complete u mem
  · exact read_markedLine listable
  · rw [read_write_iff (fun u mem => (listable u mem).eq_space_of_mem_plainLine)
      (fun u mem => (listable u mem).not_blank_plainLine)]
    refine forall₂_congr fun u mem => ?_
    rw [describes_plainLine_iff (listable u mem)]
    simp [isMark]

/-- A unit that is named and described by marks is read back from its marked line. Its plain line
has one column less than it should, so it is read as another unit. -/
theorem read_iff_listable_of_marks :
    ∃ units : List ManagedUnit,
      units = [⟨"●", .other "●", .other "*", "●", "● b"⟩, ⟨"a", .masked, .failed, "x", ""⟩] ∧
      write ManagedUnit.markedLine units = "● ● ● * ● ● b\n● a masked failed x \n" ∧
      read (write ManagedUnit.markedLine units) = .ok units ∧
      read (write ManagedUnit.plainLine units) ≠ .ok units := by
  refine ⟨_, rfl, by decide +kernel, ?_⟩
  have listable : ∀ u ∈ [(⟨"●", .other "●", .other "*", "●", "● b"⟩ : ManagedUnit),
      ⟨"a", .masked, .failed, "x", ""⟩], u.Listable := by decide +kernel
  obtain ⟨-, back⟩ := read_iff_listable _
  obtain ⟨marked, plain⟩ := back listable
  exact ⟨marked, fun same => (plain.mp same _ List.mem_cons_self).1 rfl⟩

end Listing

end UnitHealth
