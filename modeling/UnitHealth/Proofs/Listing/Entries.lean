import UnitHealth.Check.Evaluate
import UnitHealth.Proofs.Listing.Counted
import UnitHealth.Proofs.Unit.States

/-!
# Log entries

An entry of the log is a level and a text. The entries on a listing are told by its lines: one for
each line of a failed service, which is reported or left out by its load column. They are those of
the events on its units.

A log can be read for the names that it reports. In the entries on a listing these are the names of
the counted lines, so what is left out in the log is what does not count.
-/

namespace UnitHealth

/-- An entry of the log: how much it matters, and its text before anything in it is escaped. -/
structure LogEntry where
  level : Level
  text : String
  deriving DecidableEq

namespace LogEntry

def line (e : LogEntry) : String :=
  e.level.label ++ " " ++ String.ofList (e.text.toList.flatMap Event.logged)

/-- The name that an entry reports, read from its text: the word after the lead. -/
def reportedName? (e : LogEntry) : Option String :=
  if "Failed unit ".toList <+: e.text.toList then (Text.words e.text)[2]? else none

/-- The name is read back, since it is a word and the parenthesis after it is no part of it. -/
theorem reportedName?_eq_some {level : Level} {name : String} (load sub : String)
    (isWord : Text.IsWord name.toList) :
    reportedName? ⟨level, "Failed unit " ++ name ++ " (load=" ++ load ++ ", sub=" ++ sub ++ ")"⟩ =
      some name := by
  have lead : "Failed unit" ++ " " = "Failed unit " := rfl
  have gap : " " ++ "(load=" = " (load=" := rfl
  have text : "Failed unit " ++ name ++ " (load=" ++ load ++ ", sub=" ++ sub ++ ")" =
      "Failed unit" ++ " " ++ (name ++ " " ++ ("(load=" ++ load ++ ", sub=" ++ sub ++ ")")) := by
    simp only [← lead, ← gap, String.append_assoc]
  have words : Text.words "Failed unit" = ["Failed", "unit"] := by decide +kernel
  have led : "Failed unit ".toList <+: ("Failed unit" ++ " " ++
      (name ++ " " ++ ("(load=" ++ load ++ ", sub=" ++ sub ++ ")"))).toList := by
    rw [String.toList_append]
    exact List.prefix_append _ _
  rw [text, reportedName?, if_pos led, Text.words_append_space, Text.words_append_space, words,
    isWord.words_eq]
  rfl

/-- An entry with another first letter reports nothing. -/
theorem reportedName?_eq_none {e : LogEntry} {lead rest : String} (text : e.text = lead ++ rest)
    (other : lead.toList.head?.any (· ≠ 'F') = true) : e.reportedName? = none := by
  refine if_neg fun led => ?_
  rw [text, String.toList_append] at led
  cases letters : lead.toList with
  | nil => simp [letters] at other
  | cons c cs =>
      have same : 'F' = c := by
        rw [letters] at led
        exact (List.cons_prefix_cons.mp led).1
      simp [letters, ← same] at other

end LogEntry

def Event.entry (e : Event) : LogEntry :=
  ⟨e.level, e.message⟩

/-! ## Entries on a listing -/

namespace Listing

/-- The word that the log has for a load column. -/
def loadWord (load : String) : String :=
  if Text.contains load "masked" then "masked" else load

/-- The entry on columns, if they are those of a failed service. -/
def entryOf? (policy : Policy) : List String → Option LogEntry
  | name :: load :: active :: sub :: rest =>
    if Counts ⟨false⟩ (name :: load :: active :: sub :: rest) then
      if policy.ignoreMasked && Text.contains load "masked" then
        some ⟨.debug, "Ignoring masked failed unit " ++ name⟩
      else
        some ⟨.debug, "Failed unit " ++ name ++ " (load=" ++ loadWord load ++ ", sub=" ++ sub ++
          ")"⟩
    else none
  | _ => none

/-- The entries on the failed services of a listing, line by line. -/
def entries (policy : Policy) (text : String) : List LogEntry :=
  (Text.lines text).filterMap fun line => entryOf? policy (columns line)

variable {policy : Policy}

/-- A failed service that is reported is one that is not excused. -/
theorem counts_iff {name load active sub : String} {rest : List String} :
    Counts policy (name :: load :: active :: sub :: rest) ↔
      Counts ⟨false⟩ (name :: load :: active :: sub :: rest) ∧
        ¬ (policy.ignoreMasked && Text.contains load "masked") = true := by
  rw [Bool.and_eq_true, Text.contains_iff]
  simp [Counts, and_assoc]

theorem map_entry_ofUnits_ofColumns (policy : Policy) (name load active sub : String)
    (rest : List String) (units : List ManagedUnit) :
    (Event.ofUnits policy
        (.ofColumns name load active sub (Text.joinWords rest) :: units)).map Event.entry =
      (entryOf? policy (name :: load :: active :: sub :: rest)).toList ++
        (Event.ofUnits policy units).map Event.entry := by
  have failed := reports_ofColumns ⟨false⟩ name load active sub (Text.joinWords rest) rest
  rw [Policy.reports, Policy.excuses_of_strict, Bool.not_false, Bool.and_true] at failed
  have excused : policy.excuses (.ofColumns name load active sub (Text.joinWords rest)) =
      (policy.ignoreMasked && Text.contains load "masked") := by
    rw [Policy.excuses, ManagedUnit.ofColumns_load, LoadState.isMasked_ofWord]
  have word : (LoadState.ofWord load).word = loadWord load := LoadState.word_ofWord load
  rw [entryOf?]
  by_cases counts : Counts ⟨false⟩ (name :: load :: active :: sub :: rest)
  · rw [if_pos counts, Event.ofUnits, List.filter_cons_of_pos (failed.mpr counts)]
    by_cases masked : (policy.ignoreMasked && Text.contains load "masked") = true
    · rw [if_pos masked, List.map_cons, excused, if_pos masked]
      rfl
    · rw [if_neg masked, List.map_cons, excused, if_neg masked, ← word]
      rfl
  · rw [if_neg counts, Event.ofUnits, List.filter_cons_of_neg (mt failed.mp counts)]
    rfl

theorem map_entry_ofUnits (policy : Policy) {ls : List String} (h : ∀ line ∈ ls, Complete line) :
    (Event.ofUnits policy (ls.filterMap unitOf?)).map Event.entry =
      ls.filterMap fun line => entryOf? policy (columns line) := by
  induction ls with
  | nil => rfl
  | cons line ls ih =>
      obtain ⟨complete, others⟩ := List.forall_mem_cons.mp h
      obtain ⟨-, row, cols⟩ | ⟨name, load, active, sub, rest, -, cols, row⟩ | ⟨short, -⟩ :=
        line_cases line
      · have no : unitOf? line = none := by rw [unitOf?, row, Row.unit?]
        rw [List.filterMap_cons_none no, ih others, List.filterMap_cons_none]
        rw [cols]
        rfl
      · have unit : unitOf? line =
            some (.ofColumns name load active sub (Text.joinWords rest)) := by
          rw [unitOf?, row, Row.unit?]
        rw [List.filterMap_cons_some unit, map_entry_ofUnits_ofColumns, ih others, ← cols,
          List.filterMap_cons]
        cases entryOf? policy (columns line) <;> rfl
      · exact absurd complete short

/-- There is a unit for each line that is not blank. -/
theorem length_filterMap_unitOf? {ls : List String} (h : ∀ line ∈ ls, Complete line) :
    (ls.filterMap unitOf?).length = ls.countP fun line => ¬ Blank line := by
  rw [List.length_filterMap_eq_countP]
  refine List.countP_congr fun line mem => ?_
  by_cases blank : Blank line
  · simp [unitOf?, Row.ofLine_of_blank blank, Row.unit?, blank]
  · obtain ⟨complete, -, cols⟩ | ⟨name, load, active, sub, rest, -, -, row⟩ | ⟨short, -⟩ :=
      line_cases line
    · have enough := complete.resolve_left blank
      simp [cols] at enough
    · simp [unitOf?, row, Row.unit?, blank]
    · exact absurd (h line mem) short

/-- The entry on columns reports the first exactly when they count. -/
theorem reportedName?_entryOf? (policy : Policy) (line : String) :
    (entryOf? policy (columns line)).bind LogEntry.reportedName? =
      if Counted policy line then some (nameOf line) else none := by
  match cols : columns line with
  | [] | [_] | [_, _] | [_, _, _] => simp [entryOf?, Counted, cols, Counts]
  | name :: load :: active :: sub :: rest =>
      have mem : name ∈ columns line := by simp [cols]
      have named : nameOf line = name := by rw [nameOf, cols, List.headD_cons]
      have counted : Counted policy line ↔
          Counts ⟨false⟩ (name :: load :: active :: sub :: rest) ∧
            ¬ (policy.ignoreMasked && Text.contains load "masked") = true := by
        rw [← counts_iff, ← cols]
        rfl
      rw [entryOf?]
      by_cases failed : Counts ⟨false⟩ (name :: load :: active :: sub :: rest)
      · by_cases masked : (policy.ignoreMasked && Text.contains load "masked") = true
        · rw [if_pos failed, if_pos masked, if_neg fun h => (counted.mp h).2 masked,
            Option.bind_some]
          exact LogEntry.reportedName?_eq_none rfl (by simp)
        · rw [if_pos failed, if_neg masked, if_pos (counted.mpr ⟨failed, masked⟩), named,
            Option.bind_some]
          exact LogEntry.reportedName?_eq_some _ _ (isWord_of_mem_columns mem)
      · rw [if_neg failed, if_neg fun h => failed (counted.mp h).1]
        rfl

theorem filterMap_reportedName?_entries (policy : Policy) (text : String) :
    (entries policy text).filterMap LogEntry.reportedName? = countedNames policy text := by
  rw [entries, List.filterMap_filterMap, countedNames, ← List.filterMap_eq_map',
    List.filterMap_filter]
  simp only [reportedName?_entryOf?, decide_eq_true_eq]

end Listing

end UnitHealth
