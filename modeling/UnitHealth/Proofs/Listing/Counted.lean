import Mathlib.Data.List.Forall2
import UnitHealth.FailedServices
import UnitHealth.Proofs.Listing.Rows

/-!
# Counted lines

A line counts against the check by three of its columns alone: `.service` occurs in the first,
`failed` in the third, and, where masked units are excused, `masked` does not occur in the second.
This reads the text of the listing and knows nothing of units and their states.

The main statement is that the verdict on the units of a listing is the verdict on its counted
lines. The names of these lines make the report, in the order of the lines. Two listings whose
lines agree in what is looked at have the same verdict, so nothing else in a listing matters.
-/

namespace UnitHealth.Listing

/-- Whether columns count against the check. -/
def Counts (policy : Policy) : List String → Prop
  | name :: load :: active :: _ :: _ =>
      ".service".toList <:+: name.toList ∧ "failed".toList <:+: active.toList ∧
        ¬ (policy.ignoreMasked = true ∧ "masked".toList <:+: load.toList)
  | _ => False

/-- Whether a line counts against the check. -/
def Counted (policy : Policy) (line : String) : Prop :=
  Counts policy (columns line)

instance (policy : Policy) : DecidablePred (Counts policy)
  | _ :: _ :: _ :: _ :: _ => inferInstanceAs (Decidable (_ ∧ _))
  | [] | [_] | [_, _] | [_, _, _] => inferInstanceAs (Decidable False)

instance (policy : Policy) : DecidablePred (Counted policy) :=
  fun line => inferInstanceAs (Decidable (Counts policy (columns line)))

def nameOf (line : String) : String :=
  (columns line).headD ""

/-- The first columns of the counted lines of a listing, in order. -/
def countedNames (policy : Policy) (text : String) : List String :=
  ((Text.lines text).filter fun line => Counted policy line).map nameOf

theorem countedNames_eq_nil_iff {policy : Policy} {text : String} :
    countedNames policy text = [] ↔ ∀ line ∈ Text.lines text, ¬ Counted policy line := by
  simp [countedNames]

theorem countedNames_ne_nil_iff {policy : Policy} {text : String} :
    countedNames policy text ≠ [] ↔ ∃ line ∈ Text.lines text, Counted policy line := by
  rw [Ne, countedNames_eq_nil_iff]
  push Not
  rfl

theorem isWord_of_mem_countedNames {policy : Policy} {text name : String}
    (h : name ∈ countedNames policy text) : Text.IsWord name.toList := by
  obtain ⟨line, mem, rfl⟩ := List.mem_map.mp h
  have counted : Counts policy (columns line) := of_decide_eq_true (List.mem_filter.mp mem).2
  rw [nameOf]
  cases cols : columns line with
  | nil => simp [cols, Counts] at counted
  | cons name others =>
      have mem : name ∈ columns line := by simp [cols]
      exact isWord_of_mem_columns mem

/-- The states of a unit keep of their columns what the check looks at. -/
theorem reports_ofColumns (policy : Policy) (name load active sub description : String)
    (rest : List String) :
    policy.reports (.ofColumns name load active sub description) = true ↔
      Counts policy (name :: load :: active :: sub :: rest) := by
  simp only [Policy.reports, Policy.excuses, ManagedUnit.isFailedService, ManagedUnit.isService,
    ManagedUnit.ofColumns_name, ManagedUnit.ofColumns_load, ManagedUnit.ofColumns_active,
    ActiveState.isFailed_ofWord, LoadState.isMasked_ofWord, Counts, ← Text.contains_iff]
  cases policy.ignoreMasked <;> simp [and_assoc]

/-- The report on the units of complete lines has the names of the counted lines. -/
theorem failedServices_filterMap (policy : Policy) {ls : List String}
    (h : ∀ line ∈ ls, Complete line) :
    failedServices policy (ls.filterMap unitOf?) =
      (ls.filter fun line => Counted policy line).map nameOf := by
  induction ls with
  | nil => rfl
  | cons line ls ih =>
      obtain ⟨complete, others⟩ := List.forall_mem_cons.mp h
      have tail := ih others
      rw [failedServices] at tail ⊢
      obtain ⟨-, row, cols⟩ | ⟨name, load, active, sub, rest, -, cols, row⟩ | ⟨short, -⟩ :=
        line_cases line
      · have idle : ¬ Counted policy line := by simp [Counted, cols, Counts]
        simp [unitOf?, row, Row.unit?, idle, tail]
      · have same := reports_ofColumns policy name load active sub (Text.joinWords rest) rest
        rw [← cols] at same
        by_cases counted : Counted policy line
        · simp [unitOf?, row, Row.unit?, same.mpr counted, counted, tail, nameOf, cols]
        · have silent := Bool.eq_false_iff.mpr (mt same.mp counted)
          simp [unitOf?, row, Row.unit?, silent, counted, tail]
      · exact absurd complete short

theorem failedServices_of_read {text : String} {units : List ManagedUnit}
    (h : read text = .ok units) (policy : Policy) :
    failedServices policy units = countedNames policy text := by
  obtain ⟨complete, rfl⟩ := read_eq_ok_iff.mp h
  exact failedServices_filterMap policy complete

/-! ## What is looked at -/

/-- Whether two lists of columns agree in all that the check looks at. -/
def Agree (policy : Policy) : List String → List String → Prop
  | name :: load :: active :: _ :: _, name' :: load' :: active' :: _ :: _ =>
      name' = name ∧ ("failed".toList <:+: active'.toList ↔ "failed".toList <:+: active.toList) ∧
        (policy.ignoreMasked = true →
          ("masked".toList <:+: load'.toList ↔ "masked".toList <:+: load.toList))
  | _, _ => False

/-- The columns of the lines that are not blank, in order. -/
def rows (text : String) : List (List String) :=
  ((Text.lines text).filter fun line => ¬ Blank line).map columns

theorem Agree.counts_iff {policy : Policy} {a b : List String} (h : Agree policy a b) :
    Counts policy b ↔ Counts policy a := by
  match a, b, h with
  | _ :: _ :: _ :: _ :: _, _ :: _ :: _ :: _ :: _, ⟨rfl, active, load⟩ =>
      simp only [Counts, active]
      refine and_congr_right fun _ => and_congr_right fun _ => not_congr ?_
      exact and_congr_right load

theorem Agree.headD_eq {policy : Policy} {a b : List String} (h : Agree policy a b) :
    b.headD "" = a.headD "" := by
  match a, b, h with
  | _ :: _ :: _ :: _ :: _, _ :: _ :: _ :: _ :: _, ⟨rfl, _, _⟩ => rfl

theorem Agree.four_le_length {policy : Policy} {a b : List String} (h : Agree policy a b) :
    4 ≤ b.length := by
  match a, b, h with
  | _ :: _ :: _ :: _ :: _, _ :: _ :: _ :: _ :: _, _ => simp

/-- The counted lines are among those that are not blank. -/
theorem countedNames_eq (policy : Policy) (text : String) :
    countedNames policy text =
      ((rows text).filter fun cols => Counts policy cols).map fun cols => cols.headD "" := by
  rw [countedNames, rows, List.filter_map, List.map_map, List.filter_filter]
  congr 1
  refine List.filter_congr fun line _ => Bool.eq_iff_iff.mpr ?_
  have unfolded : Counted policy line ↔ Counts policy (columns line) := Iff.rfl
  by_cases blank : Blank line
  · simp [unfolded, columns_of_blank blank, Counts]
  · simp [unfolded, blank]

theorem map_filter_counts_congr {policy : Policy} {rs rs' : List (List String)}
    (h : List.Forall₂ (Agree policy) rs rs') :
    ((rs'.filter fun cols => Counts policy cols).map fun cols => cols.headD "") =
      (rs.filter fun cols => Counts policy cols).map fun cols => cols.headD "" := by
  induction h with
  | nil => rfl
  | @cons cols cols' rs rs' agree _ ih =>
      by_cases counts : Counts policy cols
      · simp only [List.filter_cons, counts, agree.counts_iff.mpr counts, decide_true, ite_true,
          List.map_cons, agree.headD_eq, ih]
      · simpa [List.filter_cons, counts, mt agree.counts_iff.mp counts] using ih

theorem four_le_length_of_agree {policy : Policy} {rs rs' : List (List String)}
    (h : List.Forall₂ (Agree policy) rs rs') : ∀ cols ∈ rs', 4 ≤ cols.length := by
  induction h with
  | nil => simp
  | cons agree _ ih => exact List.forall_mem_cons.mpr ⟨agree.four_le_length, ih⟩

/-- A text whose rows agree with those of a listing has only complete lines. -/
theorem complete_of_agree {policy : Policy} {a b : String}
    (h : List.Forall₂ (Agree policy) (rows a) (rows b)) :
    ∀ line ∈ Text.lines b, Complete line := by
  intro line mem
  by_cases blank : Blank line
  · exact .inl blank
  · exact .inr (four_le_length_of_agree h (columns line)
      (List.mem_map_of_mem (List.mem_filter.mpr ⟨mem, by simpa using blank⟩)))

/-- The verdict on a listing is told by its counted lines: it is OK when there are none, and
otherwise critical with the first column of each, followed by a comma, in order. Nothing else in
the listing matters: a text whose rows agree with those of the listing is a listing with the same
verdict. -/
theorem verdict_of_listing {text : String} {units : List ManagedUnit}
    (accepted : read text = .ok units) (policy : Policy) :
    ((∀ line ∈ Text.lines text, ¬ Counted policy line) →
        Verdict.ofUnits policy units = ⟨.ok, "No failed service units"⟩) ∧
      ((∃ line ∈ Text.lines text, Counted policy line) →
        Verdict.ofUnits policy units = ⟨.critical, "Found failed service units: " ++
          String.join ((countedNames policy text).map (· ++ ","))⟩) ∧
      ∀ other, List.Forall₂ (Agree policy) (rows text) (rows other) →
        ∃ units', read other = .ok units' ∧
          Verdict.ofUnits policy units' = Verdict.ofUnits policy units := by
  have names := failedServices_of_read accepted policy
  refine ⟨?_, ?_, ?_⟩
  · intro none
    rw [Verdict.ofUnits, names, countedNames_eq_nil_iff.mpr none, Verdict.ofNames_nil]
  · rintro ⟨line, mem, counted⟩
    rw [Verdict.ofUnits, names]
    cases listed : countedNames policy text with
    | nil => exact absurd counted (countedNames_eq_nil_iff.mp listed line mem)
    | cons name others => rfl
  · intro other agree
    have accepted' := read_of_complete (complete_of_agree agree)
    refine ⟨_, accepted', ?_⟩
    rw [Verdict.ofUnits, Verdict.ofUnits, names, failedServices_of_read accepted' policy,
      countedNames_eq, countedNames_eq, map_filter_counts_congr agree]

/-- A marked line of a masked unit, and a listing that differs from it in everything that is not
looked at. -/
theorem verdict_of_marked_listing :
    ∃ units units',
      read "● a.service masked failed dead" = .ok units ∧
      read "\na.service ok xfailed on A\r\n" = .ok units' ∧
      Verdict.ofUnits ⟨false⟩ units = ⟨.critical, "Found failed service units: a.service,"⟩ ∧
      Verdict.ofUnits ⟨false⟩ units' = Verdict.ofUnits ⟨false⟩ units := by
  have left : rows "● a.service masked failed dead" =
      [["a.service", "masked", "failed", "dead"]] := by decide +kernel
  have right : rows "\na.service ok xfailed on A\r\n" =
      [["a.service", "ok", "xfailed", "on", "A"]] := by decide +kernel
  have names : countedNames ⟨false⟩ "● a.service masked failed dead" = ["a.service"] := by
    decide +kernel
  have agree : List.Forall₂ (Agree ⟨false⟩) [["a.service", "masked", "failed", "dead"]]
      [["a.service", "ok", "xfailed", "on", "A"]] :=
    .cons ⟨rfl, by decide +kernel, by simp⟩ .nil
  rw [← left, ← right] at agree
  have complete : ∀ line ∈ Text.lines "● a.service masked failed dead", Complete line := by
    decide +kernel
  have accepted := read_of_complete complete
  obtain ⟨-, critical, same⟩ := verdict_of_listing accepted ⟨false⟩
  obtain ⟨units', accepted', equal⟩ := same _ agree
  refine ⟨_, units', accepted, accepted', ?_, equal⟩
  rw [critical ⟨"● a.service masked failed dead", by decide +kernel, by decide +kernel⟩, names]
  rfl

end UnitHealth.Listing
