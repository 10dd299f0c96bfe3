import Mathlib.Data.List.Flatten
import UnitHealth.Proofs.Check.Course
import UnitHealth.Proofs.FailedServices.Printed

/-!
# Excusing masked units

Asking for masked units to be excused changes what a run makes of a listing and nothing else. It
has no part in the settings but the policy, so the same program is asked the same questions, and a
run that comes to no listing comes to the same end.

Where there is a listing, the report without the excuse has the lines of all failed services. With
the excuse, those whose second column has a mask are dropped, and the others stay in their order. A
report that loses a name has another verdict: nothing is escaped in a message, but a name that is
gone leaves it shorter.
-/

namespace UnitHealth

/-! ## Masked lines -/

namespace Listing

def loadOf (line : String) : String :=
  (columns line).getD 1 ""

/-- Whether a mask occurs in the second column of a line. -/
def Masked (line : String) : Prop :=
  "masked".toList <:+: (loadOf line).toList

instance : DecidablePred Masked :=
  fun _ => inferInstanceAs (Decidable (_ <:+: _))

/-- The lines of a listing that name a failed service, masked or not, in order. -/
def failedLines (text : String) : List String :=
  (Text.lines text).filter fun line => Counted ⟨false⟩ line

/-- Where masked units are excused, the lines that count are those of failed services without a
mask. -/
theorem counted_lenient_iff {line : String} :
    Counted ⟨true⟩ line ↔ Counted ⟨false⟩ line ∧ ¬ Masked line := by
  rw [Counted, Counted, Masked, loadOf]
  rcases columns line with _ | ⟨name, _ | ⟨load, _ | ⟨active, _ | ⟨sub, rest⟩⟩⟩⟩
  case cons.cons.cons.cons => simp [Counts, and_assoc]
  all_goals simp [Counts]

theorem countedNames_strict (text : String) :
    countedNames ⟨false⟩ text = (failedLines text).map nameOf := rfl

theorem countedNames_lenient (text : String) :
    countedNames ⟨true⟩ text =
      ((failedLines text).filter fun line => ¬ Masked line).map nameOf := by
  rw [countedNames, failedLines, List.filter_filter]
  congr 1
  refine List.filter_congr fun line _ => ?_
  simp [counted_lenient_iff, and_comm]

end Listing

/-! ## Shorter reports -/

namespace Verdict

theorem payload_sublist {short long : List String} (h : short.Sublist long) :
    (payload short).toList.Sublist (payload long).toList := by
  rw [toList_payload, toList_payload]
  exact h.flatMap _

/-- A report that is part of another has its payload only if it is the whole. -/
theorem eq_of_payload_eq_of_sublist {short long : List String} (h : short.Sublist long)
    (same : payload short = payload long) : short = long := by
  induction h with
  | slnil => rfl
  | @cons short long name part _ =>
      have bound := (payload_sublist part).length_le
      rw [same] at bound
      simp [toList_payload] at bound
      omega
  | @cons_cons short long name part ih =>
      have chars := congrArg String.toList same
      rw [toList_payload, toList_payload, List.flatMap_cons, List.flatMap_cons,
        List.append_cancel_left_eq, ← toList_payload, ← toList_payload] at chars
      rw [ih (String.toList_injective chars)]

/-- Dropping a name from a report changes the verdict. -/
theorem ofNames_inj_of_sublist {short long : List String} (h : short.Sublist long) :
    ofNames short = ofNames long ↔ short = long := by
  refine ⟨fun same => ?_, fun same => same ▸ rfl⟩
  exact eq_of_payload_eq_of_sublist h (payload_eq_of_ofNames_eq same)

end Verdict

/-! ## The two reports on a listing -/

namespace Listing

/-- What excusing masked units does to the report and the verdict on the units of a listing. -/
structure Excused (text : String) (units : List ManagedUnit) : Prop where
  /-- Without the excuse, all failed lines are reported. -/
  strict : failedServices ⟨false⟩ units = (failedLines text).map nameOf
  /-- With it, those of them without a mask are. -/
  lenient : failedServices ⟨true⟩ units =
    ((failedLines text).filter fun line => ¬ Masked line).map nameOf
  /-- What is reported with the excuse is reported without it, in the same order. -/
  sublist : (failedServices ⟨true⟩ units).Sublist (failedServices ⟨false⟩ units)
  /-- A failed service without a mask stays in the report. -/
  kept : ∀ line ∈ failedLines text, ¬ Masked line → nameOf line ∈ failedServices ⟨true⟩ units
  /-- The excuse makes a critical verdict fine when there are failed lines and all have a mask. -/
  relieved : (Verdict.ofUnits ⟨false⟩ units).status = .critical ∧
      (Verdict.ofUnits ⟨true⟩ units).status = .ok ↔
    failedLines text ≠ [] ∧ ∀ line ∈ failedLines text, Masked line
  /-- It never makes a fine verdict critical. -/
  fine : (Verdict.ofUnits ⟨false⟩ units).status = .ok → (Verdict.ofUnits ⟨true⟩ units).status = .ok
  /-- It leaves the verdict as it is exactly when no failed line has a mask. -/
  verdict : Verdict.ofUnits ⟨true⟩ units = Verdict.ofUnits ⟨false⟩ units ↔
    ∀ line ∈ failedLines text, ¬ Masked line

theorem excused_of_read {text : String} {units : List ManagedUnit} (h : read text = .ok units) :
    Excused text units := by
  have strict := (failedServices_of_read h ⟨false⟩).trans (countedNames_strict text)
  have lenient := (failedServices_of_read h ⟨true⟩).trans (countedNames_lenient text)
  have sublist : (failedServices ⟨true⟩ units).Sublist (failedServices ⟨false⟩ units) := by
    rw [strict, lenient]
    exact List.filter_sublist.map nameOf
  refine ⟨strict, lenient, sublist, ?_, ?_, ?_, ?_⟩
  · intro line mem plain
    rw [lenient]
    exact List.mem_map_of_mem (List.mem_filter.mpr ⟨mem, by simpa using plain⟩)
  · simp only [Verdict.ofUnits, Verdict.ofNames_status_eq_critical, Verdict.ofNames_status_eq_ok,
      strict, lenient, ne_eq, List.map_eq_nil_iff, List.filter_eq_nil_iff, decide_eq_true_eq,
      not_not]
  · simp only [Verdict.ofUnits, Verdict.ofNames_status_eq_ok]
    intro none
    exact List.sublist_nil.mp (none ▸ sublist)
  · rw [Verdict.ofUnits, Verdict.ofUnits, Verdict.ofNames_inj_of_sublist sublist, strict, lenient]
    constructor
    · intro same
      have whole := congrArg List.length same
      rw [List.length_map, List.length_map] at whole
      simpa using List.filter_eq_self.mp (List.filter_sublist.eq_of_length whole)
    · intro plain
      rw [List.filter_eq_self.mpr (by simpa using plain)]

end Listing

/-! ## Runs -/

/-- Excusing masked units on the command line has no effect on the settings but on the policy. -/
theorem Settings.resolve_excusing {host : Host} {line : CommandLine} {s : Settings}
    (settled : resolve host line = .ok s) :
    resolve host { line with ignoreMasked := true } = .ok ⟨⟨true⟩, s.systemctl⟩ := by
  have config : configOf host { line with ignoreMasked := true } = configOf host line := rfl
  rw [resolve] at settled
  rw [resolve, config]
  cases loaded : configOf host line with
  | error e =>
      rw [loaded] at settled
      cases settled
  | ok file =>
      rw [loaded] at settled
      obtain rfl := Except.ok.inj settled
      rfl

namespace Check

/-- Runs that differ in whether masked units are excused come to the same fault, or both find no
service manager, or judge the same listing. In the last case the excuse drops from the report the
failed services with a mask and nothing else, so it can only make the verdict better, and leaves it
as it is exactly when there are none. -/
theorem results_of_excuse {host : Host} {line : CommandLine} {s : Settings}
    (settled : Settings.resolve host line = .ok s) (strict : s.policy.ignoreMasked = false) :
    (∃ f, (run host line).result = .error f ∧
        (run host { line with ignoreMasked := true }).result = .error f) ∨
      ((run host line).result = .ok .cannotConnect ∧
        (run host { line with ignoreMasked := true }).result = .ok .cannotConnect) ∨
      ∃ text units, (s.unitsReply host).Lists text ∧ Listing.read text = .ok units ∧
        (run host line).result = .ok (.ofUnits ⟨false⟩ units) ∧
        (run host { line with ignoreMasked := true }).result = .ok (.ofUnits ⟨true⟩ units) ∧
        Listing.Excused text units := by
  have lenient := Settings.resolve_excusing settled
  have course := course_run host line
  generalize (run host line).result = outcome at course ⊢
  cases course with
  | unsettled failed =>
      rw [settled] at failed
      cases failed
  | unreachable settled' failed =>
      obtain rfl := Except.ok.inj (settled.symm.trans settled')
      exact .inr (.inl ⟨rfl, (Course.unreachable lenient failed).result_run⟩)
  | unlisted settled' reached failed =>
      obtain rfl := Except.ok.inj (settled.symm.trans settled')
      exact .inl ⟨_, rfl, (Course.unlisted lenient reached failed).result_run⟩
  | @judged _ version units settled' reached listed =>
      obtain rfl := Except.ok.inj (settled.symm.trans settled')
      obtain ⟨text, lists, accepted⟩ := (Systemctl.unitsOf_eq_ok_iff s.systemctl).mp listed
      have policy : s.policy = ⟨false⟩ := congrArg Policy.mk strict
      exact .inr (.inr ⟨text, units, lists, accepted, by rw [policy],
        (Course.judged lenient reached listed).result_run, Listing.excused_of_read accepted⟩)

/-- The only failed service is masked, so the excuse makes the critical verdict fine. -/
theorem results_of_excuse_of_masked :
    ∃ host : Host,
      host = .answering (.ok ⟨some 0, Text.encode "a.service masked-runtime failed dead", []⟩) ∧
      ∃ v w, (run host .empty).result = .ok v ∧
        (run host { CommandLine.empty with ignoreMasked := true }).result = .ok w ∧
        v.status = .critical ∧ w.status = .ok := by
  obtain ⟨text, text_eq⟩ : ∃ text, text = "a.service masked-runtime failed dead" := ⟨_, rfl⟩
  obtain ⟨host, host_eq⟩ : ∃ host : Host, host = .answering (.ok ⟨some 0, Text.encode text, []⟩) :=
    ⟨_, rfl⟩
  refine ⟨host, text_eq ▸ host_eq, ?_⟩
  obtain ⟨s, s_eq⟩ : ∃ s : Settings, s = ⟨⟨false⟩, "systemctl"⟩ := ⟨_, rfl⟩
  have settled : Settings.resolve host .empty = .ok s := s_eq ▸ rfl
  have lists : (s.unitsReply host).Lists text := by
    subst host_eq text_eq s_eq
    exact ⟨_, rfl, rfl, rfl, by decide +kernel⟩
  have judged : (run host .empty).result =
      .ok ⟨.critical, "Found failed service units: a.service,"⟩ := by
    subst host_eq text_eq
    decide +kernel
  obtain ⟨f, fault, -⟩ | ⟨unreachable, -⟩ | ⟨text', units, lists', -, result, result', excused⟩ :=
    results_of_excuse settled (s_eq ▸ rfl)
  · rw [judged] at fault
    cases fault
  · rw [judged] at unreachable
    cases unreachable
  · obtain rfl := lists.unique lists'
    refine ⟨_, _, result, result', excused.relieved.mpr ?_⟩
    subst text_eq
    decide +kernel

end Check

end UnitHealth
