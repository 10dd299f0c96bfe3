import UnitHealth.Check.Program
import UnitHealth.Proofs.Check.Course
import UnitHealth.Proofs.Listing.Counted

/-!
# How a run ends

A run that its arguments ask for ends in one of four ways, which its exit code and its standard
output tell apart. Each way has a cause of its own in the configuration file and the two replies,
and a cause speaks of octets and texts only.

The main statement is that a run is seen to end in one way exactly when the cause of that way is
there, and that it is seen to end in exactly one. In particular it is seen to be fine only when
both questions succeeded, the whole listing could be read, and no line of it counts.
-/

namespace UnitHealth

/-- The ways in which a run can end. -/
inductive Ending where
  /-- The check could not be run. -/
  | fault
  /-- The service manager could not be reached. -/
  | unreachable
  /-- No service has failed. -/
  | fine
  /-- Some service has failed. -/
  | failing
  deriving DecidableEq

namespace Ending

/-- What the exit code and the standard output show when a run ends in this way. -/
def Shown (t : Transcript) : Ending → Prop
  | fault => t.exitCode = 2 ∧
      ∃ rest, t.stdout = "CheckFailedUnits CRITICAL: Check failed to run: " ++ rest
  | unreachable => t.exitCode = 3 ∧
      t.stdout = "CheckFailedUnits UNKNOWN: Can not connect to systemd\n"
  | fine => t.exitCode = 0 ∧ t.stdout = "CheckFailedUnits OK: No failed service units\n"
  | failing => t.exitCode = 2 ∧
      ∃ rest, t.stdout = "CheckFailedUnits CRITICAL: Found failed service units: " ++ rest

/-- What has to be the case on a host for a run to end in this way. -/
def Due (host : Host) (line : CommandLine) : Ending → Prop
  | fault =>
      (∃ path, line.config = some path ∧ ∃ e, FileConfig.load host path = .error e) ∨
        ∃ s, Settings.resolve host line = .ok s ∧ (s.versionReply host).Succeeds ∧
          (s.unitsReply host).ListingFails
  | unreachable =>
      ∃ s, Settings.resolve host line = .ok s ∧ ¬ (s.versionReply host).Succeeds
  | fine =>
      ∃ s, Settings.resolve host line = .ok s ∧ (s.versionReply host).Succeeds ∧
        ∃ text, (s.unitsReply host).Lists text ∧
          ∀ l ∈ Text.lines text, ¬ Listing.Counted s.policy l
  | failing =>
      ∃ s, Settings.resolve host line = .ok s ∧ (s.versionReply host).Succeeds ∧
        ∃ text, (s.unitsReply host).Lists text ∧
          ∃ l ∈ Text.lines text, Listing.Counted s.policy l

/-- The two endings of one exit code differ in the first letter of the message. -/
theorem not_shown_fault_and_failing {t : Transcript} (h : fault.Shown t) (h' : failing.Shown t) :
    False := by
  obtain ⟨-, rest, out⟩ := h
  obtain ⟨-, rest', out'⟩ := h'
  have starts : "CheckFailedUnits CRITICAL: Check failed to run: ".toList <+: t.stdout.toList := by
    rw [out, String.toList_append]
    exact List.prefix_append _ _
  have starts' :
      "CheckFailedUnits CRITICAL: Found failed service units: ".toList <+: t.stdout.toList := by
    rw [out', String.toList_append]
    exact List.prefix_append _ _
  exact absurd (List.prefix_or_prefix_of_prefix starts starts') (by decide +kernel)

theorem Shown.unique {t : Transcript} {e e' : Ending} (h : e.Shown t) (h' : e'.Shown t) :
    e = e' := by
  cases e <;> cases e'
  case fault.fault | unreachable.unreachable | fine.fine | failing.failing => rfl
  case fault.failing => exact (not_shown_fault_and_failing h h').elim
  case failing.fault => exact (not_shown_fault_and_failing h' h).elim
  all_goals exact absurd (h.1.symm.trans h'.1) (by decide)

section Outcome

variable {filter : Filter} {t : Traced (Except Fault Verdict)}

/-- The printed line of a critical verdict begins with the check, the status and what the message
begins with. -/
theorem stdout_of_critical {lead rest : String}
    (h : Transcript.verdictOf t.result = ⟨.critical, lead ++ rest⟩) :
    (Transcript.ofRun filter t).stdout =
      "CheckFailedUnits CRITICAL: " ++ lead ++ (rest ++ "\n") := by
  rw [Transcript.ofRun, h, Verdict.line_mk]
  simp only [← String.append_assoc]
  rfl

theorem stdout_of_error {f : Fault} (h : t.result = .error f) :
    (Transcript.ofRun filter t).stdout =
      "CheckFailedUnits CRITICAL: Check failed to run: " ++ (Text.fold f.joined ++ "\n") := by
  rw [stdout_of_critical (by rw [h]; rfl)]
  rfl

theorem shown_of_error {f : Fault} (h : t.result = .error f) :
    fault.Shown (.ofRun filter t) := by
  refine ⟨?_, _, stdout_of_error h⟩
  rw [Transcript.ofRun, h]
  rfl

theorem shown_of_cannotConnect (h : t.result = .ok .cannotConnect) :
    unreachable.Shown (.ofRun filter t) := by
  rw [Shown, Transcript.ofRun, h]
  exact ⟨rfl, rfl⟩

/-- A verdict on units shows whether some service has failed. -/
theorem shown_of_ofUnits {policy : Policy} {units : List ManagedUnit}
    (h : t.result = .ok (.ofUnits policy units)) :
    (failedServices policy units = [] → fine.Shown (.ofRun filter t)) ∧
      (failedServices policy units ≠ [] → failing.Shown (.ofRun filter t)) := by
  rw [Verdict.ofUnits] at h
  cases names : failedServices policy units with
  | nil =>
      rw [names] at h
      refine ⟨fun _ => ?_, fun some => absurd rfl some⟩
      rw [Shown, Transcript.ofRun, h]
      exact ⟨rfl, rfl⟩
  | cons name others =>
      rw [names] at h
      refine ⟨fun none => absurd none (List.cons_ne_nil _ _), fun _ => ⟨?_, ?_⟩⟩
      · rw [Transcript.ofRun, h]
        rfl
      · refine ⟨Verdict.payload (name :: others) ++ "\n", ?_⟩
        rw [stdout_of_critical (by rw [h]; rfl)]
        rfl

end Outcome

variable {host : Host} {line : CommandLine}

theorem Due.shown {e : Ending} (h : e.Due host line) (filter : Filter) :
    e.Shown (.ofRun filter (Check.run host line)) := by
  cases e with
  | fault =>
      obtain unloaded | ⟨s, settled, reached, fails⟩ := h
      · obtain ⟨e, failed⟩ := Settings.exists_resolve_eq_error_iff.mpr unloaded
        exact shown_of_error (Check.Course.unsettled failed).result_run
      · obtain ⟨version, reached⟩ :=
          (Systemctl.exists_versionOf_eq_ok_iff s.systemctl).mpr reached
        obtain ⟨e, failed⟩ := (Systemctl.exists_unitsOf_eq_error_iff s.systemctl).mpr fails
        exact shown_of_error (Check.Course.unlisted settled reached failed).result_run
  | unreachable =>
      obtain ⟨s, settled, unreached⟩ := h
      obtain ⟨e, failed⟩ :=
        (Systemctl.exists_versionOf_eq_error_iff s.systemctl).mpr unreached
      exact shown_of_cannotConnect (Check.Course.unreachable settled failed).result_run
  | fine =>
      obtain ⟨s, settled, reached, text, lists, none⟩ := h
      obtain ⟨units, course, names⟩ := Check.Course.of_lists settled reached lists
      refine (shown_of_ofUnits course.result_run).1 ?_
      rw [names, Listing.countedNames_eq_nil_iff]
      exact none
  | failing =>
      obtain ⟨s, settled, reached, text, lists, l, mem, counted⟩ := h
      obtain ⟨units, course, names⟩ := Check.Course.of_lists settled reached lists
      refine (shown_of_ofUnits course.result_run).2 ?_
      rw [names, Ne, Listing.countedNames_eq_nil_iff]
      exact fun none => none l mem counted

theorem exists_due (host : Host) (line : CommandLine) : ∃ e : Ending, e.Due host line := by
  have course := Check.course_run host line
  generalize (Check.run host line).result = outcome at course
  cases course with
  | unsettled failed =>
      exact ⟨fault, .inl (Settings.exists_resolve_eq_error_iff.mp ⟨_, failed⟩)⟩
  | unreachable settled failed =>
      exact ⟨unreachable, _, settled,
        (Systemctl.exists_versionOf_eq_error_iff _).mp ⟨_, failed⟩⟩
  | unlisted settled reached failed =>
      exact ⟨fault, .inr ⟨_, settled, (Systemctl.exists_versionOf_eq_ok_iff _).mp ⟨_, reached⟩,
        (Systemctl.exists_unitsOf_eq_error_iff _).mp ⟨_, failed⟩⟩⟩
  | @judged s version units settled reached listed =>
      have success := (Systemctl.exists_versionOf_eq_ok_iff _).mp ⟨_, reached⟩
      obtain ⟨text, lists, -⟩ := (Systemctl.unitsOf_eq_ok_iff _).mp listed
      by_cases counted : ∃ l ∈ Text.lines text, Listing.Counted s.policy l
      · exact ⟨failing, s, settled, success, text, lists, counted⟩
      · push Not at counted
        exact ⟨fine, s, settled, success, text, lists, counted⟩

/-- A run that the arguments ask for is seen to end in one way exactly when the cause of that way
is there, and it is seen to end in exactly one. -/
theorem shown_iff_due {arguments : List String} (host : Host) (logSetting : Option String)
    (asked : CommandLine.parse arguments = .ok line) :
    (∀ e : Ending, e.Shown (.ofArguments host arguments logSetting) ↔ e.Due host line) ∧
      ∃! e : Ending, e.Shown (.ofArguments host arguments logSetting) := by
  rw [Transcript.ofArguments, asked]
  obtain ⟨e, due⟩ := exists_due host line
  have shown := due.shown (.ofEnvironment logSetting line.verbose)
  refine ⟨fun e' => ⟨fun shown' => ?_, fun due' => due'.shown _⟩, e, shown, ?_⟩
  · rwa [shown'.unique shown]
  · exact fun e' shown' => shown'.unique shown

/-- A run that excuses masked units is seen to be fine where a masked service has failed, and in
no other way. -/
theorem shown_fine_of_masked :
    ∃ host : Host,
      host = .answering (.ok ⟨some 0, Text.encode "a.service masked failed dead", []⟩) ∧
      CommandLine.parse ["-m"] = .ok ⟨true, none, none, false⟩ ∧
      ∀ e : Ending, e.Shown (.ofArguments host ["-m"] none) ↔ e = fine := by
  refine ⟨_, rfl, rfl, ?_⟩
  have quiet : ∀ l ∈ Text.lines "a.service masked failed dead",
      Listing.Complete l ∧ ¬ Listing.Counted ⟨true⟩ l := by decide +kernel
  obtain ⟨iff, e, shown, only⟩ := shown_iff_due
    (.answering (.ok ⟨some 0, Text.encode "a.service masked failed dead", []⟩)) none
    (show CommandLine.parse ["-m"] = .ok ⟨true, none, none, false⟩ from rfl)
  have shown_fine := (iff fine).mpr ⟨⟨⟨true⟩, "systemctl"⟩, rfl, ⟨_, rfl, rfl⟩, _,
    ⟨_, rfl, rfl, rfl, fun l mem => (quiet l mem).1⟩, fun l mem => (quiet l mem).2⟩
  intro e'
  constructor
  · intro shown'
    exact (only e' shown').trans (only fine shown_fine).symm
  · rintro rfl
    exact shown_fine

end Ending

end UnitHealth
