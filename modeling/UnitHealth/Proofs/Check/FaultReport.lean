import UnitHealth.Proofs.Check.Ending
import UnitHealth.Proofs.Check.Layers
import UnitHealth.Proofs.Manager.Enumeration

/-!
# Fault reports

A run that is a fault has one thing to blame: a stage that failed, what went wrong there, and mostly
a cause. The three make a chain, and the chain is shown twice, folded on the printed line and over
several lines on standard error. Nothing else is written there while the log is quiet, since a run
notes no event of the level that a quiet log still writes.

What went wrong is worded without the cause, so the chain has the cause once, after what it caused.
-/

namespace UnitHealth

/-! ## What is to blame -/

/-- What a fault is to be blamed on: the stage that failed, what went wrong there, and the cause
where there is one. -/
structure Blame where
  context : String
  message : String
  cause : Option String
  deriving DecidableEq

namespace Blame

/-- The texts of a blame, each of which is explained by the next. -/
def chain (b : Blame) : List String :=
  b.context :: b.message :: b.cause.toList

def fault (b : Blame) : Fault where
  text := b.context
  causes := b.message :: b.cause.toList

/-- The lines of a text with a margin before each but the first. -/
def indented (margin text : String) : String :=
  ("\n" ++ margin).intercalate ((text.toList.splitOn '\n').map String.ofList)

/-- The report on a blame. What went wrong and its cause are numbered, and what went wrong without a
cause stands alone. -/
def report (b : Blame) : String :=
  "Error: " ++ b.context ++ "\n\nCaused by:\n" ++
    match b.cause with
    | none => "    " ++ indented "    " b.message
    | some cause =>
      "    0: " ++ indented "       " b.message ++ "\n    1: " ++ indented "       " cause

theorem fault_injective : Function.Injective fault := by
  rintro ⟨context, message, cause⟩ ⟨context', message', cause'⟩ same
  obtain ⟨rfl, causes⟩ := Fault.mk.inj same
  obtain ⟨rfl, causes⟩ := List.cons.inj causes
  cases cause <;> cases cause' <;> simp_all

theorem joined_fault (b : Blame) : b.fault.joined = ": ".intercalate b.chain := rfl

theorem hang_eq_indented (margin text : String) :
    Fault.hang margin text = indented margin text := by
  rw [Fault.hang, Text.flatMap_eq_intercalate_splitOn, indented, ← String.toList_inj,
    String.toList_ofList, String.toList_intercalate, List.map_map]
  simp [Function.comp_def]

theorem report_fault (b : Blame) : b.fault.report = b.report := by
  obtain ⟨context, message, cause⟩ := b
  have first : Fault.label 0 = "    0: " := by decide +kernel
  have second : "\n" ++ Fault.label 1 = "\n    1: " := by decide +kernel
  cases cause with
  | none => simp [fault, report, Fault.report, Fault.causeLines, hang_eq_indented,
      String.append_assoc]
  | some cause =>
      simp only [fault, report, Fault.report, Fault.causeLines, Fault.numbered, hang_eq_indented,
        Option.toList_some, List.isEmpty_cons, String.intercalate_cons_cons,
        String.intercalate_singleton, ← second, first, String.append_assoc]
      rfl

end Blame

/-! ## Runs that are faults -/

namespace Check

/-- What a run on a host is to be blamed on, if on anything. -/
inductive Blames (host : Host) (line : CommandLine) : Blame → Prop where
  /-- The configuration file that is named cannot be read. -/
  | unreadable {path : String} {cause : IoError} (named : line.config = some path)
      (failed : host.fileText path = .error cause) :
      Blames host line ⟨"Failed to load configuration", "cannot read config file " ++ path,
        some cause.message⟩
  /-- The configuration file that is named is no configuration. -/
  | invalid {path text : String} {cause : FormatError} (named : line.config = some path)
      (read : host.fileText path = .ok text) (failed : FileConfig.parse text = .error cause) :
      Blames host line ⟨"Failed to load configuration", "invalid config file " ++ path,
        some cause.message⟩
  /-- The program could not be started again for the units. -/
  | unstarted {s : Settings} {cause : IoError} (settled : Settings.resolve host line = .ok s)
      (reached : (s.versionReply host).Succeeds) (failed : s.unitsReply host = .error cause) :
      Blames host line ⟨"Failed to enumerate systemd units", "failed to run " ++ s.systemctl,
        some cause.message⟩
  /-- The program ended badly. Its complaint is part of what went wrong and no cause. -/
  | ended {s : Settings} {code : Option Int} {complaint : String}
      (settled : Settings.resolve host line = .ok s) (reached : (s.versionReply host).Succeeds)
      (failed : (s.unitsReply host).Enumerates s.systemctl
        (.error (.commandFailed code complaint))) :
      Blames host line ⟨"Failed to enumerate systemd units",
        "unit listing failed (exit " ++ exitText code ++ "): " ++ complaint, none⟩
  /-- The units that the program gives are no listing. -/
  | malformed {s : Settings} {cause : MalformedOutput}
      (settled : Settings.resolve host line = .ok s) (reached : (s.versionReply host).Succeeds)
      (failed : (s.unitsReply host).Enumerates s.systemctl (.error (.malformed cause))) :
      Blames host line ⟨"Failed to enumerate systemd units", "malformed unit listing",
        some cause.message⟩

variable {host : Host} {line : CommandLine}

theorem Blames.result_run {b : Blame} (h : Blames host line b) :
    (run host line).result = .error b.fault := by
  cases h with
  | unreadable named failed =>
      have unloadable := FileConfig.load_eq_error_iff.mpr (.inl ⟨_, failed, rfl⟩)
      exact (Course.unsettled
        (Settings.resolve_eq_error_iff.mpr ⟨_, named, unloadable⟩)).result_run
  | invalid named read failed =>
      have unloadable := FileConfig.load_eq_error_iff.mpr (.inr ⟨_, _, read, failed, rfl⟩)
      exact (Course.unsettled
        (Settings.resolve_eq_error_iff.mpr ⟨_, named, unloadable⟩)).result_run
  | unstarted settled reached failed =>
      obtain ⟨version, answered⟩ := (Systemctl.exists_versionOf_eq_ok_iff _).mpr reached
      exact (Course.unlisted settled answered (by rw [failed]; rfl)).result_run
  | ended settled reached failed | malformed settled reached failed =>
      obtain ⟨version, answered⟩ := (Systemctl.exists_versionOf_eq_ok_iff _).mpr reached
      exact (Course.unlisted settled answered
        (Systemctl.unitsOf_eq_of_enumerates failed)).result_run

theorem exists_blames {f : Fault} (faulty : (run host line).result = .error f) :
    ∃ b, Blames host line b ∧ b.fault = f := by
  have course := course_run host line
  rw [faulty] at course
  cases course with
  | unsettled failed =>
      obtain ⟨path, named, failed⟩ := Settings.resolve_eq_error_iff.mp failed
      obtain ⟨cause, unread, rfl⟩ | ⟨text, cause, read, rejected, rfl⟩ :=
        FileConfig.load_eq_error_iff.mp failed
      · exact ⟨_, .unreadable named unread, rfl⟩
      · exact ⟨_, .invalid named read rejected, rfl⟩
  | @unlisted s version e settled reached failed =>
      have success := (Systemctl.exists_versionOf_eq_ok_iff _).mp ⟨version, reached⟩
      have enumerates := Systemctl.enumerates_unitsOf s.systemctl (s.unitsReply host)
      rw [failed] at enumerates
      cases e with
      | spawn program cause =>
          generalize answer : s.unitsReply host = reply at enumerates
          cases enumerates
          exact ⟨_, .unstarted settled success answer, rfl⟩
      | commandFailed code complaint =>
          exact ⟨_, .ended settled success enumerates, rfl⟩
      | malformed cause => exact ⟨_, .malformed settled success enumerates, rfl⟩

theorem Blames.unique {b b' : Blame} (h : Blames host line b) (h' : Blames host line b') :
    b = b' :=
  Blame.fault_injective (Except.error.inj (h.result_run.symm.trans h'.result_run))

theorem existsUnique_blames_iff :
    (∃! b, Blames host line b) ↔ ∃ f, (run host line).result = .error f := by
  constructor
  · rintro ⟨b, blames, -⟩
    exact ⟨b.fault, blames.result_run⟩
  · rintro ⟨f, faulty⟩
    obtain ⟨b, blames, -⟩ := exists_blames faulty
    exact ⟨b, blames, fun b' blames' => blames'.unique blames⟩

theorem shown_fault_iff (filter : Filter) :
    Ending.fault.Shown (.ofRun filter (run host line)) ↔
      ∃ f, (run host line).result = .error f := by
  refine ⟨fun shown => ?_, fun ⟨f, faulty⟩ => Ending.shown_of_error faulty⟩
  have course := course_run host line
  cases outcome : (run host line).result with
  | error f => exact ⟨f, rfl⟩
  | ok verdict =>
      rw [outcome] at course
      cases course with
      | unreachable settled failed =>
          cases shown.unique (Ending.shown_of_cannotConnect outcome)
      | @judged s version units settled reached listed =>
          by_cases none : failedServices s.policy units = []
          · cases shown.unique ((Ending.shown_of_ofUnits outcome).1 none)
          · cases shown.unique ((Ending.shown_of_ofUnits outcome).2 none)

end Check

/-! ## Standard error -/

/-- Two errors that differ in their cause at most. -/
inductive ConfigError.SameButCause : ConfigError → ConfigError → Prop where
  | unreadable (path : String) (cause cause' : IoError) :
      SameButCause (.unreadable path cause) (.unreadable path cause')
  | invalid (path : String) (cause cause' : FormatError) :
      SameButCause (.invalid path cause) (.invalid path cause')

/-- Two errors that differ in their cause at most. One that a bad end is reported by has none. -/
inductive EnumerationError.SameButCause : EnumerationError → EnumerationError → Prop where
  | spawn (program : String) (cause cause' : IoError) :
      SameButCause (.spawn program cause) (.spawn program cause')
  | commandFailed (code : Option Int) (stderr : String) :
      SameButCause (.commandFailed code stderr) (.commandFailed code stderr)
  | malformed (cause cause' : MalformedOutput) :
      SameButCause (.malformed cause) (.malformed cause')

namespace Transcript

theorem logText_of_quiet (events : List Event) :
    logText (.ofEnvironment none false) events = "" := by
  rw [logText,
    List.filter_eq_nil_iff.mpr fun e _ => Bool.eq_false_iff.mp (Filter.admits_of_quiet e)]
  rfl

/-- A quiet run leaves nothing on standard error but the report on its outcome. -/
theorem stderr_of_quiet {arguments : List String} {line : CommandLine} (host : Host)
    (asked : CommandLine.parse arguments = .ok line) (quiet : line.verbose = false) :
    (ofArguments host arguments none).stderr = reportOf (Check.run host line).result := by
  rw [ofArguments, asked]
  simp only [ofRun, quiet, logText_of_quiet, String.empty_append]

end Transcript

/-- A quiet run is silent on standard error unless it is a fault, and a fault has one blame. The
report on this blame is then all of standard error, and the folded texts of the same blame are the
message that is printed. What went wrong is worded alike whatever its cause is. -/
theorem stderr_of_blame {arguments : List String} {line : CommandLine} (host : Host)
    (asked : CommandLine.parse arguments = .ok line) (quiet : line.verbose = false) :
    (Ending.fault.Shown (.ofArguments host arguments none) ↔ ∃! b, Check.Blames host line b) ∧
      ((Transcript.ofArguments host arguments none).stderr = "" ↔
        ¬ Ending.fault.Shown (.ofArguments host arguments none)) ∧
      (∀ b, Check.Blames host line b →
        (Transcript.ofArguments host arguments none).stderr = b.report ++ "\n" ∧
        (Transcript.ofArguments host arguments none).stdout =
          "CheckFailedUnits CRITICAL: Check failed to run: " ++
            Text.fold (": ".intercalate b.chain) ++ "\n") ∧
      (∀ e e' : ConfigError, e.SameButCause e' → e.message = e'.message) ∧
      ∀ e e' : EnumerationError, e.SameButCause e' → e.message = e'.message := by
  have stderr := Transcript.stderr_of_quiet host asked quiet
  have shown : Ending.fault.Shown (.ofArguments host arguments none) ↔
      ∃ f, (Check.run host line).result = .error f := by
    rw [Transcript.ofArguments, asked]
    exact Check.shown_fault_iff _
  refine ⟨by rw [shown, Check.existsUnique_blames_iff], ?_, ?_, ?_, ?_⟩
  · rw [shown, stderr]
    cases (Check.run host line).result with
    | ok verdict => simp [Transcript.reportOf]
    | error f => simp [Transcript.reportOf]
  · intro b blames
    constructor
    · rw [stderr, blames.result_run, Transcript.reportOf, Blame.report_fault]
    · rw [Transcript.ofArguments, asked]
      simp only [Ending.stdout_of_error blames.result_run, Blame.joined_fault, String.append_assoc]
  · rintro _ _ (_ | _) <;> rfl
  · rintro _ _ (_ | _ | _) <;> rfl

/-- A program that is killed while it lists the units is a fault without a cause. Its complaint over
two lines is kept so on standard error, and folded on the printed line. -/
theorem stderr_of_blame_of_killed :
    ∃ host : Host, host = .answering (.ok ⟨none, [], Text.encode "no bus\n  here\n"⟩) ∧
      (Transcript.ofArguments host [] none).stderr =
        "Error: Failed to enumerate systemd units\n\nCaused by:\n" ++
          "    unit listing failed (exit None): no bus\n      here\n" ∧
      (Transcript.ofArguments host [] none).stdout =
        "CheckFailedUnits CRITICAL: Check failed to run: Failed to enumerate systemd units: " ++
          "unit listing failed (exit None): no bus here\n" := by
  obtain ⟨host, host_eq⟩ : ∃ host : Host, host =
      .answering (.ok ⟨none, [], Text.encode "no bus\n  here\n"⟩) := ⟨_, rfl⟩
  have settled : Settings.resolve host .empty = .ok ⟨⟨false⟩, "systemctl"⟩ := rfl
  have reached : (Settings.versionReply ⟨⟨false⟩, "systemctl"⟩ host).Succeeds := by
    rw [host_eq]
    exact ⟨_, rfl, rfl⟩
  have failed : (Settings.unitsReply ⟨⟨false⟩, "systemctl"⟩ host).Enumerates "systemctl"
      (.error (.commandFailed none "no bus\n  here")) := by
    rw [host_eq]
    exact .ended (by decide) (Reply.quoted_iff.mpr (by decide +kernel))
  obtain ⟨-, -, told, -⟩ := stderr_of_blame host CommandLine.parse_nil rfl
  obtain ⟨stderr, stdout⟩ := told _ (.ended settled reached failed)
  refine ⟨host, host_eq, stderr.trans ?_, stdout.trans ?_⟩
  · decide +kernel
  · decide +kernel

end UnitHealth
