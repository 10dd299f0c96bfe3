import UnitHealth.Check.Program
import UnitHealth.Proofs.Check.Course
import UnitHealth.Proofs.Check.Ending
import UnitHealth.Proofs.Fault.Folding

/-!
# What the printed line does not show

Much of what reaches a run must not show on its line: how much is logged, what the client prints
besides its answer, and why the service manager cannot be reached. Two runs that differ in nothing
else print the same line and end with the same exit code.

The one text of the client that does show is its complaint about the question for the units. It is
folded with the rest of the fault, so only its words count, and trimming it first takes none away.
-/

namespace UnitHealth

/-! ## Runs that are to look alike -/

/-- The command line with a quiet log. -/
def CommandLine.quiet (line : CommandLine) : CommandLine :=
  { line with verbose := false }

/-- Two lists of arguments that ask for the same but for how much is logged. -/
def CommandLine.SameRequest (arguments arguments' : List String) : Prop :=
  (parse arguments).map quiet = (parse arguments').map quiet

/-- Two replies to the question for the units that are to look alike. -/
inductive Reply.Alike : Reply → Reply → Prop where
  /-- Both succeeded with the same output. -/
  | succeeded {output output' : Output} (success : output.code = some 0)
      (success' : output'.code = some 0) (stdout : output.stdout = output'.stdout) :
      Alike (.ok output) (.ok output')
  /-- Both ended with the same code other than zero, or without one, and complained in the same
  words. -/
  | refused {output output' : Output} (failed : output.code ≠ some 0)
      (code : output.code = output'.code)
      (complaint : Text.words (Text.decodeLossy output.stderr) =
        Text.words (Text.decodeLossy output'.stderr)) :
      Alike (.ok output) (.ok output')
  /-- Neither could be started, for reasons with the same wording. -/
  | unstarted {cause cause' : IoError} (wording : cause.message = cause'.message) :
      Alike (.error cause) (.error cause')

/-- Two hosts that are to look alike to a run with some settings: the service manager can be
reached on both or on neither, and where it can, the replies to the question for the units are
alike. -/
structure Settings.Alike (s : Settings) (host host' : Host) : Prop where
  version : (s.versionReply host).Succeeds ↔ (s.versionReply host').Succeeds
  units : (s.versionReply host).Succeeds → (s.unitsReply host).Alike (s.unitsReply host')

/-! ## Requests and settings -/

/-- The same request is turned down for the same reason, or asks for runs of which only the log can
differ. -/
theorem CommandLine.SameRequest.cases {arguments arguments' : List String}
    (h : SameRequest arguments arguments') :
    (∃ stop, parse arguments = .error stop ∧ parse arguments' = .error stop) ∨
      ∃ line line', parse arguments = .ok line ∧ parse arguments' = .ok line' ∧
        line.quiet = line'.quiet := by
  rw [SameRequest] at h
  generalize parse arguments = answer, parse arguments' = answer' at h ⊢
  cases answer with
  | error stop =>
      cases answer' with
      | error stop' =>
          obtain rfl := Except.error.inj h
          exact .inl ⟨stop, rfl, rfl⟩
      | ok line' => cases h
  | ok line =>
      cases answer' with
      | error stop' => cases h
      | ok line' => exact .inr ⟨line, line', rfl, rfl, Except.ok.inj h⟩

/-- Nothing of a command line but its log, and nothing of a host but the file that is named, can
differ without an effect on the settings. -/
theorem Settings.resolve_congr {host host' : Host} {line line' : CommandLine}
    (request : line.quiet = line'.quiet)
    (file : ∀ path, line.config = some path → host.file path = host'.file path) :
    resolve host line = resolve host' line' := by
  change resolve host line.quiet = resolve host' line'.quiet
  rw [← request, resolve, resolve, configOf, configOf]
  change ∀ path, line.quiet.config = some path → _ at file
  cases named : line.quiet.config with
  | none => rfl
  | some path => simp only [FileConfig.load, Host.fileText, file path named]

/-! ## Faults -/

namespace Fault

/-- The words of a complaint come last in the chain. -/
theorem words_joined_commandFailed (context : String) (code : Option Int) (stderr : String) :
    Text.words ((EnumerationError.commandFailed code stderr).fault.within context).joined =
      Text.words (context ++ ": " ++ "unit listing failed (exit " ++ exitText code ++ "):") ++
        Text.words stderr := by
  have split : ((EnumerationError.commandFailed code stderr).fault.within context).joined =
      context ++ ": " ++ "unit listing failed (exit " ++ exitText code ++ "):" ++ " " ++
        stderr := by
    have close : "):" ++ " " = "): " := by decide
    calc
      _ = context ++ ": " ++ ("unit listing failed (exit " ++ exitText code ++ "): " ++ stderr) :=
        rfl
      _ = _ := by simp only [← close, String.append_assoc]
  rw [split, Text.words_append_space]

end Fault

/-! ## Outcomes -/

/-- Alike replies give the same units, or faults with the same verdict. -/
theorem Reply.Alike.unitsOf {reply reply' : Reply} (h : reply.Alike reply') (program : String) :
    (∃ units, Systemctl.unitsOf program reply = .ok units ∧
        Systemctl.unitsOf program reply' = .ok units) ∨
      ∃ e e', Systemctl.unitsOf program reply = .error e ∧
        Systemctl.unitsOf program reply' = .error e' ∧
        ∀ context, (e.fault.within context).verdict = (e'.fault.within context).verdict := by
  cases h with
  | @succeeded output output' success success' stdout =>
      have left : Systemctl.unitsOf program (.ok output) =
          Systemctl.unitsOfOutput output'.stdout := by
        rw [Systemctl.unitsOf, if_pos (Output.succeeded_iff.mpr success), stdout]
      have right : Systemctl.unitsOf program (.ok output') =
          Systemctl.unitsOfOutput output'.stdout := by
        rw [Systemctl.unitsOf, if_pos (Output.succeeded_iff.mpr success')]
      rw [left, right]
      cases Systemctl.unitsOfOutput output'.stdout with
      | ok units => exact .inl ⟨units, rfl, rfl⟩
      | error e => exact .inr ⟨e, e, rfl, rfl, fun _ => rfl⟩
  | @refused output output' failed code complaint =>
      have failed' : output'.code ≠ some 0 := code ▸ failed
      refine .inr ⟨.commandFailed output.code (Text.trim (Text.decodeLossy output.stderr)),
        .commandFailed output'.code (Text.trim (Text.decodeLossy output'.stderr)),
        if_neg (mt Output.succeeded_iff.mp failed), if_neg (mt Output.succeeded_iff.mp failed'),
        fun context => Fault.verdict_eq_iff.mpr ?_⟩
      rw [Fault.words_joined_commandFailed, Fault.words_joined_commandFailed, Text.words_trim,
        Text.words_trim, code, complaint]
  | @unstarted cause cause' wording =>
      refine .inr ⟨.spawn program cause, .spawn program cause', rfl, rfl, fun context => ?_⟩
      have same : (EnumerationError.spawn program cause).fault =
          (EnumerationError.spawn program cause').fault :=
        congrArg (fun text => Fault.mk s!"failed to run {program}" [text]) wording
      rw [same]

namespace Check

/-- Runs with the same settings on hosts that are to look alike come to the same verdict. -/
theorem verdictOf_run_congr {host host' : Host} {line line' : CommandLine}
    (settings : Settings.resolve host line = Settings.resolve host' line')
    (alike : ∀ s, Settings.resolve host line = .ok s → s.Alike host host') :
    Transcript.verdictOf (run host line).result =
      Transcript.verdictOf (run host' line').result := by
  have course := course_run host line
  generalize (run host line).result = outcome at course ⊢
  cases course with
  | unsettled failed =>
      rw [(Course.unsettled (settings.symm.trans failed)).result_run]
  | @unreachable s e settled failed =>
      have unreached : ¬ (s.versionReply host').Succeeds :=
        mt (alike s settled).version.mpr
          ((Systemctl.exists_versionOf_eq_error_iff s.systemctl).mp ⟨e, failed⟩)
      obtain ⟨e', failed'⟩ := (Systemctl.exists_versionOf_eq_error_iff s.systemctl).mpr unreached
      rw [(Course.unreachable (settings.symm.trans settled) failed').result_run]
  | @unlisted s version e settled reached failed =>
      have success := (Systemctl.exists_versionOf_eq_ok_iff s.systemctl).mp ⟨version, reached⟩
      obtain ⟨version', reached'⟩ := (Systemctl.exists_versionOf_eq_ok_iff s.systemctl).mpr
        ((alike s settled).version.mp success)
      obtain ⟨units, listed, -⟩ | ⟨e₁, e', failed₁, failed', same⟩ :=
        ((alike s settled).units success).unitsOf s.systemctl
      · rw [failed] at listed
        cases listed
      · obtain rfl := Except.error.inj (failed.symm.trans failed₁)
        rw [(Course.unlisted (settings.symm.trans settled) reached' failed').result_run]
        exact same _
  | @judged s version units settled reached listed =>
      have success := (Systemctl.exists_versionOf_eq_ok_iff s.systemctl).mp ⟨version, reached⟩
      obtain ⟨version', reached'⟩ := (Systemctl.exists_versionOf_eq_ok_iff s.systemctl).mpr
        ((alike s settled).version.mp success)
      obtain ⟨units₁, listed₁, listed'⟩ | ⟨e, -, failed, -⟩ :=
        ((alike s settled).units success).unitsOf s.systemctl
      · obtain rfl := Except.ok.inj (listed.symm.trans listed₁)
        rw [(Course.judged (settings.symm.trans settled) reached' listed').result_run]
      · rw [listed] at failed
        cases failed

end Check

/-! ## Printed lines -/

/-- Two runs whose arguments, named file and replies are alike print the same and end with the same
exit code, whatever their logs are set to. Where the service manager cannot be reached, what they
print is fixed. -/
theorem printed_congr {arguments arguments' : List String} {host host' : Host}
    (request : CommandLine.SameRequest arguments arguments')
    (file : ∀ line path, CommandLine.parse arguments = .ok line → line.config = some path →
      host.file path = host'.file path)
    (alike : ∀ line s, CommandLine.parse arguments = .ok line →
      Settings.resolve host line = .ok s → s.Alike host host')
    (logSetting logSetting' : Option String) :
    (Transcript.ofArguments host arguments logSetting).stdout =
        (Transcript.ofArguments host' arguments' logSetting').stdout ∧
      (Transcript.ofArguments host arguments logSetting).exitCode =
        (Transcript.ofArguments host' arguments' logSetting').exitCode ∧
      ∀ line s, CommandLine.parse arguments = .ok line → Settings.resolve host line = .ok s →
        ¬ (s.versionReply host).Succeeds →
          (Transcript.ofArguments host arguments logSetting).stdout =
            "CheckFailedUnits UNKNOWN: Can not connect to systemd\n" := by
  obtain ⟨stop, stopped, stopped'⟩ | ⟨line, line', asked, asked', quiet⟩ := request.cases
  · rw [Transcript.ofArguments, Transcript.ofArguments, stopped, stopped']
    refine ⟨rfl, rfl, fun line s asked => ?_⟩
    cases asked
  · have settings := Settings.resolve_congr quiet (file line · asked)
    have same := Check.verdictOf_run_congr settings (alike line · asked)
    rw [Transcript.ofArguments, Transcript.ofArguments, asked, asked']
    refine ⟨congrArg (fun v : Verdict => v.line ++ "\n") same,
      congrArg Verdict.exitCode same, fun line₁ s asked₁ settled unreached => ?_⟩
    obtain rfl := Except.ok.inj asked₁
    obtain ⟨e, failed⟩ := (Systemctl.exists_versionOf_eq_error_iff s.systemctl).mpr unreached
    have course := Check.Course.unreachable settled failed
    exact (Ending.shown_of_cannotConnect course.result_run).2

/-- A complaint over several lines, a noisy client and a verbose log do not show. -/
theorem printed_congr_of_noise :
    ∃ host host' : Host,
      host = .answering (.ok ⟨some 4, [], Text.encode "no bus\n"⟩) ∧
      host' = ⟨host.file, fun _ question => .ok (if question = Systemctl.unitsQuestion then
        ⟨some 4, Text.encode "a.service", Text.encode "\tno\r\n bus"⟩
          else ⟨some 0, Text.encode "252", Text.encode "slow"⟩)⟩ ∧
      (Transcript.ofArguments host [] none).stdout =
        "CheckFailedUnits CRITICAL: Check failed to run: Failed to enumerate systemd units: " ++
          "unit listing failed (exit Some(4)): no bus\n" ∧
      (Transcript.ofArguments host [] none).stdout =
        (Transcript.ofArguments host' ["--verbose"] (some "trace")).stdout := by
  obtain ⟨host, host_eq⟩ : ∃ host : Host, host =
      .answering (.ok ⟨some 4, [], Text.encode "no bus\n"⟩) := ⟨_, rfl⟩
  obtain ⟨host', host'_eq⟩ : ∃ host' : Host, host' =
      ⟨host.file, fun _ question => .ok (if question = Systemctl.unitsQuestion then
        ⟨some 4, Text.encode "a.service", Text.encode "\tno\r\n bus"⟩
          else ⟨some 0, Text.encode "252", Text.encode "slow"⟩)⟩ := ⟨_, rfl⟩
  have request : CommandLine.SameRequest [] ["--verbose"] := rfl
  have alike : ∀ s : Settings, s.Alike host host' := by
    intro s
    subst host_eq host'_eq
    refine ⟨⟨fun _ => ⟨_, rfl, rfl⟩, fun _ => ⟨_, rfl, rfl⟩⟩, fun _ => ?_⟩
    exact .refused (by decide) rfl (by decide +kernel)
  refine ⟨host, host', host_eq, host'_eq, ?_, ?_⟩
  · rw [host_eq]
    decide +kernel
  · exact (printed_congr request (fun _ _ _ _ => by rw [host'_eq]) (fun _ s _ _ => alike s) none
      (some "trace")).1

end UnitHealth
