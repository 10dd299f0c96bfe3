import UnitHealth.Check.Run
import UnitHealth.Proofs.Listing.Counted
import UnitHealth.Proofs.Manager.Replies

/-!
# The course of a run

A run goes through its stages in one order, and each stage that fails decides the outcome. There
are four courses: the settings cannot be had, the service manager cannot be reached, the units
cannot be listed, or the units are judged. Every statement about the outcome of a run is a case
analysis over them, and needs to know neither how the stages are composed nor what they note.
-/

namespace UnitHealth

namespace Settings

def versionReply (s : Settings) (host : Host) : Reply :=
  host.spawn s.systemctl Systemctl.versionQuestion

def unitsReply (s : Settings) (host : Host) : Reply :=
  host.spawn s.systemctl Systemctl.unitsQuestion

/-- There are no settings exactly when a file is named and cannot be loaded, for the reason why it
cannot. -/
theorem resolve_eq_error_iff {host : Host} {line : CommandLine} {e : ConfigError} :
    resolve host line = .error e ↔
      ∃ path, line.config = some path ∧ FileConfig.load host path = .error e := by
  rw [resolve, configOf]
  cases line.config with
  | none => simp [Except.map]
  | some path =>
      cases loaded : FileConfig.load host path <;> simp [Except.map, loaded]

theorem exists_resolve_eq_error_iff {host : Host} {line : CommandLine} :
    (∃ e, resolve host line = .error e) ↔
      ∃ path, line.config = some path ∧ ∃ e, FileConfig.load host path = .error e := by
  simp only [resolve_eq_error_iff]
  exact ⟨fun ⟨e, path, named, failed⟩ => ⟨path, named, e, failed⟩,
    fun ⟨path, named, e, failed⟩ => ⟨e, path, named, failed⟩⟩

end Settings

namespace Check

/-- The outcomes that a run can come to, each with the stage that decides it. -/
inductive Course (host : Host) (line : CommandLine) : Except Fault Verdict → Prop where
  /-- The configuration file that is named cannot be loaded. -/
  | unsettled {e : ConfigError} (failed : Settings.resolve host line = .error e) :
      Course host line (.error (e.fault.within "Failed to load configuration"))
  /-- The service manager cannot be reached. -/
  | unreachable {s : Settings} {e : ConnectError} (settled : Settings.resolve host line = .ok s)
      (failed : Systemctl.versionOf s.systemctl (s.versionReply host) = .error e) :
      Course host line (.ok .cannotConnect)
  /-- The units cannot be listed. -/
  | unlisted {s : Settings} {version : String} {e : EnumerationError}
      (settled : Settings.resolve host line = .ok s)
      (reached : Systemctl.versionOf s.systemctl (s.versionReply host) = .ok version)
      (failed : Systemctl.unitsOf s.systemctl (s.unitsReply host) = .error e) :
      Course host line (.error (e.fault.within "Failed to enumerate systemd units"))
  /-- The units are judged. -/
  | judged {s : Settings} {version : String} {units : List ManagedUnit}
      (settled : Settings.resolve host line = .ok s)
      (reached : Systemctl.versionOf s.systemctl (s.versionReply host) = .ok version)
      (listed : Systemctl.unitsOf s.systemctl (s.unitsReply host) = .ok units) :
      Course host line (.ok (.ofUnits s.policy units))

theorem result_settings (host : Host) (line : CommandLine) :
    (settings host line).result =
      (Settings.resolve host line).mapError fun e =>
        e.fault.within "Failed to load configuration" := by
  rw [settings, Settings.resolve]
  cases Settings.configOf host line <;> rfl

theorem result_connect (host : Host) (program : String) :
    (Manager.connect host (.ofProgram program)).result =
      (Systemctl.versionOf program (host.spawn program Systemctl.versionQuestion)).map
        fun _ => ⟨.ofProgram program⟩ :=
  Manager.result_connect host (.ofProgram program)

theorem result_examine (host : Host) (s : Settings) :
    (examine host s).result =
      match Systemctl.versionOf s.systemctl (s.versionReply host) with
      | .error _ => .ok .cannotConnect
      | .ok _ =>
        match Systemctl.unitsOf s.systemctl (s.unitsReply host) with
        | .error e => .error (e.fault.within "Failed to enumerate systemd units")
        | .ok units => .ok (.ofUnits s.policy units) := by
  simp only [examine, Traced.result_bind, result_evaluate, result_connect, Settings.versionReply,
    Settings.unitsReply]
  cases Systemctl.versionOf s.systemctl (host.spawn s.systemctl Systemctl.versionQuestion) with
  | error e => rfl
  | ok version =>
      simp only [Except.map, Manager.result_listUnits, Systemctl.ofProgram, List.nil_append]
      cases Systemctl.unitsOf s.systemctl (host.spawn s.systemctl Systemctl.unitsQuestion) <;> rfl

theorem course_run (host : Host) (line : CommandLine) :
    Course host line (run host line).result := by
  rw [run, Traced.result_bind, result_settings]
  cases settled : Settings.resolve host line with
  | error e => exact .unsettled settled
  | ok s =>
      simp only [Except.mapError, result_examine]
      cases reached : Systemctl.versionOf s.systemctl (s.versionReply host) with
      | error e => exact .unreachable settled reached
      | ok version =>
          cases listed : Systemctl.unitsOf s.systemctl (s.unitsReply host) with
          | error e => exact .unlisted settled reached listed
          | ok units => exact .judged settled reached listed

theorem Course.result_run {host : Host} {line : CommandLine} {outcome : Except Fault Verdict}
    (h : Course host line outcome) : (run host line).result = outcome := by
  cases h with
  | unsettled failed => simp [run, result_settings, failed, Except.mapError]
  | unreachable settled failed =>
      simp [run, result_settings, settled, Except.mapError, result_examine, failed]
  | unlisted settled reached failed =>
      simp [run, result_settings, settled, Except.mapError, result_examine, reached, failed]
  | judged settled reached listed =>
      simp [run, result_settings, settled, Except.mapError, result_examine, reached, listed]

/-- Where both questions are answered, the units are judged by the counted lines. -/
theorem Course.of_lists {host : Host} {line : CommandLine} {s : Settings} {text : String}
    (settled : Settings.resolve host line = .ok s) (reached : (s.versionReply host).Succeeds)
    (lists : (s.unitsReply host).Lists text) :
    ∃ units, Course host line (.ok (.ofUnits s.policy units)) ∧
      failedServices s.policy units = Listing.countedNames s.policy text := by
  obtain ⟨version, reached⟩ := (Systemctl.exists_versionOf_eq_ok_iff s.systemctl).mpr reached
  have accepted := Listing.read_of_complete lists.complete
  have listed := (Systemctl.unitsOf_eq_ok_iff s.systemctl).mpr ⟨text, lists, accepted⟩
  exact ⟨_, .judged settled reached listed, Listing.failedServices_of_read accepted s.policy⟩

end Check

end UnitHealth
