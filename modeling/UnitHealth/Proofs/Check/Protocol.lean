import UnitHealth.Check.Program
import UnitHealth.Proofs.Check.Course

/-!
# The protocol of a run

A run asks for programs in one fixed order: first the question for the version, and then, only when
that one succeeded, the question for the units. Both go to the program of the settings, and neither
is ever repeated. Without settings nothing is asked for at all.

The order comes from the evaluation, which is over any kind of manager. Its account is that of one
attempt to connect, followed by that of one enumeration where there is a manager to ask. So what
connecting and enumerating ask for appears once each, whatever it is.
-/

namespace UnitHealth.Check

/-! ## Evaluations -/

section Evaluation

variable {M : Type} (connect : Traced (Except ConnectError M))
  (listUnits : M → Traced (Except EnumerationError (List ManagedUnit))) (policy : Policy)

/-- What an evaluation asks for, and how it comes out. Units are judged only where connecting and
enumerating both came out well. -/
inductive Evaluates : List Invocation → Except EnumerationError Verdict → Prop where
  /-- Connecting failed, and nothing is enumerated. -/
  | unreachable {e : ConnectError} (failed : connect.result = .error e) :
      Evaluates connect.invocations (.ok .cannotConnect)
  /-- Enumerating failed. -/
  | unlisted {manager : M} {e : EnumerationError} (reached : connect.result = .ok manager)
      (failed : (listUnits manager).result = .error e) :
      Evaluates (connect.invocations ++ (listUnits manager).invocations) (.error e)
  /-- The units are judged. -/
  | judged {manager : M} {units : List ManagedUnit} (reached : connect.result = .ok manager)
      (listed : (listUnits manager).result = .ok units) :
      Evaluates (connect.invocations ++ (listUnits manager).invocations)
        (.ok (.ofUnits policy units))

theorem evaluates : Evaluates connect listUnits policy
    (evaluate connect listUnits policy).invocations (evaluate connect listUnits policy).result := by
  rw [invocations_evaluate, result_evaluate]
  cases reached : connect.result with
  | error e =>
      rw [List.append_nil]
      exact .unreachable reached
  | ok manager =>
      cases listed : (listUnits manager).result with
      | error e =>
          simp only [listed, Except.map]
          exact .unlisted reached listed
      | ok units =>
          simp only [listed, Except.map]
          exact .judged reached listed

/-- Where connecting and enumerating leave a mark, each mark is found once. -/
example : (evaluate (M := PUnit) ⟨[.invoke ⟨"connect", []⟩], .ok ⟨⟩⟩
    (fun _ => ⟨[.invoke ⟨"enumerate", []⟩], .ok []⟩) ⟨false⟩).invocations =
      [⟨"connect", []⟩, ⟨"enumerate", []⟩] := rfl

end Evaluation

/-! ## Runs -/

def versionCall (s : Settings) : Invocation :=
  ⟨s.systemctl, ["show", "--property=Version", "--value"]⟩

def unitsCall (s : Settings) : Invocation :=
  ⟨s.systemctl, ["list-units", "--all", "--full", "--plain", "--no-legend", "--no-pager"]⟩

/-- What a run has to ask for on a host, by its arguments, its configuration file and the reply to
the question for the version. -/
inductive Protocol (host : Host) (arguments : List String) : List Invocation → Prop where
  /-- The arguments are no request to run the check. -/
  | rejected {stop : CommandLine.Stop} (stopped : CommandLine.parse arguments = .error stop) :
      Protocol host arguments []
  /-- The configuration file that is named cannot be loaded. -/
  | unsettled {line : CommandLine} {path : String} {e : ConfigError}
      (asked : CommandLine.parse arguments = .ok line) (named : line.config = some path)
      (failed : FileConfig.load host path = .error e) :
      Protocol host arguments []
  /-- The service manager cannot be reached. -/
  | unreachable {line : CommandLine} {s : Settings}
      (asked : CommandLine.parse arguments = .ok line)
      (settled : Settings.resolve host line = .ok s) (failed : ¬ (s.versionReply host).Succeeds) :
      Protocol host arguments [versionCall s]
  /-- The service manager can be reached, whatever becomes of the question for the units. -/
  | reached {line : CommandLine} {s : Settings}
      (asked : CommandLine.parse arguments = .ok line)
      (settled : Settings.resolve host line = .ok s) (reached : (s.versionReply host).Succeeds) :
      Protocol host arguments [versionCall s, unitsCall s]

variable {host : Host} {line : CommandLine} {s : Settings}

theorem invocations_settings (host : Host) (line : CommandLine) :
    (settings host line).invocations = [] := by
  rw [settings]
  cases Settings.configOf host line with
  | error e => rfl
  | ok config => exact Traced.invocations_of_notes _ _

theorem invocations_examine (host : Host) (s : Settings) :
    (examine host s).invocations =
      versionCall s ::
        match Systemctl.versionOf s.systemctl (s.versionReply host) with
        | .error _ => []
        | .ok _ => [unitsCall s] := by
  -- Whatever the evaluation comes to, nothing is asked for after it.
  have account : (examine host s).invocations =
      (evaluate (Manager.connect host (.ofProgram s.systemctl)) (Manager.listUnits host)
        s.policy).invocations := by
    rw [examine, Traced.invocations_bind]
    split <;> simp
  rw [account, invocations_evaluate, Manager.invocations_connect, result_connect,
    Settings.versionReply]
  cases Systemctl.versionOf s.systemctl (host.spawn s.systemctl Systemctl.versionQuestion) <;> rfl

theorem invocations_run (host : Host) (line : CommandLine) :
    (run host line).invocations =
      match Settings.resolve host line with
      | .error _ => []
      | .ok s => (examine host s).invocations := by
  rw [run, Traced.invocations_bind, invocations_settings, result_settings, List.nil_append]
  cases Settings.resolve host line <;> rfl

theorem protocol_run {arguments : List String} (asked : CommandLine.parse arguments = .ok line)
    (host : Host) : Protocol host arguments (run host line).invocations := by
  rw [invocations_run]
  cases settled : Settings.resolve host line with
  | error e =>
      obtain ⟨path, named, e, failed⟩ := Settings.exists_resolve_eq_error_iff.mp ⟨e, settled⟩
      exact .unsettled asked named failed
  | ok s =>
      simp only [invocations_examine]
      cases answer : Systemctl.versionOf s.systemctl (s.versionReply host) with
      | error e =>
          exact .unreachable asked settled
            ((Systemctl.exists_versionOf_eq_error_iff s.systemctl).mp ⟨e, answer⟩)
      | ok version =>
          exact .reached asked settled
            ((Systemctl.exists_versionOf_eq_ok_iff s.systemctl).mp ⟨version, answer⟩)

theorem invocations_ofArguments {arguments : List String}
    (asked : CommandLine.parse arguments = .ok line) (host : Host) (logSetting : Option String) :
    (Transcript.ofArguments host arguments logSetting).invocations =
      (run host line).invocations := by
  rw [Transcript.ofArguments, asked]
  rfl

theorem Protocol.invocations_eq {arguments : List String} {calls : List Invocation}
    (h : Protocol host arguments calls) (logSetting : Option String) :
    (Transcript.ofArguments host arguments logSetting).invocations = calls := by
  cases h with
  | rejected stopped =>
      rw [Transcript.ofArguments, stopped]
      rfl
  | unsettled asked named failed =>
      obtain ⟨e, unsettled⟩ := Settings.exists_resolve_eq_error_iff.mpr ⟨_, named, _, failed⟩
      rw [invocations_ofArguments asked, invocations_run, unsettled]
  | @unreachable line s asked settled failed =>
      obtain ⟨e, answer⟩ := (Systemctl.exists_versionOf_eq_error_iff s.systemctl).mpr failed
      rw [invocations_ofArguments asked, invocations_run, settled]
      simp only [invocations_examine, answer]
  | @reached line s asked settled reached =>
      obtain ⟨version, answer⟩ := (Systemctl.exists_versionOf_eq_ok_iff s.systemctl).mpr reached
      rw [invocations_ofArguments asked, invocations_run, settled]
      simp only [invocations_examine, answer]

/-- The program asks for what the protocol says, whatever its log is set to: nothing without
settings, the question for the version alone when it does not succeed, and otherwise both questions,
one after the other. Likewise an evaluation connects once, enumerates once where connecting came out
well and never otherwise, and judges units only where both came out well. -/
theorem invocations_iff_protocol :
    (∀ host arguments logSetting calls,
      (Transcript.ofArguments host arguments logSetting).invocations = calls ↔
        Protocol host arguments calls) ∧
      ∀ (M : Type) (connect : Traced (Except ConnectError M))
        (listUnits : M → Traced (Except EnumerationError (List ManagedUnit))) (policy : Policy),
        Evaluates connect listUnits policy (evaluate connect listUnits policy).invocations
          (evaluate connect listUnits policy).result := by
  refine ⟨fun host arguments logSetting calls => ⟨?_, fun h => h.invocations_eq logSetting⟩,
    fun _ => evaluates⟩
  rintro rfl
  cases asked : CommandLine.parse arguments with
  | error stop =>
      rw [Transcript.ofArguments, asked]
      exact .rejected asked
  | ok line =>
      rw [invocations_ofArguments asked]
      exact protocol_run asked host

end UnitHealth.Check
