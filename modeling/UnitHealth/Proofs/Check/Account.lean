import UnitHealth.Proofs.Check.Ending
import UnitHealth.Proofs.Check.Layers
import UnitHealth.Proofs.FailedServices.Printed
import UnitHealth.Proofs.Listing.Entries
import UnitHealth.Proofs.Manager.Enumeration

/-!
# The account of a run

A run with a verbose log keeps an account of itself. The account says where the settings come from,
what was asked and how it was answered, which failed services the listing has, and how the check
came out. It stops where the run stops.

The account is told here by the configuration file, the two replies and the lines of the listing,
entry by entry, and compared with what the run notes. The names that it reports are those of the
printed message in the same order, so the log and the verdict cannot part.
-/

namespace UnitHealth

/-! ## Replies -/

/-- What a reply to the question for the version means. -/
inductive Reply.Answers (program : String) : Reply → Except ConnectError String → Prop where
  /-- The program could not be started. -/
  | unstarted (cause : IoError) : Answers program (.error cause) (.error (.spawn program cause))
  /-- The program ended with anything but exit code zero. -/
  | refused {output : Output} {complaint : String} (bad : output.code ≠ some 0)
      (quoted : Quoted output.stderr complaint) :
      Answers program (.ok output) (.error (.refused program output.code complaint))
  /-- The program gave the version. -/
  | reached {output : Output} {version : String} (success : output.code = some 0)
      (quoted : Quoted output.stdout version) : Answers program (.ok output) (.ok version)

namespace Systemctl

theorem answers_versionOf (program : String) (reply : Reply) :
    reply.Answers program (versionOf program reply) := by
  cases reply with
  | error cause => exact .unstarted cause
  | ok output =>
      by_cases success : output.code = some 0
      · rw [versionOf, if_pos (Output.succeeded_iff.mpr success)]
        exact .reached success (Reply.quoted_iff.mpr rfl)
      · rw [versionOf, if_neg (mt Output.succeeded_iff.mp success)]
        exact .refused success (Reply.quoted_iff.mpr rfl)

theorem versionOf_eq_of_answers {program : String} {reply : Reply}
    {r : Except ConnectError String} (h : reply.Answers program r) :
    versionOf program reply = r := by
  cases h with
  | unstarted cause => rfl
  | refused bad quoted =>
      rw [versionOf, if_neg (mt Output.succeeded_iff.mp bad), Reply.quoted_iff.mp quoted]
  | reached success quoted =>
      rw [versionOf, if_pos (Output.succeeded_iff.mpr success), Reply.quoted_iff.mp quoted]

end Systemctl

namespace Reply

variable {program : String} {reply : Reply}

theorem Answers.succeeds {version : String} (h : reply.Answers program (.ok version)) :
    reply.Succeeds :=
  (Systemctl.exists_versionOf_eq_ok_iff program).mp
    ⟨version, Systemctl.versionOf_eq_of_answers h⟩

theorem Succeeds.exists_answers (h : reply.Succeeds) (program : String) :
    ∃ version, reply.Answers program (.ok version) := by
  obtain ⟨version, reached⟩ := (Systemctl.exists_versionOf_eq_ok_iff program).mpr h
  exact ⟨version, reached ▸ Systemctl.answers_versionOf program reply⟩

end Reply

/-! ## Runs -/

namespace Check

/-- The entries before the service manager has answered. -/
def opening (line : CommandLine) (file : FileConfig) (s : Settings) : List LogEntry :=
  (line.config.toList.map fun path =>
      ⟨.debug, "Loaded config from " ++ path ++ ": " ++ file.summary⟩) ++
    [⟨.debug, "Connecting to service manager via " ++ s.systemctl⟩]

/-- The entry on a service manager that has answered. -/
def greeting (version : String) : LogEntry :=
  ⟨.debug, "Connected to service manager (version " ++ version ++ ")"⟩

/-- The entries on a listing. -/
def findings (policy : Policy) (text : String) : List LogEntry :=
  ⟨.debug, "Enumerated " ++
    toString ((Text.lines text).countP fun line => ¬ Listing.Blank line) ++ " units"⟩ ::
      Listing.entries policy text

/-- The log that a run has to keep on a host, with the way in which the run ends. -/
inductive Account (host : Host) (line : CommandLine) : List LogEntry → Ending → Prop where
  /-- The configuration file that is named cannot be loaded, and nothing is logged. -/
  | unsettled {path : String} {e : ConfigError} (named : line.config = some path)
      (failed : FileConfig.load host path = .error e) : Account host line [] .fault
  /-- The service manager cannot be reached. -/
  | unreachable {file : FileConfig} {s : Settings} {e : ConnectError}
      (below : FileConfig.Below host line.config file)
      (settled : Settings.resolve host line = .ok s)
      (failed : (s.versionReply host).Answers s.systemctl (.error e)) :
      Account host line
        (opening line file s ++ [⟨.warn, "Service manager connection failed: " ++ e.message⟩])
        .unreachable
  /-- The units cannot be listed, which the log leaves to the report. -/
  | unlisted {file : FileConfig} {s : Settings} {version : String}
      (below : FileConfig.Below host line.config file)
      (settled : Settings.resolve host line = .ok s)
      (reached : (s.versionReply host).Answers s.systemctl (.ok version))
      (fails : (s.unitsReply host).ListingFails) :
      Account host line (opening line file s ++ [greeting version]) .fault
  /-- No line of the listing counts. -/
  | fine {file : FileConfig} {s : Settings} {version text : String}
      (below : FileConfig.Below host line.config file)
      (settled : Settings.resolve host line = .ok s)
      (reached : (s.versionReply host).Answers s.systemctl (.ok version))
      (lists : (s.unitsReply host).Lists text)
      (none : ∀ l ∈ Text.lines text, ¬ Listing.Counted s.policy l) :
      Account host line
        (opening line file s ++ greeting version :: findings s.policy text ++
          [⟨.info, "Check result: OK"⟩])
        .fine
  /-- Some line of the listing counts. -/
  | failing {file : FileConfig} {s : Settings} {version text : String}
      (below : FileConfig.Below host line.config file)
      (settled : Settings.resolve host line = .ok s)
      (reached : (s.versionReply host).Answers s.systemctl (.ok version))
      (lists : (s.unitsReply host).Lists text)
      (some : ∃ l ∈ Text.lines text, Listing.Counted s.policy l) :
      Account host line
        (opening line file s ++ greeting version :: findings s.policy text ++
          [⟨.info, "Check result: CRITICAL"⟩])
        .failing

variable {host : Host} {line : CommandLine} {file : FileConfig} {s : Settings}

theorem events_examine (host : Host) (s : Settings) :
    (examine host s).events = .connecting s.systemctl ::
      match Systemctl.versionOf s.systemctl (s.versionReply host) with
      | .error e => [.connectionFailed e]
      | .ok version => .connected version ::
        match Systemctl.unitsOf s.systemctl (s.unitsReply host) with
        | .error _ => []
        | .ok units => .enumerated units.length ::
          (Event.ofUnits s.policy units ++ [.decided (Verdict.ofUnits s.policy units).status]) := by
  -- Whatever the evaluation comes to, nothing is noted after it.
  have account : (examine host s).events =
      (evaluate (Manager.connect host (.ofProgram s.systemctl)) (Manager.listUnits host)
        s.policy).events := by
    rw [examine, Traced.events_bind]
    split <;> simp
  rw [account, events_evaluate, Manager.events_connect, result_connect, Settings.versionReply,
    Settings.unitsReply]
  simp only [Systemctl.ofProgram, List.nil_append]
  cases Systemctl.versionOf s.systemctl (host.spawn s.systemctl Systemctl.versionQuestion) with
  | error e => rfl
  | ok version =>
      simp only [Except.map, Manager.events_listUnits, Manager.result_listUnits, List.nil_append]
      rfl

/-- A run with settings notes the file that they come from, and then what it examines. -/
theorem events_run (below : FileConfig.Below host line.config file)
    (settled : Settings.resolve host line = .ok s) :
    (run host line).events = configEvents line file ++ (examine host s).events := by
  have config := Settings.configOf_eq_ok_iff.mpr below
  rw [Settings.resolve, config] at settled
  obtain rfl := Except.ok.inj settled
  rw [run, Traced.events_bind, settings, config]
  exact congrArg (· ++ _) (Traced.events_of_notes _ _)

theorem opening_eq (line : CommandLine) (file : FileConfig) (s : Settings) :
    opening line file s =
      (configEvents line file).map Event.entry ++ [Event.entry (.connecting s.systemctl)] := by
  rw [configEvents, opening]
  cases line.config <;> rfl

/-- The log of a run that judges a listing. -/
theorem map_entry_events_of_lists {version text : String}
    (below : FileConfig.Below host line.config file) (settled : Settings.resolve host line = .ok s)
    (reached : (s.versionReply host).Answers s.systemctl (.ok version))
    (lists : (s.unitsReply host).Lists text) :
    (run host line).events.map Event.entry =
      opening line file s ++ greeting version :: findings s.policy text ++
        [⟨.info, "Check result: " ++
          (Verdict.ofNames (Listing.countedNames s.policy text)).status.word⟩] := by
  have accepted := Listing.read_of_complete lists.complete
  have listed := (Systemctl.unitsOf_eq_ok_iff s.systemctl).mpr ⟨text, lists, accepted⟩
  rw [events_run below settled, events_examine, Systemctl.versionOf_eq_of_answers reached, listed,
    opening_eq, findings, ← Listing.length_filterMap_unitOf? lists.complete, Listing.entries,
    ← Listing.map_entry_ofUnits s.policy lists.complete,
    ← Listing.failedServices_of_read accepted s.policy]
  simp only [List.map_append, List.map_cons, List.append_assoc, List.cons_append, List.nil_append]
  rfl

theorem Account.map_entry_events {log : List LogEntry} {ending : Ending}
    (h : Account host line log ending) : (run host line).events.map Event.entry = log := by
  cases h with
  | @unsettled path e named failed =>
      have config : Settings.configOf host line = .error e := by
        rw [Settings.configOf, named]
        exact failed
      rw [run, Traced.events_bind, settings, config]
      rfl
  | unreachable below settled failed =>
      rw [events_run below settled, events_examine, Systemctl.versionOf_eq_of_answers failed,
        opening_eq, List.map_append, List.append_assoc]
      rfl
  | unlisted below settled reached fails =>
      obtain ⟨e, failed⟩ := (Systemctl.exists_unitsOf_eq_error_iff _).mpr fails
      rw [events_run below settled, events_examine, Systemctl.versionOf_eq_of_answers reached,
        failed, opening_eq, List.map_append, List.append_assoc]
      rfl
  | fine below settled reached lists none =>
      rw [map_entry_events_of_lists below settled reached lists,
        Listing.countedNames_eq_nil_iff.mpr none]
      rfl
  | failing below settled reached lists some =>
      have counted := Listing.countedNames_ne_nil_iff.mpr some
      rw [map_entry_events_of_lists below settled reached lists,
        Verdict.ofNames_status_eq_critical.mpr counted]
      rfl

theorem Account.due {log : List LogEntry} {ending : Ending} (h : Account host line log ending) :
    ending.Due host line := by
  cases h with
  | unsettled named failed => exact .inl ⟨_, named, _, failed⟩
  | unreachable below settled failed =>
      exact ⟨_, settled, (Systemctl.exists_versionOf_eq_error_iff _).mp
        ⟨_, Systemctl.versionOf_eq_of_answers failed⟩⟩
  | unlisted below settled reached fails =>
      exact .inr ⟨_, settled, reached.succeeds, fails⟩
  | fine below settled reached lists none =>
      exact ⟨_, settled, reached.succeeds, _, lists, none⟩
  | failing below settled reached lists some =>
      exact ⟨_, settled, reached.succeeds, _, lists, some⟩

theorem exists_account {ending : Ending} (due : ending.Due host line) :
    ∃ log, Account host line log ending := by
  cases ending with
  | fault =>
      obtain ⟨path, named, e, failed⟩ | ⟨s, settled, success, fails⟩ := due
      · exact ⟨_, .unsettled named failed⟩
      · obtain ⟨file, below, -⟩ := Settings.resolve_eq_ok_iff.mp settled
        obtain ⟨version, reached⟩ := success.exists_answers s.systemctl
        exact ⟨_, .unlisted below settled reached fails⟩
  | unreachable =>
      obtain ⟨s, settled, failure⟩ := due
      obtain ⟨file, below, -⟩ := Settings.resolve_eq_ok_iff.mp settled
      obtain ⟨e, failed⟩ := (Systemctl.exists_versionOf_eq_error_iff s.systemctl).mpr failure
      exact ⟨_, .unreachable below settled (failed ▸ Systemctl.answers_versionOf _ _)⟩
  | fine =>
      obtain ⟨s, settled, success, text, lists, none⟩ := due
      obtain ⟨file, below, -⟩ := Settings.resolve_eq_ok_iff.mp settled
      obtain ⟨version, reached⟩ := success.exists_answers s.systemctl
      exact ⟨_, .fine below settled reached lists none⟩
  | failing =>
      obtain ⟨s, settled, success, text, lists, some⟩ := due
      obtain ⟨file, below, -⟩ := Settings.resolve_eq_ok_iff.mp settled
      obtain ⟨version, reached⟩ := success.exists_answers s.systemctl
      exact ⟨_, .failing below settled reached lists some⟩

/-! ## Names -/

theorem reported_opening (line : CommandLine) (file : FileConfig) (s : Settings) :
    (opening line file s).filterMap LogEntry.reportedName? = [] := by
  refine List.filterMap_eq_nil_iff.mpr fun e mem => ?_
  rw [opening, List.mem_append, List.mem_map, List.mem_singleton] at mem
  obtain ⟨path, -, rfl⟩ | rfl := mem
  · exact LogEntry.reportedName?_eq_none (String.append_assoc.trans String.append_assoc) (by simp)
  · exact LogEntry.reportedName?_eq_none rfl (by simp)

theorem reportedName?_greeting (version : String) : (greeting version).reportedName? = none :=
  LogEntry.reportedName?_eq_none String.append_assoc (by simp)

/-- Around the entries on a listing, no entry reports a name. -/
theorem reported_of_lists (line : CommandLine) (file : FileConfig) (s : Settings)
    (version text : String) {last : LogEntry} (silent : last.reportedName? = none) :
    (opening line file s ++ greeting version :: findings s.policy text ++ [last]).filterMap
      LogEntry.reportedName? = Listing.countedNames s.policy text := by
  rw [← Listing.filterMap_reportedName?_entries, List.filterMap_append, List.filterMap_append,
    reported_opening, List.filterMap_cons_none (reportedName?_greeting version), findings,
    List.filterMap_cons_none, List.filterMap_cons_none silent, List.filterMap_nil,
    List.append_nil, List.nil_append]
  exact LogEntry.reportedName?_eq_none String.append_assoc (by simp)

/-- The names in the account of a run are those of the counted lines, if it comes to a listing. -/
theorem Account.reported {log : List LogEntry} {ending : Ending}
    (h : Account host line log ending) (filter : Filter) :
    (log.filterMap LogEntry.reportedName? = [] ↔ ending ≠ .failing) ∧
      (ending = .failing → (Transcript.ofRun filter (run host line)).stdout =
        "CheckFailedUnits CRITICAL: Found failed service units: " ++
          String.join ((log.filterMap LogEntry.reportedName?).map (· ++ ",")) ++ "\n") := by
  cases h with
  | unsettled named failed => simp
  | unreachable below settled failed =>
      rw [List.filterMap_append, reported_opening, List.filterMap_cons_none]
      · simp
      · exact LogEntry.reportedName?_eq_none rfl (by simp)
  | unlisted below settled reached fails =>
      rw [List.filterMap_append, reported_opening,
        List.filterMap_cons_none (reportedName?_greeting _)]
      simp
  | fine below settled reached lists none =>
      rw [reported_of_lists _ _ _ _ _
        (LogEntry.reportedName?_eq_none String.append_empty.symm (by simp))]
      simpa using Listing.countedNames_eq_nil_iff.mpr none
  | failing below settled reached lists some =>
      have counted := Listing.countedNames_ne_nil_iff.mpr some
      obtain ⟨units, course, names⟩ := Course.of_lists settled reached.succeeds lists
      rw [reported_of_lists _ _ _ _ _
        (LogEntry.reportedName?_eq_none String.append_empty.symm (by simp))]
      refine ⟨by simpa using counted, fun _ => ?_⟩
      rw [Ending.stdout_of_critical (by rw [course.result_run, Transcript.verdictOf,
        Verdict.ofUnits, names, Verdict.ofNames_of_ne_nil counted]), String.append_assoc]
      rfl

end Check

namespace Transcript

theorem logText_of_verbose (events : List Event) :
    logText (.ofEnvironment none true) events =
      String.join ((events.map Event.entry).map fun e => e.line ++ "\n") := by
  rw [logText, List.filter_eq_self.mpr fun e _ => Filter.admits_of_verbose e, List.map_map]
  rfl

end Transcript

/-- A verbose run notes an account of itself, and its standard error has the lines of the account
before any report. The account is that of the way in which the run is seen to end. It reports names
exactly when services have failed, and they are then those of the printed message, in order. -/
theorem log_iff_account {arguments : List String} {line : CommandLine} (host : Host)
    (asked : CommandLine.parse arguments = .ok line) (verbose : line.verbose = true) :
    (∀ log, (Check.run host line).events.map Event.entry = log ↔
        ∃ ending, Check.Account host line log ending) ∧
      ∀ log ending, Check.Account host line log ending →
        (Transcript.ofArguments host arguments none).stderr =
            String.join (log.map fun e => e.line ++ "\n") ++
              Transcript.reportOf (Check.run host line).result ∧
          ending.Shown (.ofArguments host arguments none) ∧
          (log.filterMap LogEntry.reportedName? = [] ↔ ending ≠ .failing) ∧
          (ending = .failing → (Transcript.ofArguments host arguments none).stdout =
            "CheckFailedUnits CRITICAL: Found failed service units: " ++
              String.join ((log.filterMap LogEntry.reportedName?).map (· ++ ",")) ++ "\n") := by
  refine ⟨fun log => ⟨?_, fun ⟨ending, account⟩ => account.map_entry_events⟩, ?_⟩
  · rintro rfl
    obtain ⟨ending, due⟩ := Ending.exists_due host line
    obtain ⟨log, account⟩ := Check.exists_account due
    exact ⟨ending, account.map_entry_events ▸ account⟩
  · intro log ending account
    rw [Transcript.ofArguments, asked]
    obtain ⟨names, stdout⟩ := account.reported (.ofEnvironment none line.verbose)
    refine ⟨?_, account.due.shown _, names, stdout⟩
    simp only [Transcript.ofRun, verbose, Transcript.logText_of_verbose, account.map_entry_events]

/-- A blank line is not counted, a masked failure is noted and left out, and the other failure is
noted and printed. -/
theorem log_iff_account_of_masked :
    ∃ (host : Host) (listing : String) (line : CommandLine),
      listing = "a.service masked failed a\n\nb.service loaded failed b\n" ∧
      host = .answering (.ok ⟨some 0, Text.encode listing, []⟩) ∧
      CommandLine.parse ["-vm"] = .ok line ∧
      (Check.run host line).events.map Event.entry =
        [⟨.debug, "Connecting to service manager via systemctl"⟩,
          ⟨.debug, "Connected to service manager (version )"⟩,
          ⟨.debug, "Enumerated 2 units"⟩,
          ⟨.debug, "Ignoring masked failed unit a.service"⟩,
          ⟨.debug, "Failed unit b.service (load=loaded, sub=b)"⟩,
          ⟨.info, "Check result: CRITICAL"⟩] ∧
      (Transcript.ofArguments host ["-vm"] none).stdout =
        "CheckFailedUnits CRITICAL: Found failed service units: b.service,\n" := by
  obtain ⟨listing, listing_eq⟩ : ∃ listing,
      listing = "a.service masked failed a\n\nb.service loaded failed b\n" := ⟨_, rfl⟩
  obtain ⟨host, host_eq⟩ : ∃ host : Host,
      host = .answering (.ok ⟨some 0, Text.encode listing, []⟩) := ⟨_, rfl⟩
  obtain ⟨s, s_eq⟩ : ∃ s : Settings, s = ⟨⟨true⟩, "systemctl"⟩ := ⟨_, rfl⟩
  have settled : Settings.resolve host ⟨true, none, none, true⟩ = .ok s := s_eq ▸ rfl
  have blank : Reply.Quoted [] "" := Reply.quoted_iff.mpr (by decide +kernel)
  have reached : (s.versionReply host).Answers s.systemctl (.ok "") := by
    subst host_eq s_eq
    exact .reached rfl blank
  have lists : (s.unitsReply host).Lists listing := by
    subst host_eq listing_eq s_eq
    exact ⟨_, rfl, rfl, rfl, by decide +kernel⟩
  have counted : ∃ l ∈ Text.lines listing, Listing.Counted s.policy l := by
    subst listing_eq s_eq
    exact ⟨"b.service loaded failed b", by decide +kernel, by decide +kernel⟩
  have account := Check.Account.failing .unnamed settled reached lists counted
  have asked : CommandLine.parse ["-vm"] = .ok ⟨true, none, none, true⟩ := rfl
  obtain ⟨noted, told⟩ := log_iff_account host asked rfl
  obtain ⟨-, -, -, stdout⟩ := told _ _ account
  refine ⟨host, listing, _, listing_eq, host_eq, asked, ?_, (stdout rfl).trans ?_⟩
  · rw [(noted _).mpr ⟨_, account⟩]
    subst listing_eq s_eq
    decide +kernel
  · subst listing_eq s_eq
    decide +kernel

end UnitHealth
