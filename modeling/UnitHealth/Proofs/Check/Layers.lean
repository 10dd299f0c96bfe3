import UnitHealth.Proofs.Check.Protocol
import UnitHealth.Proofs.CommandLine.Spelled
import UnitHealth.Proofs.Text.Utf8

/-!
# Layers of settings

Settings come from three layers: the command line, the configuration file below it, and the defaults
at the bottom. The layers are put together in two ways. Masked units are excused when any layer says
so, while the program is the one of the uppermost layer that names one. A file that is named and
cannot be loaded leaves no settings, however much the command line gives, and then nothing is asked
for.

A run knows its settings and not where they come from. So a configuration file can always be traded
for flags: the run with the file is the run without it, once the flags say what the layers say
together. Two runs with the same settings print the same line, end with the same exit code and ask
for the same programs.
-/

namespace UnitHealth

/-! ## The layer of the file -/

namespace FileConfig

/-- A file that cannot be read, or whose text is no configuration. -/
def Unloadable (host : Host) (path : String) : Prop :=
  (∃ e, host.fileText path = .error e) ∨
    ∃ text, host.fileText path = .ok text ∧ ∃ e, parse text = .error e

/-- The configuration below a command line, by the file that this names. -/
inductive Below (host : Host) : Option String → FileConfig → Prop where
  /-- No file is named, and nothing is set. -/
  | unnamed : Below host none .empty
  /-- The file that is named has the text of a configuration. -/
  | loaded {path text : String} {file : FileConfig} (read : host.fileText path = .ok text)
      (parsed : parse text = .ok file) : Below host (some path) file

variable {host : Host} {path : String} {file : FileConfig}

theorem load_eq_ok_iff :
    load host path = .ok file ↔ ∃ text, host.fileText path = .ok text ∧ parse text = .ok file := by
  rw [load]
  cases host.fileText path with
  | error e => simp
  | ok text => cases parsed : parse text <;> simp [parsed]

theorem load_eq_error_iff {e : ConfigError} :
    load host path = .error e ↔
      (∃ cause, host.fileText path = .error cause ∧ e = .unreadable path cause) ∨
        ∃ text cause, host.fileText path = .ok text ∧ parse text = .error cause ∧
          e = .invalid path cause := by
  rw [load]
  cases host.fileText path with
  | error cause => simp [eq_comm]
  | ok text => cases parsed : parse text <;> simp [parsed, eq_comm]

theorem unloadable_iff : Unloadable host path ↔ ∃ e, load host path = .error e := by
  rw [Unloadable, load]
  cases host.fileText path with
  | error e => simp
  | ok text => cases parsed : parse text <;> simp [parsed]

end FileConfig

/-! ## The layers together -/

namespace Settings

/-- What settings take from a command line, a configuration and the defaults. -/
structure Layered (line : CommandLine) (file : FileConfig) (s : Settings) : Prop where
  /-- One layer is enough to excuse masked units, and none takes it back. -/
  masked : s.policy.ignoreMasked = true ↔
    line.ignoreMasked = true ∨ file.ignoreMasked = some true
  /-- The command line names the program first. -/
  byLine : ∀ program, line.systemctl = some program → s.systemctl = program
  /-- The file names it next. -/
  byFile : line.systemctl = none → ∀ program, file.systemctl = some program →
    s.systemctl = program
  /-- The default is what is left. -/
  byDefault : line.systemctl = none → file.systemctl = none → s.systemctl = "systemctl"

/-- The command line that gives settings by flags alone. -/
def flags (s : Settings) (verbose : Bool) : CommandLine :=
  ⟨s.policy.ignoreMasked, none, some s.systemctl, verbose⟩

/-- The arguments that give settings by flags alone. -/
def arguments (s : Settings) : List String :=
  ("--systemctl=" ++ s.systemctl) :: if s.policy.ignoreMasked then ["-m"] else []

variable {host : Host} {line : CommandLine} {file : FileConfig} {s : Settings}

theorem layered_merge (line : CommandLine) (file : FileConfig) :
    Layered line file (merge line file) where
  masked := by
    rw [merge_policy, Bool.or_eq_true]
    refine or_congr_right ?_
    cases file.ignoreMasked <;> simp
  byLine program own := by simp [own]
  byFile none program below := by simp [none, below]
  byDefault none below := by simp [none, below, defaultProgram]

theorem configOf_eq_ok_iff :
    configOf host line = .ok file ↔ FileConfig.Below host line.config file := by
  rw [configOf]
  cases line.config with
  | none =>
      constructor
      · rintro ⟨⟩
        exact .unnamed
      · rintro ⟨⟩
        rfl
  | some path =>
      simp only [FileConfig.load_eq_ok_iff]
      constructor
      · rintro ⟨text, read, parsed⟩
        exact .loaded read parsed
      · intro below
        cases below with
        | loaded read parsed => exact ⟨_, read, parsed⟩

theorem resolve_eq_ok_iff :
    resolve host line = .ok s ↔
      ∃ file, FileConfig.Below host line.config file ∧ s = merge line file := by
  simp only [← configOf_eq_ok_iff, resolve]
  cases configOf host line <;> simp [Except.map, eq_comm]

/-- Unless a file is named and cannot be loaded, there are settings from the layers. -/
theorem exists_resolve_eq_ok (loads : ∀ path, line.config = some path →
      ¬ FileConfig.Unloadable host path) :
    ∃ file, FileConfig.Below host line.config file ∧ resolve host line = .ok (merge line file) := by
  cases config : configOf host line with
  | ok file => exact ⟨file, configOf_eq_ok_iff.mp config, by rw [resolve, config]; rfl⟩
  | error e =>
      obtain ⟨path, named, failed⟩ := exists_resolve_eq_error_iff.mp
        ⟨e, show resolve host line = .error e by rw [resolve, config]; rfl⟩
      exact absurd (FileConfig.unloadable_iff.mpr failed) (loads path named)

theorem resolve_flags (host : Host) (s : Settings) (verbose : Bool) :
    resolve host (s.flags verbose) = .ok s := by
  obtain ⟨⟨masked⟩, program⟩ := s
  cases masked <;> rfl

end Settings

/-! ## Flags as arguments -/

/-- The arguments spell the flags, so they ask for a run with them. -/
theorem Settings.parse_arguments (s : Settings) :
    CommandLine.parse s.arguments = .ok (s.flags false) := by
  obtain ⟨⟨masked⟩, program⟩ := s
  have option : CommandLine.Spelling [.systemctl program] ["--systemctl=" ++ program] :=
    .longEquals .systemctl program
  cases masked with
  | false => exact (CommandLine.Spelled.append option .nil).parse_eq_ok (.refl _) nofun
  | true =>
      have letter : CommandLine.Spelling [.ignoreMasked] ["-m"] :=
        @CommandLine.Spelling.bundle [.ignoreMasked] (List.cons_ne_nil _ _)
      have both := CommandLine.Spelled.append option (.append letter .nil)
      exact both.parse_eq_ok (.swap _ _ _) nofun

/-! ## Runs with the same settings -/

/-- Two computations that come to the same result and ask for the same programs. -/
structure Traced.Alike {α : Type} (t t' : Traced α) : Prop where
  result : t.result = t'.result
  invocations : t.invocations = t'.invocations

/-- Two transcripts that show the same but for the log and the report. -/
structure Transcript.Alike (t t' : Transcript) : Prop where
  stdout : t.stdout = t'.stdout
  exitCode : t.exitCode = t'.exitCode
  invocations : t.invocations = t'.invocations

theorem Traced.Alike.ofRun {t t' : Traced (Except Fault Verdict)} (h : t.Alike t')
    (filter filter' : Filter) :
    (Transcript.ofRun filter t).Alike (Transcript.ofRun filter' t') where
  stdout := congrArg (fun r => (Transcript.verdictOf r).line ++ "\n") h.result
  exitCode := congrArg (fun r => (Transcript.verdictOf r).exitCode) h.result
  invocations := h.invocations

namespace Check

variable {host host' : Host} {line line' : CommandLine} {s : Settings}

/-- What is asked for and judged depends on the programs of a host and not on its files. -/
theorem examine_congr (programs : host.spawn = host'.spawn) (s : Settings) :
    examine host s = examine host' s := by
  obtain ⟨file, spawn⟩ := host
  obtain ⟨file', spawn'⟩ := host'
  obtain rfl : spawn = spawn' := programs
  rfl

theorem result_run_of_resolve (settled : Settings.resolve host line = .ok s) :
    (run host line).result = (examine host s).result := by
  rw [run, Traced.result_bind, result_settings, settled]
  rfl

theorem invocations_run_of_resolve (settled : Settings.resolve host line = .ok s) :
    (run host line).invocations = (examine host s).invocations := by
  rw [invocations_run, settled]

theorem alike_run (programs : host.spawn = host'.spawn)
    (settled : Settings.resolve host line = .ok s)
    (settled' : Settings.resolve host' line' = .ok s) :
    (run host line).Alike (run host' line') where
  result := by
    rw [result_run_of_resolve settled, result_run_of_resolve settled', examine_congr programs]
  invocations := by
    rw [invocations_run_of_resolve settled, invocations_run_of_resolve settled',
      examine_congr programs]

/-- A file that is named and cannot be loaded makes a run a fault that asks for nothing, whatever
flags there are. Otherwise the settings come from the layers, and the run is that of the flags alone
that give these settings, whatever files there are. Runs with the same settings cannot be told apart
by their line, their exit code and the programs that they ask for. -/
theorem layers_collapse_to_flags :
    (∀ host line path, line.config = some path → FileConfig.Unloadable host path →
      ∃ e, Settings.resolve host line = .error e ∧
        (run host line).result = .error (e.fault.within "Failed to load configuration") ∧
        (run host line).invocations = []) ∧
    (∀ host line, (∀ path, line.config = some path → ¬ FileConfig.Unloadable host path) →
      ∃ file s, FileConfig.Below host line.config file ∧ Settings.resolve host line = .ok s ∧
        s.Layered line file ∧ CommandLine.parse s.arguments = .ok (s.flags false) ∧
        ∀ files verbose, (run host line).Alike (run ⟨files, host.spawn⟩ (s.flags verbose))) ∧
    ∀ host host' line line' s, host.spawn = host'.spawn → Settings.resolve host line = .ok s →
      Settings.resolve host' line' = .ok s →
        (run host line).Alike (run host' line') ∧
        ∀ arguments arguments', CommandLine.parse arguments = .ok line →
          CommandLine.parse arguments' = .ok line' → ∀ logSetting logSetting',
            (Transcript.ofArguments host arguments logSetting).Alike
              (.ofArguments host' arguments' logSetting') := by
  refine ⟨?_, ?_, ?_⟩
  · intro host line path named unloadable
    obtain ⟨e, failed⟩ := Settings.exists_resolve_eq_error_iff.mpr
      ⟨path, named, FileConfig.unloadable_iff.mp unloadable⟩
    refine ⟨e, failed, (Course.unsettled failed).result_run, ?_⟩
    rw [invocations_run, failed]
  · intro host line loads
    obtain ⟨file, below, settled⟩ := Settings.exists_resolve_eq_ok loads
    refine ⟨file, _, below, settled, Settings.layered_merge line file,
      Settings.parse_arguments _, fun files verbose => ?_⟩
    exact alike_run rfl settled (Settings.resolve_flags _ _ verbose)
  · intro host host' line line' s programs settled settled'
    have alike := alike_run programs settled settled'
    refine ⟨alike, fun arguments arguments' asked asked' logSetting logSetting' => ?_⟩
    rw [Transcript.ofArguments, Transcript.ofArguments, asked, asked']
    exact alike.ofRun _ _

/-- A file that excuses masked units, under a command line that names another program, is traded
for two flags. A file that is missing is a fault under a command line that gives everything. -/
theorem layers_collapse_to_flags_of_override :
    ∃ host bare : Host,
      host = ⟨fun path => if path = "layer.toml" then
            .ok (Text.encode "ignore_masked = true\nsystemctl = \"./client\"\n")
          else .error .notFound,
        fun _ _ => .ok ⟨some 0, Text.encode "a.service masked failed dead\n", []⟩⟩ ∧
      bare = ⟨fun _ => .error .notFound, host.spawn⟩ ∧
      (run host ⟨true, some "missing.toml", some "true", false⟩).invocations = [] ∧
      (run host ⟨false, some "layer.toml", some "true", false⟩).Alike
        (run bare ⟨true, none, some "true", false⟩) ∧
      (Transcript.ofArguments host ["--config", "layer.toml", "--systemctl", "true"] none).Alike
        (.ofArguments bare ["--systemctl=true", "-m"] (some "trace")) := by
  obtain ⟨host, host_eq⟩ : ∃ host : Host, host =
      ⟨fun path => if path = "layer.toml" then
            .ok (Text.encode "ignore_masked = true\nsystemctl = \"./client\"\n")
          else .error .notFound,
        fun _ _ => .ok ⟨some 0, Text.encode "a.service masked failed dead\n", []⟩⟩ := ⟨_, rfl⟩
  have missing : host.fileText "missing.toml" = .error .notFound := by
    simp [host_eq, Host.fileText]
  have read : host.fileText "layer.toml" =
      .ok "ignore_masked = true\nsystemctl = \"./client\"\n" := by
    simp [host_eq, Host.fileText]
  have parsed : FileConfig.parse "ignore_masked = true\nsystemctl = \"./client\"\n" =
      .ok ⟨some true, some "./client"⟩ := by decide +kernel
  have loads : ∀ path, (⟨false, some "layer.toml", some "true", false⟩ : CommandLine).config =
      some path → ¬ FileConfig.Unloadable host path := by
    rintro _ ⟨⟩ unloadable
    obtain ⟨e, failed⟩ := FileConfig.unloadable_iff.mp unloadable
    rw [FileConfig.load_eq_ok_iff.mpr ⟨_, read, parsed⟩] at failed
    cases failed
  obtain ⟨faults, flags, same⟩ := layers_collapse_to_flags
  obtain ⟨e, -, -, quiet⟩ := faults host ⟨true, some "missing.toml", some "true", false⟩
    "missing.toml" rfl (.inl ⟨_, missing⟩)
  obtain ⟨file, s, below, settled, layered, asked, traded⟩ :=
    flags host ⟨false, some "layer.toml", some "true", false⟩ loads
  obtain rfl : file = ⟨some true, some "./client"⟩ := by
    obtain _ | ⟨read', parsed'⟩ := below
    obtain rfl := Except.ok.inj (read.symm.trans read')
    exact Except.ok.inj (parsed'.symm.trans parsed)
  obtain rfl : s = ⟨⟨true⟩, "true"⟩ := by
    obtain ⟨⟨masked⟩, program⟩ := s
    obtain rfl : masked = true := layered.masked.mpr (.inr rfl)
    obtain rfl : program = "true" := layered.byLine "true" rfl
    rfl
  exact ⟨host, _, host_eq, rfl, quiet, traded _ false,
    (same _ _ _ _ _ rfl settled (Settings.resolve_flags _ _ _)).2 _ _ rfl asked _ _⟩

end Check

end UnitHealth
