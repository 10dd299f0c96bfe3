/-!
# The command line

The check takes two switches and two options with a value, and the two usual requests for help and
version. Switches and options have a long name, most have a letter as well, and none may be given
twice.

A command line that is no request to run stops the program early: with a printed text and exit
code 0 for help and version, and with exit code 2 for a mistake. How a mistake is worded is left to
the parser of the command line.
-/

namespace UnitHealth

structure CommandLine where
  ignoreMasked : Bool
  config : Option String
  systemctl : Option String
  verbose : Bool
  deriving DecidableEq

namespace CommandLine

def empty : CommandLine := ⟨false, none, none, false⟩

inductive Switch where
  | ignoreMasked
  | verbose
  | help
  | version
  deriving DecidableEq

inductive Valued where
  | config
  | systemctl
  deriving DecidableEq

/-- Something that may be given on the command line by name. -/
inductive Named where
  | switch (s : Switch)
  | valued (v : Valued)
  deriving DecidableEq

/-- What a long name stands for. -/
def Named.ofLong? (name : List Char) : Option Named :=
  if name = "ignoremasked".toList then some (.switch .ignoreMasked)
  else if name = "config".toList then some (.valued .config)
  else if name = "systemctl".toList then some (.valued .systemctl)
  else if name = "verbose".toList then some (.switch .verbose)
  else if name = "help".toList then some (.switch .help)
  else if name = "version".toList then some (.switch .version)
  else none

def Named.ofLetter? : Char → Option Named
  | 'm' => some (.switch .ignoreMasked)
  | 'c' => some (.valued .config)
  | 'v' => some (.switch .verbose)
  | 'h' => some (.switch .help)
  | 'V' => some (.switch .version)
  | _ => none

/-- Why the arguments are no request to run the check. -/
inductive Stop where
  /-- Help was asked for. -/
  | help
  /-- The version was asked for. -/
  | version
  /-- An argument is not known, or stands where none is expected. -/
  | unknownArgument
  /-- A value is missing, or is empty where it may not be. -/
  | invalidValue
  /-- A switch was given a value. -/
  | tooManyValues
  /-- A switch or an option was given twice. -/
  | argumentConflict
  deriving DecidableEq

def helpText : String :=
  "Check if there are any failed systemd service units\n" ++
  "\n" ++
  "Usage: check-failed-units [OPTIONS]\n" ++
  "\n" ++
  "Options:\n" ++
  "  -m, --ignoremasked      Ignore masked units\n" ++
  "  -c, --config <PATH>     Read settings from a TOML file\n" ++
  "      --systemctl <PATH>  systemctl binary to query\n" ++
  "  -v, --verbose           Log debug output to stderr\n" ++
  "  -h, --help              Print help\n" ++
  "  -V, --version           Print version\n"

def versionText : String := "check-failed-units 0.3.0\n"

namespace Stop

/-- The text that goes to standard output, for a request and not a mistake. -/
def text? : Stop → Option String
  | help => some helpText
  | version => some versionText
  | _ => none

def isMistake (s : Stop) : Bool :=
  s.text?.isNone

def exitCode (s : Stop) : Nat :=
  if s.isMistake then 2 else 0

@[simp] theorem exitCode_help : help.exitCode = 0 := rfl

@[simp] theorem exitCode_version : version.exitCode = 0 := rfl

end Stop

end CommandLine

end UnitHealth
