import UnitHealth.CommandLine.Basic
import UnitHealth.Config.Load
import UnitHealth.FailedServices

/-!
# Settings

The settings of a run come from the command line, the configuration file and the defaults, in this
order. Masked units are excused when either the command line or the file says so, and neither can
take back what the other grants. The program is the one of the command line, else the one of the
file, else `systemctl`.

A file that is named and cannot be loaded leaves no settings, even where the command line gives
them all.
-/

namespace UnitHealth

structure Settings where
  policy : Policy
  systemctl : String
  deriving DecidableEq

namespace Settings

def defaultProgram : String := "systemctl"

def merge (line : CommandLine) (file : FileConfig) : Settings where
  policy := ⟨line.ignoreMasked || file.ignoreMasked.getD false⟩
  systemctl := (line.systemctl.or file.systemctl).getD defaultProgram

/-- The configuration that a command line names, which is empty when it names none. -/
def configOf (host : Host) (line : CommandLine) : Except ConfigError FileConfig :=
  match line.config with
  | none => .ok .empty
  | some path => FileConfig.load host path

def resolve (host : Host) (line : CommandLine) : Except ConfigError Settings :=
  (configOf host line).map (merge line)

@[simp] theorem merge_policy (line : CommandLine) (file : FileConfig) :
    (merge line file).policy = ⟨line.ignoreMasked || file.ignoreMasked.getD false⟩ := rfl

@[simp] theorem merge_systemctl (line : CommandLine) (file : FileConfig) :
    (merge line file).systemctl = (line.systemctl.or file.systemctl).getD defaultProgram := rfl

end Settings

end UnitHealth
