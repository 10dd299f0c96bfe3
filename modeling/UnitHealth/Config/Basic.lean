import UnitHealth.Text.Quoted
import UnitHealth.Toml.Diagnostic
import UnitHealth.Toml.Document

/-!
# Configuration files

A configuration file is a document with at most two entries: `ignore_masked`, a flag, and
`systemctl`, a text. An entry that is missing leaves its setting open.

Entries are judged in the order of the document, and the first that does not fit rejects the file,
whatever follows it. An entry does not fit when its key is neither name, or when its value has the
wrong type. A text that is no document is rejected before any entry is looked at. Either way a
remark points at the place in the text.
-/

namespace UnitHealth

structure FileConfig where
  ignoreMasked : Option Bool
  systemctl : Option String
  deriving DecidableEq

/-- What is wrong with an entry. -/
inductive Misfit where
  /-- No setting has this name. -/
  | unknownField (name : String)
  /-- The setting takes no value like this one. -/
  | wrongType (found : Toml.Value) (expected : String)
  deriving DecidableEq

def Misfit.message : Misfit → String
  | unknownField name => s!"unknown field `{name}`, expected `ignore_masked` or `systemctl`"
  | wrongType found expected => s!"invalid type: {found.describe}, expected {expected}"

/-- An entry that does not fit: the stretch of the document to blame, and what is wrong. -/
structure Offence where
  span : Toml.Span
  misfit : Misfit
  deriving DecidableEq

inductive FormatError where
  /-- The remark on a text that is no document. -/
  | noDocument (d : Toml.Diagnostic)
  /-- The remark on the first entry that does not fit. -/
  | misfit (d : Toml.Diagnostic)
  deriving DecidableEq

def FormatError.message : FormatError → String
  | noDocument d => d.message
  | misfit d => d.message

namespace FileConfig

def empty : FileConfig := ⟨none, none⟩

def enter (config : FileConfig) (e : Toml.Entry) : Except Offence FileConfig :=
  match e.name with
  | "ignore_masked" =>
    match e.value with
    | .boolean b => .ok { config with ignoreMasked := some b }
    | found => .error ⟨e.place, .wrongType found "a boolean"⟩
  | "systemctl" =>
    match e.value with
    | .string s => .ok { config with systemctl := some s }
    | found => .error ⟨e.place, .wrongType found "a string"⟩
  | name => .error ⟨e.keySpan, .unknownField name⟩

def ofEntries (entries : List Toml.Entry) : Except Offence FileConfig :=
  entries.foldlM enter empty

/-- Read the text of a configuration file. -/
def parse (text : String) : Except FormatError FileConfig :=
  match Toml.entries text with
  | .error r => .error (.noDocument (.ofRefusal text r))
  | .ok entries =>
    match ofEntries entries with
    | .ok config => .ok config
    | .error o => .error (.misfit (.ofSpan text o.span o.misfit.message))

/-- An optional setting as the log shows it. -/
def showOption {α : Type} (render : α → String) : Option α → String
  | none => "None"
  | some a => s!"Some({render a})"

def summary (config : FileConfig) : String :=
  "FileConfig \x7b ignore_masked: " ++ showOption toString config.ignoreMasked ++
    ", systemctl: " ++ showOption Text.quote config.systemctl ++ " \x7d"

@[simp] theorem ofEntries_nil : ofEntries [] = .ok empty := rfl

@[simp] theorem empty_ignoreMasked : empty.ignoreMasked = none := rfl

@[simp] theorem empty_systemctl : empty.systemctl = none := rfl

end FileConfig

end UnitHealth
