import UnitHealth.Log.Event

/-!
# Log filters

A filter decides which events are written. It is a list of directives, each of which sets the level
for the parts of the program whose name begins with a given text, or for all of them. The most
specific directive that applies decides, of two for the same text the later one, and an event to
which none applies is not written.

A filter is written as directives with commas between them. A directive is a level, a name with an
equals sign and a level, or a name alone for everything. A text without any directive lets errors
through. When any directive cannot be read the whole filter is void.
-/

namespace UnitHealth

/-- A level for the parts of the program whose name begins with a text. -/
structure Directive where
  target : String
  /-- The level up to which events are written. Nothing is written without one. -/
  level : Option Level
  deriving DecidableEq

/-- The directives that decide which events are written. -/
abbrev Filter := List Directive

def lowered (text : String) : String :=
  String.ofList (text.toList.map Char.toLower)

/-- Read the level of a directive: a word in any case, or a digit. -/
def Directive.level? (text : String) : Option (Option Level) :=
  match lowered text with
  | "off" => some none
  | "error" => some (some .error)
  | "warn" => some (some .warn)
  | "info" => some (some .info)
  | "debug" => some (some .debug)
  | "trace" => some (some .trace)
  | "0" => some none
  | "1" => some (some .error)
  | "2" => some (some .warn)
  | "3" => some (some .info)
  | "4" => some (some .debug)
  | "5" => some (some .trace)
  | _ => none

/-- Whether a character may be part of a name. -/
def Directive.isNameChar (c : Char) : Bool :=
  c.isAlphanum || c == '_' || c == ':' || c == '-'

def Directive.isName (cs : List Char) : Bool :=
  !cs.isEmpty && cs.all isNameChar

/-- Read one directive. A missing level after an equals sign means errors. -/
def Directive.ofText? (text : String) : Option Directive :=
  match level? text with
  | some level => some ⟨"", level⟩
  | none =>
    let name := text.toList.takeWhile (· ≠ '=')
    if isName name then
      match text.toList.drop name.length with
      | [] => some ⟨String.ofList name, some .trace⟩
      | [_] => some ⟨String.ofList name, some .error⟩
      | _ :: level => (level? (String.ofList level)).map fun l => ⟨String.ofList name, l⟩
    else none

def Directive.appliesTo (d : Directive) (component : Component) : Bool :=
  d.target.toList.isPrefixOf component.name.toList

namespace Filter

def upTo (level : Level) : Filter := [⟨"", some level⟩]

def ofText? (text : String) : Option Filter :=
  let parts := (text.toList.splitOnP (· == ',')).filter fun part => !part.isEmpty
  if parts.isEmpty then some (upTo .error)
  else parts.mapM fun part => Directive.ofText? (String.ofList part)

/-- The more specific of two directives, of which the second was given later. -/
def prefer (d e : Directive) : Directive :=
  if d.target.length ≤ e.target.length then e else d

/-- The directive that decides for a part of the program. -/
def deciding? (filter : Filter) (component : Component) : Option Directive :=
  (filter.filter (·.appliesTo component)).foldl (fun best d => some (best.elim d (prefer · d))) none

def admits (filter : Filter) (e : Event) : Bool :=
  match (filter.deciding? e.component).bind Directive.level with
  | some level => e.level.verbosity ≤ level.verbosity
  | none => false

/-- The filter of a run: the one that the environment writes, when it can be read, and otherwise
the one that the command line decides. -/
def ofEnvironment (setting : Option String) (verbose : Bool) : Filter :=
  (setting.bind ofText?).getD (upTo (.ofVerbose verbose))

@[simp] theorem admits_upTo (level : Level) (e : Event) :
    (upTo level).admits e = decide (e.level.verbosity ≤ level.verbosity) := by
  simp [upTo, admits, deciding?, Directive.appliesTo]

@[simp] theorem ofEnvironment_none (verbose : Bool) :
    ofEnvironment none verbose = upTo (.ofVerbose verbose) := rfl

/-- A quiet log writes nothing, since no event is an error. -/
theorem admits_of_quiet (e : Event) : (ofEnvironment none false).admits e = false := by
  rw [ofEnvironment_none, admits_upTo]
  cases e <;> rfl

/-- A verbose log writes everything, since no event is for tracing. -/
theorem admits_of_verbose (e : Event) : (ofEnvironment none true).admits e = true := by
  rw [ofEnvironment_none, admits_upTo]
  cases e <;> rfl

end Filter

end UnitHealth
