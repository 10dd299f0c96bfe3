import UnitHealth.CommandLine.Basic

/-!
# Reading the arguments

Arguments are read from left to right. One that begins with two hyphens names something by its long
name, with a value after an equals sign if there is one. One that begins with one hyphen is a
cluster of letters, in which an option takes what follows it as its value. Anything else is the
value of an option that is still waiting for one, and otherwise a mistake, since the program takes
no free arguments. After an argument of two hyphens alone nothing more may follow.

An option whose value is an argument of its own is settled only when the next switch or option with
a value of its own is taken, or at the end. So an unknown argument is reported before a mistake in
the option that waits.
-/

namespace UnitHealth.CommandLine

/-- An option that has not been settled: its value has come, or is still awaited. -/
structure Waiting where
  option : Valued
  value : Option String
  deriving DecidableEq

structure Progress where
  options : CommandLine
  waiting : Option Waiting
  /-- Whether an argument of two hyphens has been read. -/
  closed : Bool
  deriving DecidableEq

def Progress.start : Progress := ⟨empty, none, false⟩

/-- The value of an option that has been settled. -/
def valueOf (options : CommandLine) : Valued → Option String
  | .config => options.config
  | .systemctl => options.systemctl

/-- The options with one more value. -/
def withValue (options : CommandLine) (value : String) : Valued → CommandLine
  | .config => { options with config := some value }
  | .systemctl => { options with systemctl := some value }

/-- Whether an option may have the empty text as its value. -/
def admitsEmpty : Valued → Bool
  | .config => false
  | .systemctl => true

/-- Settle an option. It has to have a value, must not have been settled before, and its value has
to be one that it admits, and these are looked at in this order. -/
def settle (options : CommandLine) (option : Valued) : Option String → Except Stop CommandLine
  | none => .error .invalidValue
  | some value =>
    if (valueOf options option).isSome then .error .argumentConflict
    else if value.isEmpty && !admitsEmpty option then .error .invalidValue
    else .ok (withValue options value option)

namespace Progress

/-- Settle the option that waits, if any. -/
def settled (p : Progress) : Except Stop Progress :=
  match p.waiting with
  | none => .ok p
  | some w => (settle p.options w.option w.value).map fun options => ⟨options, none, p.closed⟩

/-- Turn on a switch that must not be on yet, or stop for help or version. -/
def turnOn (p : Progress) : Switch → Except Stop Progress
  | .ignoreMasked =>
    if p.options.ignoreMasked then .error .argumentConflict
    else .ok { p with options := { p.options with ignoreMasked := true } }
  | .verbose =>
    if p.options.verbose then .error .argumentConflict
    else .ok { p with options := { p.options with verbose := true } }
  | .help => .error .help
  | .version => .error .version

def takeSwitch (p : Progress) (s : Switch) : Except Stop Progress := do
  (← p.settled).turnOn s

def takeValue (p : Progress) (option : Valued) (value : String) : Except Stop Progress := do
  let p ← p.settled
  let options ← settle p.options option (some value)
  return { p with options := options }

/-- Take an option whose value is still to come. -/
def await (p : Progress) (option : Valued) : Except Stop Progress := do
  let p ← p.settled
  return { p with waiting := some ⟨option, none⟩ }

/-- Take an argument that names nothing. -/
def takeText (p : Progress) (text : String) : Except Stop Progress :=
  match p.waiting with
  | some ⟨option, none⟩ => .ok { p with waiting := some ⟨option, some text⟩ }
  | _ => .error .unknownArgument

/-- Take an argument that begins with two hyphens, given what follows them. -/
def takeLong (p : Progress) (cs : List Char) : Except Stop Progress :=
  let name := cs.takeWhile (· ≠ '=')
  match Named.ofLong? name, cs.drop name.length with
  | none, _ => .error .unknownArgument
  | some (.switch s), [] => p.takeSwitch s
  | some (.switch _), _ => .error .tooManyValues
  | some (.valued v), [] => p.await v
  | some (.valued v), _ :: value => p.takeValue v (String.ofList value)

/-- The value of an option inside a cluster: what follows its letter, without one equals sign. -/
def clusterValue : List Char → String
  | '=' :: cs => String.ofList cs
  | cs => String.ofList cs

def takeCluster (p : Progress) : List Char → Except Stop Progress
  | [] => .ok p
  | c :: cs =>
    match Named.ofLetter? c with
    | none => .error .unknownArgument
    | some (.switch s) => do (← p.takeSwitch s).takeCluster cs
    | some (.valued v) =>
      if cs.isEmpty then p.await v else p.takeValue v (clusterValue cs)

def take (p : Progress) (argument : String) : Except Stop Progress :=
  if p.closed then .error .unknownArgument
  else
    match argument.toList with
    | ['-', '-'] => .ok { p with closed := true }
    | '-' :: '-' :: cs => p.takeLong cs
    | '-' :: c :: cs => p.takeCluster (c :: cs)
    | _ => p.takeText argument

@[simp] theorem take_closed (p : Progress) (argument : String) (h : p.closed = true) :
    p.take argument = .error .unknownArgument := by
  simp [take, h]

end Progress

/-- Read the arguments of the program. -/
def parse (arguments : List String) : Except Stop CommandLine := do
  let p ← arguments.foldlM Progress.take .start
  return (← p.settled).options

@[simp] theorem parse_nil : parse [] = .ok empty := rfl

end UnitHealth.CommandLine
