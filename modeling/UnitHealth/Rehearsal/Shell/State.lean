import UnitHealth.Rehearsal.Tree
import UnitHealth.Rehearsal.Shell.Command
import UnitHealth.Rehearsal.Shell.Signal

/-!
# The state of a shell

A process runs on a machine, which has a file tree and channels. A channel is what a descriptor of
a process leads to, and several descriptors can share one. What a process does to the machine
stays when it ends, and everything else about it is lost, so a process that is copied runs on the
same machine with a state of its own.

An action of a shell changes the state and ends either with a result or with a stop. A stop leaves
the commands at hand up to the place that deals with it.
-/

namespace UnitHealth.Rehearsal.Shell

inductive Channel where
  | null
  | directory
  /-- Octets that wait to be read. -/
  | pipe (content : Bytes)
  /-- A file at a place, which is written at its end. -/
  | file (place : Place)

/-- A machine on which processes run. -/
structure Computer where
  tree : Tree
  channels : Array Channel

structure Variable where
  value : Bytes
  /-- Whether programs get the variable. -/
  exported : Bool

/-- A process, most often a shell. -/
structure Process where
  directory : Place
  descriptors : List (Nat × Nat)
  bindings : List (Bytes × Variable)
  name : Bytes := []
  parameters : List Bytes := []
  functions : List (Bytes × Command) := []
  /-- The letters of the options that are set. -/
  options : List Char := []
  status : Nat := 0
  /-- The status of the last command of which the output was taken into a word. -/
  substituted : Nat := 0
  line : Nat := 0
  /-- The command that speaks in messages, where the shell does not speak for itself. -/
  speaker : Option Bytes := none
  /-- The number of loops at work. -/
  loops : Nat := 0

structure State extends Computer, Process

/-- The number of every process, as it knows itself. -/
def processNumber : Nat := 100

/-- How a process ends. -/
inductive Ending where
  | exit (status : Nat)
  | signal (number : Nat)

/-- Why the commands at hand are left. -/
inductive Stop where
  /-- The shell ends. -/
  | leave
  /-- A command has failed in a way that ends the shell unless the command is an ordinary one. -/
  | failure
  /-- So many loops end, where the last of them may go on with its next round. -/
  | loop (count : Nat) (goesOn : Bool)
  /-- The function or the script ends. -/
  | function
  /-- The process has become another one, which has ended. -/
  | replaced (ending : Ending)
  /-- A signal has ended the process. -/
  | killed (signal : Nat)
  /-- The commands go on without end. -/
  | endless

/-- An action of a shell. -/
abbrev Act := ExceptT Stop (StateM State)

/-- Run an action that may stop. -/
def catching {α : Type} (act : Act α) : Act (Except Stop α) :=
  fun s =>
    let (r, t) := act.run s
    (.ok r, t)

/-- Run an action, and another one after it, however the first one ends. -/
def ensuring {α : Type} (act : Act α) (after : Act Unit) : Act α := do
  let result ← catching act
  after
  liftM result

/-! ## Variables -/

def value? (name : Bytes) : Act (Option Bytes) := do
  return ((← get).bindings.lookup name).map Variable.value

/-- Put a variable in the place of any other of its name. -/
def putVariable (name : Bytes) (v : Option Variable) : Act Unit :=
  modify fun s =>
    let others := s.bindings.filter fun entry => entry.1 != name
    { s with bindings := (v.toList.map fun v => (name, v)) ++ others }

/-! ## Channels -/

def badDescriptor : IoError := .system 9

/-- The channel that a descriptor leads to, with its index. -/
def channel? (descriptor : Nat) : Act (Option (Nat × Channel)) := do
  let s ← get
  return (s.descriptors.lookup descriptor).map fun i => (i, s.channels.getD i .null)

def newChannel (c : Channel) : Act Nat := do
  let s ← get
  set { s with channels := s.channels.push c }
  return s.channels.size

/-- Let a descriptor lead to a channel, or nowhere. -/
def direct (descriptor : Nat) (target : Option Nat) : Act Unit :=
  modify fun s =>
    let others := s.descriptors.filter fun entry => entry.1 != descriptor
    { s with descriptors := (target.toList.map fun i => (descriptor, i)) ++ others }

def setChannel (i : Nat) (c : Channel) : Act Unit :=
  modify fun s => { s with channels := s.channels.setIfInBounds i c }

def contentAt (place : Place) : Act Text.Octets := do
  return (((← get).tree.get? place).bind Item.octets?).getD []

/-- Print octets, if the descriptor leads to where they can be written. -/
def print (descriptor : Nat) (bytes : Bytes) : Act Unit := do
  match ← channel? descriptor with
  | some (i, .pipe content) => setChannel i (.pipe (content ++ bytes))
  | some (_, .file place) =>
    let content := (← contentAt place) ++ bytes.toOctets
    modify fun s => { s with tree := s.tree.writeAt place content }
  | _ => return

/-- The octets that wait at a descriptor. -/
def waiting (descriptor : Nat) : Act (Except IoError Bytes) := do
  match ← channel? descriptor with
  | some (_, .null) => return .ok []
  | some (_, .pipe content) => return .ok content
  | some (_, .directory) => return .error .isADirectory
  | _ => return .error badDescriptor

/-- Take octets away that wait at a descriptor. -/
def advance (descriptor count : Nat) : Act Unit := do
  if let some (i, .pipe content) := ← channel? descriptor then
    setChannel i (.pipe (content.drop count))

def readAll (descriptor : Nat) : Act (Except IoError Bytes) := do
  let result ← waiting descriptor
  if let .ok bytes := result then advance descriptor bytes.length
  return result

/-- The place to which a path leads, and what is there. -/
def reach (path : Bytes) : Act (Except IoError (Place × Option Item)) := do
  let s ← get
  return s.tree.reach s.directory path.toText

/-! ## Messages -/

/-- Print a message, after who speaks and where. -/
def warn (message : Bytes) : Act Unit := do
  let s ← get
  let place := s.name ++ (": " ++ toString s.line ++ ": ").toList
  let speaker := s.speaker.elim [] (· ++ [':', ' '])
  print 2 (place ++ speaker ++ message ++ ['\n'])

/-- Print a message and leave the commands at hand because of it. -/
def fail {α : Type} (message : Bytes) : Act α := do
  warn message
  modify fun s => { s with status := 2 }
  throw .failure

def failText {α : Type} (message : String) : Act α := fail message.toList

/-! ## Options and settings -/

def isSet (option : Char) : Act Bool := do
  return (← get).options.contains option

def setVariable (name value : Bytes) : Act Unit := do
  if !isName name then fail (name ++ ": bad variable name".toList)
  let exported := ((← get).bindings.lookup name).any Variable.exported
  putVariable name (some { value, exported })

/-- Let programs get a variable. -/
def handDown (name : Bytes) : Act Unit := do
  if let some v := (← get).bindings.lookup name then
    putVariable name (some { v with exported := true })

end UnitHealth.Rehearsal.Shell
