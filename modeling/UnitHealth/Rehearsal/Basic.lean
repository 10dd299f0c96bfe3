import UnitHealth.Manager.Session
import UnitHealth.Rehearsal.Client
import UnitHealth.Rehearsal.Shell.Run

/-!
# Rehearsals

A rehearsal is a host in memory, on which the check can be tried out without a service manager. It
has a file tree with a working directory, and variables for the programs that it runs. The client
of the service manager is among these programs, and gives the replies that lie in the working
directory.

Programs are found as a system finds them: a name with a slash is a path, any other name is looked
up in the directories that a variable lists. A program gets no input, its output is kept, and what
it does to the file tree stays. So a rehearsal goes from one attempt to run a program to the next,
and a host is what it is at one moment.

The client notes its calls in a file of the working directory, from which they can be taken. It is a
script, and whoever rehearses can put other scripts into its place, so there is a shell beside the
programs that the client uses. The shell knows the language of scripts but nothing that serves a
conversation: it has no jobs, no traps and no short names, and a pattern stands for no names of
files.

Nothing in the check depends on rehearsals.
-/

namespace UnitHealth

/-- A host in memory. -/
structure Rehearsal where
  tree : Rehearsal.Tree
  /-- The working directory. -/
  home : Rehearsal.Place
  /-- The variables that programs get. -/
  environment : List (String × String)

namespace Rehearsal

def hasNul (text : String) : Bool :=
  text.toList.contains '\x00'

def file (r : Rehearsal) (path : String) : Except IoError Text.Octets :=
  if hasNul path then .error (.other "file name contained an unexpected NUL byte")
  else
    match r.tree.locate r.home path with
    | .error e => .error e
    | .ok item =>
      match item.octets? with
      | none => .error .isADirectory
      | some octets => .ok octets

/-! ## Running programs -/

def searchPath (r : Rehearsal) : List Shell.Bytes :=
  (Shell.Bytes.ofText ((r.environment.lookup "PATH").getD "")).splitOnP (· == ':')

def launch (r : Rehearsal) (i : Invocation) : Except IoError Shell.Launch :=
  let name := Shell.Bytes.ofText i.program
  let arguments := i.arguments.map Shell.Bytes.ofText
  if (i.program :: i.arguments).any hasNul then .error (.other "nul byte found in provided data")
  else if name.isEmpty then .error .notFound
  else if name.contains '/' then Shell.Launch.ofPath r.tree r.home name name arguments
  else Shell.Launch.ofName r.tree r.home name arguments .notFound r.searchPath

/-- A process on the machine. It reads nothing, and what it prints is kept. -/
def process (r : Rehearsal) : Shell.State where
  tree := r.tree
  channels := #[.null, .pipe [], .pipe []]
  directory := r.home
  descriptors := [(0, 0), (1, 1), (2, 2)]
  bindings := r.environment.map fun (name, value) =>
    (Shell.Bytes.ofText name, { value := Shell.Bytes.ofText value, exported := true })

def printed (s : Shell.State) (channel : Nat) : Text.Octets :=
  match s.channels[channel]? with
  | some (.pipe content) => Shell.Bytes.toOctets content
  | _ => []

/-- The exit code of a process, unless a signal ended it. -/
def codeOf : Except Shell.Stop Shell.Ending → Option Int
  | .ok (.exit status) => some status
  | _ => none

/-- Run a program. Gives the reply, and the machine as the program leaves it. -/
def run (r : Rehearsal) (i : Invocation) : Reply × Rehearsal :=
  match r.launch i with
  | .error e => (.error e, r)
  | .ok l =>
    let (result, s) := (Shell.Engine.execute l).run r.process
    (.ok ⟨codeOf result, printed s 1, printed s 2⟩, { r with tree := s.tree })

def after (r : Rehearsal) (invocations : List Invocation) : Rehearsal :=
  invocations.foldl (fun r i => (r.run i).2) r

def host (r : Rehearsal) : Host where
  file := r.file
  spawn program arguments := (r.run ⟨program, arguments⟩).1

/-- The machine as a run of the check meets it. The client is asked for the version first, so the
question for the units meets the machine that the first question has left. -/
def checkHost (r : Rehearsal) : Host where
  file := r.file
  spawn program arguments :=
    let earlier := if arguments = Systemctl.unitsQuestion then
        [(Systemctl.ofProgram program).ask Systemctl.versionQuestion]
      else []
    (r.after earlier).host.spawn program arguments

/-! ## Preparing a machine -/

def write (r : Rehearsal) (path : String) (content : Text.Octets) : Rehearsal :=
  { r with tree := r.tree.write r.home path content }

def makeDirectory (r : Rehearsal) (path : String) : Rehearsal :=
  { r with tree := r.tree.makeDirectory r.home path }

def remove (r : Rehearsal) (path : String) : Rehearsal :=
  { r with tree := r.tree.remove (Tree.resolve r.home path) }

/-- Put the client into the working directory, as a file that may be run. -/
def install (r : Rehearsal) (path : String) : Rehearsal :=
  { r with tree := r.tree.put (Tree.resolve r.home path) (.file (Text.encode Client.text) true) }

/-- Lay down the reply to a topic: what the client prints, and how it ends. -/
def answer (r : Rehearsal) (topic : String) (stdout stderr : Text.Octets) (ending : String) :
    Rehearsal :=
  ((r.write (topic ++ ".out") stdout).write (topic ++ ".err") stderr).write (topic ++ ".code")
    (Text.encode (ending ++ "\n"))

/-- The calls that the client has noted, and the machine without the notes. -/
def takeCalls (r : Rehearsal) : List (List String) × Rehearsal :=
  match r.file Client.notes with
  | .ok octets => (Client.callsOf octets, r.remove Client.notes)
  | .error _ => ([], r)

/-! ## The bare machine -/

def clientDirectory : String := "client"

/-- Items of a machine without a working directory: the client, devices, and small programs. -/
def system : Tree :=
  let client := Item.file (Text.encode Client.text) true
  let directories := [["tmp"], ["etc"], ["root"], ["dev"], ["usr"], ["usr", "bin"], ["bin"],
    [clientDirectory]]
  let devices := [("null", .null), ("stdin", .descriptor 0), ("stdout", .descriptor 1),
    ("stderr", .descriptor 2)]
  let programs := Shell.Engine.programNames.flatMap fun name =>
    [(["bin", name], Item.program name), (["usr", "bin", name], .program name)]
  directories.map (fun place => (place, Item.directory)) ++
    ([clientDirectory, "systemctl"], client) ::
      devices.map (fun (name, device) => (["dev", name], .device device)) ++ programs

/-- A machine with an empty working directory. The client is found by its usual name. -/
def bare : Rehearsal where
  tree := (["work"], .directory) :: system
  home := ["work"]
  environment :=
    [("PATH", "/" ++ clientDirectory ++ ":/usr/bin:/bin"), ("HOME", "/root"), ("LC_ALL", "C")]

end Rehearsal

end UnitHealth
