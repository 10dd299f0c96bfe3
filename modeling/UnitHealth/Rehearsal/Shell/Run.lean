import UnitHealth.Rehearsal.Shell.Builtins
import UnitHealth.Rehearsal.Shell.Grammar
import UnitHealth.Rehearsal.Shell.Launch
import UnitHealth.Rehearsal.Shell.Utility

/-!
# Running commands

A command runs with or without regard to its status: where the status is tested, a failure is
expected. Programs, subshells, stages of a pipeline and commands whose output is taken run in a copy
of the process. The stages of a pipeline run one after another, each on the whole output of the one
before it.

Commands contain commands, and scripts start scripts, so running is tied together by a bound on how
deep this goes.
-/

namespace UnitHealth.Rehearsal.Shell

structure Engine where
  /-- Run a command. The flag tells whether its status is tested. -/
  command : Bool → Command → Act Nat
  /-- Run the text of a script. -/
  text : Bool → Bytes → Act Nat
  /-- Be a program, with its arguments, of which the first is its name. -/
  program : String → List Bytes → Act Nat

namespace Engine

variable (e : Engine)

/-! ## Processes -/

def endingOf (result : Except Stop Nat) (status : Nat) : Ending :=
  match result with
  | .ok status => .exit (status % 256)
  | .error (.replaced ending) => ending
  | .error (.killed signal) => .signal signal
  | .error .endless => .signal Signal.pipe
  | .error _ => .exit (status % 256)

def closing (act : Act Nat) : Act Ending := do
  let result ← catching act
  return endingOf result (← get).status

/-- Run an action in a copy of the process. Gives its status, after a signal that has ended the copy
is reported. A signal that the copy sends goes to the process itself. -/
def fork (act : Act Nat) : Act Nat := do
  let parent ← get
  let result ← catching act
  let s ← get
  set { parent with toComputer := s.toComputer }
  if let .error (.killed signal) := result then throw (.killed signal)
  match endingOf result s.status with
  | .exit status => return status
  | .signal number =>
    let text := Signal.text number
    if text ≠ "" then print 2 (text ++ "\n").toList
    return 128 + number

/-! ## Programs -/

/-- The words of a shell for a reason. A name under which there is nothing has words that depend on
what was tried. -/
def reason (missing : String) (e : IoError) : Bytes :=
  if e = .notFound ∨ e = .notADirectory then missing.toList else Bytes.ofText e.reason

def refusalStatus (e : IoError) : Nat :=
  if e = .notFound ∨ e = .notADirectory ∨ e = .nameTooLong ∨ e = .tooManyLinks then 127 else 126

/-- The launch of a program by its name. A file that names no interpreter is a script of the
shell. -/
def launchOf (name : Bytes) (arguments : List Bytes) : Act (Except IoError Launch) := do
  let s ← get
  if !name.contains '/' then
    let path := ((← value? "PATH".toList).getD []).splitOnP (· == ':')
    return Launch.ofName s.tree s.directory name arguments .notFound path
  match Launch.ofPath s.tree s.directory name name arguments with
  | .error .notExecutable => return .ok ⟨"sh", "/bin/sh".toList :: name :: arguments⟩
  | launch => return launch

/-- Be a program from now on, or leave because there is none. -/
def become (words : List Bytes) : Act Nat := do
  let name := words.headD []
  match ← launchOf name words.tail with
  | .ok launch => throw (.replaced (← closing (e.program launch.program launch.arguments)))
  | .error problem =>
    warn (name ++ ": ".toList ++ reason "not found" problem)
    modify fun s => { s with status := refusalStatus problem }
    throw .leave

/-! ## Words -/

def outputOf (command : Command) : Act Bytes := do
  let i ← newChannel (.pipe [])
  let substituted ← fork do
    direct 1 (some i)
    e.command false command
  modify fun s => { s with substituted }
  match (← get).channels[i]? with
  | some (.pipe content) => return content
  | _ => return []

def words (all : List Word) : Act (List Bytes) := do
  return (← all.mapM (Expansion.words e.outputOf)).flatten

def single (word : Word) : Act Bytes := Expansion.single e.outputOf word

/-! ## Redirections -/

/-- The channel of a file that is opened. -/
def openFile (opening : Opening) (path : Bytes) : Act (Except IoError Nat) := do
  let writing (place : Place) (content : Text.Octets) : Act (Except IoError Nat) := do
    modify fun s => { s with tree := s.tree.writeAt place content }
    return .ok (← newChannel (.file place))
  match ← reach path, opening with
  | .error problem, _ => return .error problem
  | .ok (_, some (.device .null)), _ => return .ok (← newChannel .null)
  | .ok (_, some (.device (.descriptor n))), _ =>
    return ((← channel? n).map Prod.fst).elim (.error .notFound) .ok
  | .ok (_, some .directory), .read => return .ok (← newChannel .directory)
  | .ok (_, some .directory), _ => return .error .isADirectory
  | .ok (_, none), .read => return .error .notFound
  | .ok (place, some _), .read =>
    return .ok (← newChannel (.pipe (Bytes.ofOctets (← contentAt place))))
  | .ok (place, _), .append => writing place (← contentAt place)
  | .ok (place, item), .write =>
    if item.isSome ∧ (← isSet 'C') then return .error (.system 17)
    writing place []

def directTo (descriptor : Nat) (target : Target) : Act Unit := do
  match target with
  | .file opening name =>
    let path ← e.single name
    match ← openFile opening path with
    | .ok i => direct descriptor (some i)
    | .error problem =>
      let (verb, missing) := if opening = .read then ("open", "No such file")
        else ("create", "Directory nonexistent")
      fail (("cannot " ++ verb ++ " ").toList ++ path ++ ": ".toList ++ reason missing problem)
  | .descriptor name =>
    match ← e.single name with
    | ['-'] => direct descriptor none
    | source =>
      if source.isEmpty ∨ !source.all Char.isDigit then failText "Syntax error: Bad fd number"
      match ← channel? (digitsValue 10 source) with
      | some (i, _) => direct descriptor (some i)
      | none => fail (source ++ ": ".toList ++ Bytes.ofText badDescriptor.reason)
  | .text word => direct descriptor (some (← newChannel (.pipe (← e.single word))))

/-- Carry out redirections. Gives whether all of them could be carried out. -/
def redirect (redirects : List Redirect) : Act Bool := do
  let all := redirects.forM fun (.mk descriptor target) => e.directTo descriptor target
  match ← catching all with
  | .ok () => return true
  | .error .failure => return false
  | .error stop => throw stop

/-- Run an action after which descriptors lead to where they led before. -/
def restoring {α : Type} (act : Act α) : Act α := do
  let { descriptors, .. } ← get
  ensuring act (modify fun s => { s with descriptors })

/-! ## Scripts -/

/-- Show the lines of a script from the one at a source up to a number, if an option asks for it. -/
def showLines (script : Bytes) (source : Source) (last : Nat) : Act Unit := do
  if (← isSet 'v') ∧ !source.rest.isEmpty then
    let lines := script.splitOnP (· == '\n')
    let lines := lines.dropLast.map (·.concat '\n') ++ [lines.getLastD []]
    print 2 ((lines.take last).drop (source.line - 1)).flatten

/-- Read a script line by line and run each line. With the flag its lines are shown when they are
read, if an option asks for it. -/
def runLines (tested isFile : Bool) (script : Bytes) : Nat → Source → Nat → Act Nat
  | 0, _, status => return status
  | fuel + 1, source, status => do
    let result := Reader.line.run source
    let (line, after) := match result with
      | .ok line after => (Except.ok line, after)
      | .error message after => (Except.error message, after)
    -- An end of a line that is unexpected has been counted like any other.
    let last := match line, after.ahead with
      | .ok _, _ | _, some .newline => after.line - 1
      | _, _ => after.line
    if isFile then showLines script source (if after.rest.isEmpty then script.length + 1 else last)
    match line with
    | .error message =>
      modify fun s => { s with line := after.line }
      failText message
    | .ok none => return status
    | .ok (some commands) =>
      let status ← commands.foldlM (fun _ command => e.command tested command) status
      runLines tested isFile script fuel after status

def runText (tested isFile : Bool) (script : Bytes) : Act Nat :=
  e.runLines tested isFile script (script.length + 2) (.start script) 0

/-! ## Simple commands -/

inductive Callee where
  | function (body : Command)
  | builtin (name : String) (act : Act Nat)
  | program

def builtin? (tested : Bool) (name : String) (arguments : List Bytes) : Option (Act Nat) :=
  match name with
  | "eval" => some (e.text tested (Bytes.join [' '] arguments))
  | "exec" => some (if arguments.isEmpty then return 0 else e.become arguments)
  | _ => Builtins.run? name arguments

def calleeOf (tested : Bool) (name : Bytes) (arguments : List Bytes) : Act Callee := do
  match (← get).functions.lookup name with
  | some body => return .function body
  | none =>
    let name := String.ofList name
    return (e.builtin? tested name arguments).elim .program (.builtin name)

/-- Show a command before it runs, if an option asks for it. -/
def trace (channel : Option Nat) (settings words : List Bytes) : Act Unit := do
  if ← isSet 'x' then
    restoring do
      direct 2 channel
      print 2 ("+ ".toList ++ Bytes.join [' '] (settings ++ words) ++ ['\n'])

/-- Give variables their values. Gives the settings as they are shown. -/
def assign (exported : Bool) (settings : List Word) : Act (List Bytes) :=
  settings.mapM fun word => do
    let name := word.settingName?.getD []
    let value ← e.single (word.drop (name.length + 1))
    setVariable name value
    if exported then handDown name
    return name ++ '=' :: value

/-- Call a function, in which the arguments are the parameters. -/
def callFunction (tested : Bool) (body : Command) (arguments : List Bytes) : Act Nat := do
  let { parameters, loops, .. } ← get
  modify fun s => { s with parameters := arguments, loops := 0 }
  let result ← catching (e.command tested body)
  modify fun s => { s with parameters, loops }
  match result with
  | .error .function => return (← get).status
  | other => liftM other

/-- Call one of the commands of the shell. A failure of an ordinary one is only a status. -/
def callBuiltin (name : String) (act : Act Nat) : Act Nat := do
  let { speaker, .. } ← get
  modify fun s => { s with speaker := some name.toList }
  match ← catching (ensuring act (modify fun s => { s with speaker })) with
  | .error .failure =>
    if Builtins.special.contains name then throw .failure
    return (← get).status
  | other => liftM other

/-- Call a command with descriptors that lead to where they are needed. The channel is the one on
which the command is shown. -/
def call (tested : Bool) (channel : Option Nat) (settings : List Word) (redirects : List Redirect)
    (arguments : List Bytes) : Act Nat := do
  let before := (← get).bindings
  let callee ← e.calleeOf tested (arguments.headD []) arguments.tail
  let special := match callee with
    | .builtin name _ => Builtins.special.contains name
    | _ => false
  if !(← e.redirect redirects) then
    if special then throw .failure
    return 2
  let shown ← e.assign true settings
  trace channel shown arguments
  let status ← match callee with
    | .function body => e.callFunction tested body arguments.tail
    | .builtin name act => callBuiltin name act
    | .program => fork (e.become arguments)
  if !special then
    settings.forM fun word =>
      let name := word.settingName?.getD []
      putVariable name (before.lookup name)
  return status

def simple (tested : Bool) (line : Nat) (settings words : List Word) (redirects : List Redirect) :
    Act Nat := do
  modify fun s => { s with line, substituted := 0 }
  let channel := (← get).descriptors.lookup 2
  match ← e.words words with
  | [] =>
    restoring do
      if !(← e.redirect redirects) then return 2
      trace channel (← e.assign false settings) []
      return (← get).substituted
  | arguments =>
    let act := e.call tested channel settings redirects arguments
    if redirects.isEmpty ∨ arguments.head? = some "exec".toList then act else restoring act

/-! ## Compound commands -/

/-- Run a round of a loop. Gives its status, and whether the loop goes on. -/
def round (act : Act Nat) : Act (Nat × Bool) := do
  match ← catching act with
  | .ok status => return (status, true)
  | .error (.loop 1 goesOn) => return (0, goesOn)
  | .error (.loop count goesOn) => throw (.loop (count - 1) goesOn)
  | .error stop => throw stop

def roundLimit : Nat := 1000000

def rounds (tested untilTrue : Bool) (condition body : Command) : Nat → Nat → Act Nat
  | 0, _ => throw .endless
  | fuel + 1, status => do
    let (value, goesOn) ← round (e.command true condition)
    if !goesOn ∨ (value = 0) = untilTrue then return status
    let (status, goesOn) ← round (e.command tested body)
    if goesOn then rounds tested untilTrue condition body fuel status else return status

def iterate (tested : Bool) (name : Bytes) (body : Command) : List Bytes → Nat → Act Nat
  | [], status => return status
  | word :: rest, _ => do
    setVariable name word
    let (status, goesOn) ← round (e.command tested body)
    if goesOn then iterate tested name body rest status else return status

def inLoop (act : Act Nat) : Act Nat := do
  let { loops, .. } ← get
  modify fun s => { s with loops := loops + 1 }
  ensuring act (modify fun s => { s with loops })

def runCases (tested : Bool) (word : Bytes) : List (List Word × Command) → Act Nat
  | [] => return 0
  | (patterns, body) :: rest => do
    if ← patterns.anyM fun p => return (← Expansion.pattern e.outputOf p).accepts word then
      e.command tested body
    else runCases tested word rest

/-- Run stages of a pipeline, the first of them on the input of a channel, where one is given. -/
def runStages (tested : Bool) : Option Nat → List Command → Act Nat
  | _, [] => return 0
  | input, stage :: rest => do
    let output ← if rest.isEmpty then pure none else do pure (some (← newChannel (.pipe [])))
    let status ← fork do
      if input.isSome then direct 0 input
      if output.isSome then direct 1 output
      e.command tested stage
    if rest.isEmpty then return status else runStages tested output rest

/-- Run a command, without regard to what follows it. -/
def evaluate (tested : Bool) : Command → Act Nat
  | .simple line settings words redirects => e.simple tested line settings words redirects
  | .pipeline stages => e.runStages tested none stages
  | .joined afterSuccess first second => do
    let status ← e.command true first
    if (status = 0) = afterSuccess then e.command tested second else return status
  | .negated command => do
    return if (← e.command true command) = 0 then 1 else 0
  | .sequence commands => commands.foldlM (fun _ command => e.command tested command) 0
  | .subshell command => fork (e.command tested command)
  | .redirected line command redirects => do
    modify fun s => { s with line }
    restoring do
      if ← e.redirect redirects then e.command tested command else return 2
  | .choice condition accepted otherwise => do
    if (← e.command true condition) = 0 then e.command tested accepted
    else otherwise.elim (return 0) (e.command tested)
  | .loop untilTrue condition body => inLoop (e.rounds tested untilTrue condition body roundLimit 0)
  | .iteration line name words body => do
    modify fun s => { s with line }
    let words ← e.words words
    inLoop (e.iterate tested name body words 0)
  | .cases line word clauses => do
    modify fun s => { s with line }
    e.runCases tested (← e.single word) clauses
  | .definition name body => do
    modify fun s =>
      { s with
        functions := (name, body) :: s.functions.filter fun entry => entry.1 != name }
    return 0

/-- Whether an option ends the shell after a failure of a command of this kind. -/
def isChecked : Command → Bool
  | .simple .. | .subshell .. | .pipeline .. => true
  | _ => false

def runCommand (tested : Bool) (command : Command) : Act Nat := do
  if ← isSet 'n' then return 0
  let status ← e.evaluate tested command
  modify fun s => { s with status }
  if status ≠ 0 ∧ !tested ∧ isChecked command ∧ (← isSet 'e') then throw .leave
  return status

/-! ## Being a shell -/

/-- The state of a shell that starts under a name. It takes over the variables that are handed to
programs. -/
def startOf (s : State) (name : Bytes) : State :=
  let { directory, descriptors, bindings, .. } := s
  let bindings := bindings.filter fun (_, v) => v.exported
  { s with toProcess := { directory, descriptors, bindings, name } }

/-- Read the options of a shell. Gives the words that are left, and whether the first of them is a
script itself. -/
def shellOptions : Nat → Bool → List Bytes → Act (List Bytes × Bool)
  | 0, isText, words => return (words, isText)
  | fuel + 1, isText, words => do
    match words with
    | ['-'] :: rest | ['-', '-'] :: rest => return (rest, isText)
    | (sign :: cs) :: rest =>
      if sign ≠ '-' ∧ sign ≠ '+' then return (words, isText)
      let rest ← Builtins.switchWord (sign == '-') (cs.filter (· ≠ 'c')) rest
      shellOptions fuel (isText || cs.contains 'c') rest
    | _ => return (words, isText)

def scriptOf (path : Bytes) : Act Bytes := do
  match ← reach path with
  | .ok (_, some .directory) => return []
  | .ok (place, some _) => return Bytes.ofOctets (← contentAt place)
  | .ok (_, none) => fail ("cannot open ".toList ++ path ++ ": No such file".toList)
  | .error problem =>
    fail ("cannot open ".toList ++ path ++ ": ".toList ++ reason "No such file" problem)

def shell (arguments : List Bytes) : Act Nat := do
  modify fun s => startOf s (arguments.headD [])
  let (words, isText) ← shellOptions (arguments.length + 1) false arguments.tail
  match words, isText with
  | [], true => failText "-c requires an argument"
  | [], false =>
    match ← readAll 0 with
    | .ok script => e.runText false true script
    | .error _ => return 0
  | script :: rest, true =>
    modify fun s => { s with name := rest.headD s.name, parameters := rest.tail, line := 1 }
    e.runText false false script
  | path :: rest, false =>
    let script ← scriptOf path
    modify fun s => { s with name := path, parameters := rest }
    e.runText false true (script.filter (· ≠ '\x00'))

def runProgram (name : String) (arguments : List Bytes) : Act Nat :=
  match Utility.programs.lookup name with
  | some program => program (arguments.headD []) arguments.tail
  | none => e.shell arguments

/-- The engine for commands that lie inside each other at most so deep. -/
def upTo : Nat → Engine
  | 0 => ⟨fun _ _ => throw .endless, fun _ _ => throw .endless, fun _ _ => throw .endless⟩
  | n + 1 =>
    { command := fun tested command => (upTo n).runCommand tested command
      text := fun tested text => (upTo n).runText tested false text
      program := fun name arguments => (upTo n).runProgram name arguments }

def depthLimit : Nat := 1000

def programNames : List String := "sh" :: Utility.programs.map Prod.fst

/-- Be a program that is launched, and end. -/
def execute (l : Launch) : Act Ending :=
  closing ((upTo depthLimit).program l.program l.arguments)

end Engine

end UnitHealth.Rehearsal.Shell
