import UnitHealth.Rehearsal.Shell.Condition
import UnitHealth.Rehearsal.Shell.Expansion
import UnitHealth.Rehearsal.Shell.Format

/-!
# Commands of the shell

Most commands of a shell change the shell itself and could be no programs of their own. Each takes
its arguments and gives its status. The commands here need nothing but the state; those that run
other commands are defined together with the running of commands.
-/

namespace UnitHealth.Rehearsal.Shell.Builtins

def numberOf (argument : Bytes) : Act Nat := do
  match natural? argument with
  | some n => return n
  | none => fail ("Illegal number: ".toList ++ argument)

/-- The number of the first argument, if there is one. -/
def firstNumber (usual : Nat) (arguments : List Bytes) : Act Nat :=
  match arguments with
  | [] => return usual
  | argument :: _ => numberOf argument

/-! ## Variables -/

/-- Let programs get variables, and give them values where arguments name them. -/
def exportAll (arguments : List Bytes) : Act Nat := do
  arguments.forM fun argument => do
    match Bytes.cut? '=' argument with
    | some (name, value) =>
      setVariable name value
      handDown name
    | none => handDown argument
  return 0

def unset (arguments : List Bytes) : Act Nat := do
  arguments.forM (putVariable · none)
  return 0

/-! ## Options and parameters -/

def optionNames : List (String × Char) :=
  [("errexit", 'e'), ("noexec", 'n'), ("xtrace", 'x'), ("verbose", 'v'), ("noclobber", 'C'),
    ("nounset", 'u')]

def switch (on : Bool) (c : Char) : Act Unit := do
  if optionNames.all fun entry => entry.2 != c then fail ("Illegal option -".toList ++ [c])
  modify fun s =>
    let others := s.options.filter (· ≠ c)
    { s with options := if on then c :: others else others }

/-- Switch the options of a word, of which some have their name in the words after it. Gives the
words that are left. -/
def switchWord (on : Bool) : Bytes → List Bytes → Act (List Bytes)
  | [], words => return words
  | 'o' :: cs, name :: words => do
    match optionNames.lookup (String.ofList name) with
    | some c => switch on c
    | none => fail ("Illegal option -o ".toList ++ name)
    switchWord on cs words
  | c :: cs, words => do
    switch on c
    switchWord on cs words

def set : Nat → List Bytes → Act Nat
  | fuel + 1, ('-' :: c :: cs) :: rest => do
    if c ≠ '-' then return ← set fuel (← switchWord true (c :: cs) rest)
    modify fun s => { s with parameters := rest }
    return 0
  | fuel + 1, ('+' :: cs) :: rest => do set fuel (← switchWord false cs rest)
  | _, [] => return 0
  | _, parameters => do
    modify fun s => { s with parameters }
    return 0

def shift (arguments : List Bytes) : Act Nat := do
  let n ← firstNumber 1 arguments
  let s ← get
  if s.parameters.length < n then failText "can't shift that many"
  MonadState.set { s with parameters := s.parameters.drop n }
  return 0

/-! ## Loops and ends -/

/-- Leave loops, of which the last may go on with its next round. -/
def leaveLoops (goesOn : Bool) (arguments : List Bytes) : Act Nat := do
  let n ← firstNumber 1 arguments
  if n = 0 then failText "Illegal number: 0"
  let loops := (← get).loops
  if 0 < loops then throw (.loop (min n loops) goesOn)
  return 0

/-- End with the status that an argument names, or with the last one. -/
def leave (stop : Stop) (arguments : List Bytes) : Act Nat := do
  let status ← firstNumber (← get).status arguments
  modify fun s => { s with status }
  throw stop

/-! ## Signals -/

def killUsage : String :=
  "Usage: kill [-s sigspec | -signum | -sigspec] [pid | job]... or\nkill -l [exitstatus]"

/-- The signal that arguments ask for, and the words after it. -/
def signalOf (arguments : List Bytes) : Act (Nat × List Bytes) := do
  let named (name : Bytes) (rest : List Bytes) (other : Bytes) : Act (Nat × List Bytes) :=
    match Signal.ofBytes? name with
    | some signal => return (signal, rest)
    | none => fail other
  match arguments with
  | ['-', 's'] :: name :: rest =>
    named name rest ("invalid signal number or name: ".toList ++ name)
  | ('-' :: name) :: rest => named name rest ("Illegal option -".toList ++ name.take 1)
  | _ => return (Signal.terminate, arguments)

/-- Send a signal to processes, of which the process at hand is the only one that it knows. -/
def kill (arguments : List Bytes) : Act Nat := do
  let (signal, words) ← signalOf arguments
  if words.isEmpty then failText killUsage
  words.foldlM (fun status word => do
    if (← numberOf word) ≠ processNumber then
      warn "No such process\n".toList
      return 1
    if !Signal.isHarmless signal then throw (.killed signal)
    return status) 0

/-! ## Input and output -/

def echo (arguments : List Bytes) : Act Nat := do
  print 1 (Format.echo arguments)
  return 0

def printf (arguments : List Bytes) : Act Nat := do
  let arguments := if arguments.head? = some ['-', '-'] then arguments.tail else arguments
  match arguments with
  | [] => failText "usage: printf format [arg ...]"
  | format :: rest =>
    let result := Format.run format rest
    result.complaints.forM warn
    print 1 result.output
    if let some message := result.failure then fail message
    return if result.complaints.isEmpty then 0 else 1

/-- The glyphs of a line that is read, of which a backslash may protect some, and the number of
octets up to its end. -/
def lineOf (raw : Bool) : Bytes → List Glyph × Nat
  | [] => ([], 0)
  | '\n' :: _ => ([], 1)
  | [c] => ([⟨c, false⟩], 1)
  | c :: d :: rest =>
    if c = '\\' ∧ !raw then
      let (glyphs, count) := lineOf raw rest
      (if d = '\n' then glyphs else ⟨d, true⟩ :: glyphs, count + 2)
    else
      let (glyphs, count) := lineOf raw (d :: rest)
      (⟨c, false⟩ :: glyphs, count + 1)

/-- Give names the fields of a line in order. The last name gets all that is left. -/
def giveFields (separators : Bytes) : List Bytes → List Glyph → Act Unit
  | [], _ => return
  | name :: names, line => do
    let ends (g : Glyph) : Bool := !g.quoted && separators.contains g.octet
    let isBlank (g : Glyph) : Bool := ends g && isSpace g.octet
    let line := line.dropWhile isBlank
    let field := if names.isEmpty then (line.reverse.dropWhile isBlank).reverse
      else line.takeWhile (!ends ·)
    setVariable name (field.map Glyph.octet)
    let rest := (line.drop field.length).dropWhile isBlank
    giveFields separators names (if rest.head?.any ends then rest.tail else rest)

def read (arguments : List Bytes) : Act Nat := do
  let raw := arguments.head? == some ['-', 'r']
  let names := if raw then arguments.tail else arguments
  if names.isEmpty then failText "arg count"
  let bytes := match ← waiting 0 with
    | .ok bytes => bytes
    | .error _ => []
  let (glyphs, count) := lineOf raw bytes
  advance 0 count
  giveFields (← Expansion.separators) names glyphs
  return if (bytes.take count).getLast? = some '\n' then 0 else 1

/-! ## The list of commands -/

/-- The commands of which a failure ends the shell, and before which settings stay. -/
def special : List String :=
  [":", "break", "continue", "eval", "exec", "exit", "export", "return", "set", "shift", "unset"]

/-- Run one of the shell's own commands that need nothing but the state. -/
def run? (name : String) (arguments : List Bytes) : Option (Act Nat) :=
  match name with
  | ":" | "true" => some (return 0)
  | "false" => some (return 1)
  | "break" => some (leaveLoops false arguments)
  | "continue" => some (leaveLoops true arguments)
  | "echo" => some (echo arguments)
  | "exit" => some (leave .leave arguments)
  | "export" => some (exportAll arguments)
  | "kill" => some (kill arguments)
  | "printf" => some (printf arguments)
  | "read" => some (read arguments)
  | "return" => some (leave .function arguments)
  | "set" => some (set (arguments.length + 1) arguments)
  | "shift" => some (shift arguments)
  | "test" => some (Condition.status arguments)
  | "[" => some do
    if arguments.getLast? ≠ some [']'] then failText "missing ]"
    Condition.status arguments.dropLast
  | "unset" => some (unset arguments)
  | _ => none

end UnitHealth.Rehearsal.Shell.Builtins
