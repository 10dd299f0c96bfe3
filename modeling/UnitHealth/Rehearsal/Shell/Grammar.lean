import UnitHealth.Rehearsal.Shell.Lexer

/-!
# The grammar of a shell

A script is read one line of commands at a time, and a line goes on as long as a command in it is
not finished. Words that the grammar reserves count only where a command may begin, and an end of a
line counts only where the commands before it are finished.
-/

namespace UnitHealth.Rehearsal.Shell

namespace Reader

variable (r : Reader)

def skipLines : Nat → Reading Unit
  | 0 => return
  | fuel + 1 => do
    if let .newline ← r.peek then
      let _ ← r.next
      skipLines fuel

/-- Take the end of a command, if it is next. -/
def separator : Reading Bool := do
  match ← r.peek with
  | .newline | .operator ";" =>
    let _ ← r.next
    return true
  | _ => return false

def word : Reading Word := do
  match ← r.peek with
  | .word w =>
    let _ ← r.next
    return w
  | _ => r.unexpected

def words : Nat → Reading (List Word)
  | 0 => return []
  | fuel + 1 => do
    match ← r.peek with
    | .word w =>
      let _ ← r.next
      return w :: (← words fuel)
    | _ => return []

/-! ## Redirections -/

/-- The text before the line that ends it, and the lines after that one. With the flag lines lose
the tabs at their start. -/
def document (withoutTabs : Bool) (mark : Bytes) (lines : List Bytes) : Bytes × List Bytes :=
  let shown (line : Bytes) : Bytes := if withoutTabs then line.dropWhile (· == '\t') else line
  match lines.span (shown · ≠ mark) with
  | (content, []) => (Bytes.join ['\n'] (content.map shown), [])
  | (content, _ :: after) => (content.flatMap fun line => (shown line).concat '\n', after)

/-- Take the text of a redirection out of the script. -/
def text (withoutTabs : Bool) : Reading Target := do
  let mark ← r.word
  let s ← get
  let line := s.rest.takeWhile (· ≠ '\n')
  let lines := (s.rest.drop (line.length + 1)).splitOnP (· == '\n')
  let (octets, after) := document withoutTabs mark.octets lines
  let word ← if mark.isQuoted then pure (octets.map (.octet true)) else do
    set { s with rest := octets }
    r.pieces { quoted := true, isText := true, stops := fun _ => false }
  let hidden := s.hidden + (lines.length - after.length)
  set { s with rest := line ++ '\n' :: Bytes.join ['\n'] after, hidden }
  return .text word

def redirect (descriptor : Nat) (arrow : String) : Reading Redirect := do
  let target ← match arrow with
    | "<<" => r.text false
    | "<<-" => r.text true
    | "<" => do pure (Target.file .read (← r.word))
    | ">" => do pure (Target.file .write (← r.word))
    | ">>" => do pure (Target.file .append (← r.word))
    | _ => do pure (Target.descriptor (← r.word))
  return .mk descriptor target

def redirects : Nat → Reading (List Redirect)
  | 0 => return []
  | fuel + 1 => do
    match ← r.peek with
    | .arrow descriptor arrow =>
      let _ ← r.next
      return (← r.redirect descriptor arrow) :: (← redirects fuel)
    | _ => return []

/-! ## Commands -/

/-- Read the body of a function, after its name and the first parenthesis. -/
def definition (name : Word) : Reading Command := do
  r.expect ")"
  match name.literal? with
  | some name =>
    if !isName name then Reading.fail "Bad function name"
    r.skipLines (← Reading.bound)
    return .definition name (← r.command)
  | none => Reading.fail "Bad function name"

/-- Read a simple command, or a definition. What has been read of it is in reverse. -/
def simple (line : Nat) : Nat → List Word → List Word → List Redirect → Reading Command
  | 0, _, _, _ => r.unexpected
  | fuel + 1, settings, words, redirects => do
    match ← r.peek, words, settings, redirects with
    | .word w, _, _, _ =>
      let _ ← r.next
      if words.isEmpty ∧ w.settingName?.isSome then simple line fuel (w :: settings) words redirects
      else simple line fuel settings (w :: words) redirects
    | .arrow descriptor arrow, _, _, _ =>
      let _ ← r.next
      simple line fuel settings words ((← r.redirect descriptor arrow) :: redirects)
    | .operator "(", [name], [], [] =>
      let _ ← r.next
      r.definition name
    | _, _, _, _ => return .simple line settings.reverse words.reverse redirects.reverse

def choice : Nat → Reading Command
  | 0 => r.unexpected
  | fuel + 1 => do
    let condition ← r.commands false
    r.expect "then"
    let accepted ← r.commands false
    if ← r.accept "elif" then return .choice condition accepted (some (← choice fuel))
    if ← r.accept "else" then return .choice condition accepted (some (← r.commands false))
    return .choice condition accepted none

def loop (untilTrue : Bool) : Reading Command := do
  let condition ← r.commands false
  r.expect "do"
  return .loop untilTrue condition (← r.commands false)

/-- The word for all parameters, each by itself. -/
def allParameters : Word := [.parameter true ['@'] false .value []]

def iteration (line : Nat) : Reading Command := do
  let name := match ← r.next with
    | .word w => w.literal?.getD []
    | _ => []
  if !isName name then Reading.fail "Bad for loop variable"
  r.skipLines (← Reading.bound)
  let words ← if ← r.accept "in" then do
      let words ← r.words (← Reading.bound)
      if !(← r.separator) then r.unexpected
      pure words
    else do
      let _ ← r.accept ";"
      pure [allParameters]
  r.skipLines (← Reading.bound)
  r.expect "do"
  return .iteration line name words (← r.commands false)

def patterns : Nat → Reading (List Word)
  | 0 => return []
  | fuel + 1 => do
    let first ← r.word
    if ← r.accept "|" then return first :: (← patterns fuel)
    return [first]

def clauses : Nat → Reading (List (List Word × Command))
  | 0 => return []
  | fuel + 1 => do
    r.skipLines (← Reading.bound)
    if (← r.peek).keyword? = some "esac" then return []
    let _ ← r.accept "("
    let patterns ← r.patterns (← Reading.bound)
    r.expect ")"
    let body ← r.commands true
    if ← r.accept ";;" then return (patterns, body) :: (← clauses fuel)
    return [(patterns, body)]

def cases (line : Nat) : Reading Command := do
  let word ← r.word
  r.skipLines (← Reading.bound)
  r.expect "in"
  return .cases line word (← r.clauses (← Reading.bound))

/-- Read a command between two words or parentheses, and the redirections after it. -/
def enclosed (line : Nat) (last : String) (inside : Reading Command) : Reading Command := do
  let _ ← r.next
  let command ← inside
  r.expect last
  let redirects ← r.redirects (← Reading.bound)
  return if redirects.isEmpty then command else .redirected line command redirects

def readCommand : Reading Command := do
  let token ← r.peek
  let line := (← get).line
  match token.keyword?, token with
  | some "if", _ => r.enclosed line "fi" do r.choice (← Reading.bound)
  | some "while", _ => r.enclosed line "done" (r.loop false)
  | some "until", _ => r.enclosed line "done" (r.loop true)
  | some "for", _ => r.enclosed line "done" (r.iteration line)
  | some "case", _ => r.enclosed line "esac" (r.cases line)
  | some "(", _ => r.enclosed line ")" do return .subshell (← r.commands false)
  | some "\x7b", _ => r.enclosed line "\x7d" (r.commands false)
  | none, .word _ | none, .arrow _ _ => r.simple line (← Reading.bound) [] [] []
  | _, _ => r.unexpected

/-! ## Lists -/

def stages : Nat → Reading (List Command)
  | 0 => return []
  | fuel + 1 => do
    let first ← r.readCommand
    if !(← r.accept "|") then return [first]
    r.skipLines (← Reading.bound)
    return first :: (← stages fuel)

def pipeline : Reading Command := do
  let negated ← r.accept "!"
  let command ← match ← r.stages (← Reading.bound) with
    | [command] => pure command
    | stages => pure (.pipeline stages)
  return if negated then .negated command else command

/-- Read the pipelines that are joined to one before them. -/
def joinedTo : Nat → Command → Reading Command
  | 0, first => return first
  | fuel + 1, first => do
    let joint := (← r.peek).keyword?
    if joint ≠ some "&&" ∧ joint ≠ some "||" then return first
    let _ ← r.next
    r.skipLines (← Reading.bound)
    joinedTo fuel (.joined (joint = some "&&") first (← r.pipeline))

def joined : Reading Command := do
  r.joinedTo (← Reading.bound) (← r.pipeline)

/-- Read a list of commands up to a token that ends it. With the flag there may be none. -/
def list : Nat → Bool → Reading (List Command)
  | 0, _ => return []
  | fuel + 1, optional => do
    r.skipLines (← Reading.bound)
    match ← r.peek with
    | .ending => return []
    | token =>
      if optional ∧ token.endsList then return []
      let first ← r.joined
      if ← r.separator then return first :: (← list fuel true)
      return [first]

/-- The reader for commands that lie inside each other at most so deep. -/
def upTo : Nat → Reader
  | 0 =>
    let tooDeep {α : Type} : Reading α := Reading.fail "too deep"
    ⟨fun _ => tooDeep, fun _ => tooDeep, tooDeep⟩
  | depth + 1 =>
    { pieces := fun k s => ((upTo depth).piecesUpTo k (s.rest.length + 1)).run s
      commands := fun optional s =>
        (Command.sequence <$> (upTo depth).list (s.rest.length + 2) optional).run s
      command := fun s => (upTo depth).readCommand.run s }

def depthLimit : Nat := 1000

def lineFrom (r : Reader) : Nat → Reading (List Command)
  | 0 => return []
  | fuel + 1 => do
    match ← r.peek with
    | .ending => return []
    | .newline =>
      let _ ← r.next
      return []
    | _ =>
      let first ← r.joined
      match ← r.peek with
      | .operator ";" =>
        let _ ← r.next
        return first :: (← lineFrom r fuel)
      | .newline | .ending => return first :: (← lineFrom r fuel)
      | _ => r.unexpected

/-- Read the commands of a line. There are none after the end of the script. -/
def line : Reading (Option (List Command)) := do
  let r := upTo depthLimit
  if let .ending ← r.peek then return none
  return some (← r.lineFrom (← Reading.bound))

end Reader

end UnitHealth.Rehearsal.Shell
