import UnitHealth.Rehearsal.Shell.Command

/-!
# Reading a script

A shell reads its script from the front, with at most one token read ahead. The source is the part
of the script that is not read yet, with the number of the line that it has come to. A backslash
before the end of a line vanishes together with it, except between single quotes.

The text of a redirection follows after the line that asks for it. It is taken out of the script at
once, so that what is left reads as if it had never been there, and its lines are counted when the
line at hand ends.
-/

namespace UnitHealth.Rehearsal.Shell

inductive Token where
  | ending
  | newline
  | operator (text : String)
  /-- The start of a redirection. -/
  | arrow (descriptor : Nat) (text : String)
  | word (word : Word)

namespace Token

/-- The words that are no names of commands. -/
def reserved : List String :=
  ["!", "case", "do", "done", "elif", "else", "esac", "fi", "for", "if", "in", "then", "until",
    "while", "\x7b", "\x7d"]

/-- The text of an operator or of a reserved word. -/
def keyword? : Token → Option String
  | operator text => some text
  | word w => w.literal?.bind fun bytes => reserved.find? fun text => text.toList == bytes
  | _ => none

/-- The name of a token in a message. -/
def name (token : Token) : String :=
  match token.keyword?, token with
  | some text, _ => "\"" ++ text ++ "\""
  | _, ending => "end of file"
  | _, newline => "newline"
  | _, arrow .. => "redirection"
  | _, _ => "word"

/-- Whether a token ends a list of commands. -/
def endsList (token : Token) : Bool :=
  match token.keyword?, token with
  | some text, _ =>
    [")", ";;", "do", "done", "elif", "else", "esac", "fi", "then", "\x7d"].contains text
  | none, ending => true
  | none, _ => false

end Token

structure Source where
  rest : Bytes
  /-- The number of the line at hand. -/
  line : Nat
  /-- The number of lines that have been taken out after the line at hand. -/
  hidden : Nat
  /-- The token that has been read ahead. -/
  ahead : Option Token

def Source.start (script : Bytes) : Source := ⟨script, 1, 0, none⟩

/-- A step of reading, which moves the source or ends with a message. -/
abbrev Reading := EStateM String Source

namespace Reading

def fail {α : Type} (message : String) : Reading α :=
  throw s!"Syntax error: {message}"

/-- A bound on the number of steps in which the rest of the script can be read. -/
def bound : Reading Nat := do
  return (← get).rest.length + 2

/-- Pass octets as they stand. -/
def skip (count : Nat) : Reading Unit :=
  modify fun s =>
    let rest := s.rest.drop count
    match (s.rest.take count).count '\n' with
    | 0 => { s with rest }
    | lines => { s with rest, line := s.line + lines + s.hidden, hidden := 0 }

def takeWhile (test : Char → Bool) : Reading Bytes := do
  let octets := (← get).rest.takeWhile test
  skip octets.length
  return octets

/-- Octets after the ends of lines that a backslash hides, and the number of these. -/
def joined : Bytes → Bytes × Nat
  | '\\' :: '\n' :: rest =>
    let (rest, n) := joined rest
    (rest, n + 1)
  | rest => (rest, 0)

/-- The next octet, which is still to be read. -/
def peek : Reading (Option Char) :=
  modifyGet fun s =>
    let (rest, n) := joined s.rest
    (rest.head?, { s with rest, line := s.line + n })

/-- Take an octet, if it is the next one. -/
def accept (c : Char) : Reading Bool := do
  if (← peek) ≠ some c then return false
  skip 1
  return true

end Reading

end UnitHealth.Rehearsal.Shell
