import UnitHealth.Rehearsal.Shell.Bytes

/-!
# Commands

The language of a shell. A word is a list of pieces, because what it stands for is known only when
it is expanded: octets that mean themselves, values of parameters, outputs of commands and results
of arithmetic. Every piece knows whether a quote protects it. A quote leaves a mark, so that a word
of nothing but quotes is still a word.
-/

namespace UnitHealth.Rehearsal.Shell

inductive Operation where
  /-- The value. -/
  | value
  /-- The value, or the word where there is none. -/
  | otherwise
  /-- The word where there is a value, and else nothing. -/
  | instead
  /-- The value, or a failure that the word words. -/
  | insist
  /-- The value, after the parameter is given that of the word where it has none. -/
  | assign
  /-- The value without its shortest or its longest end that matches the word. -/
  | withoutEnd (longest : Bool)
  /-- The value without its shortest or its longest beginning that matches the word. -/
  | withoutStart (longest : Bool)
  /-- The length of the value. -/
  | length

/-- What a redirection opens a file for. -/
inductive Opening where
  | read
  | write
  | append
  deriving DecidableEq

mutual

inductive Piece where
  | octet (quoted : Bool) (c : Char)
  /-- The place of a quote. -/
  | mark
  /-- A parameter. With the flag after its name an empty value counts as none. -/
  | parameter (quoted : Bool) (name : Bytes) (emptyIsNone : Bool) (operation : Operation)
      (word : List Piece)
  /-- The output of a command. -/
  | output (quoted : Bool) (command : Command)
  | arithmetic (quoted : Bool) (expression : List Piece)

inductive Target where
  | file (opening : Opening) (name : List Piece)
  /-- The descriptor that a word names. -/
  | descriptor (name : List Piece)
  /-- A text in the script. -/
  | text (content : List Piece)

inductive Redirect where
  | mk (descriptor : Nat) (target : Target)

/-- A command. Numbers are lines of the script. -/
inductive Command where
  | simple (line : Nat) (settings words : List (List Piece)) (redirects : List Redirect)
  | pipeline (stages : List Command)
  /-- Two commands, of which the second runs when the first has succeeded or when it has not. -/
  | joined (afterSuccess : Bool) (first second : Command)
  | negated (command : Command)
  | sequence (commands : List Command)
  | subshell (command : Command)
  | redirected (line : Nat) (command : Command) (redirects : List Redirect)
  | choice (condition accepted : Command) (otherwise : Option Command)
  | loop (untilTrue : Bool) (condition body : Command)
  | iteration (line : Nat) (name : Bytes) (words : List (List Piece)) (body : Command)
  | cases (line : Nat) (word : List Piece) (clauses : List (List (List Piece) × Command))
  | definition (name : Bytes) (body : Command)

end

/-- The pieces of a word, in order. -/
abbrev Word := List Piece

instance : Inhabited Command := ⟨.sequence []⟩

namespace Word

/-- The octets of a word of which nothing is quoted or expanded. -/
def literal? : Word → Option Bytes
  | [] => some []
  | .octet false c :: rest => (literal? rest).map (c :: ·)
  | _ :: _ => none

def isQuoted (word : Word) : Bool :=
  word.any fun
    | .octet quoted _ => quoted
    | .mark => true
    | _ => false

/-- The octets of a word, where nothing is expanded. -/
def octets (word : Word) : Bytes :=
  word.filterMap fun
    | .octet _ c => some c
    | _ => none

/-- The name before the equals sign of a word that gives a parameter a value. -/
def settingName? (word : Word) : Option Bytes :=
  let bare := word.takeWhile fun
    | .octet false c => c ≠ '='
    | _ => false
  match word.drop bare.length with
  | .octet false _ :: _ => if isName (octets bare) then some (octets bare) else none
  | _ => none

end Word

end UnitHealth.Rehearsal.Shell
