import UnitHealth.Rehearsal.Shell.Source

/-!
# Words and tokens of a script

A word is read piece by piece in a context, which says whether a quote is open and where the word
ends. Words contain commands and commands contain words, so the readers of both are tied together
by a bound on how deep they lie inside each other.
-/

namespace UnitHealth.Rehearsal.Shell

/-- Where the pieces of a word stand. -/
structure Context where
  quoted : Bool := false
  /-- Whether quotes are octets like others. -/
  isText : Bool := false
  /-- The octets before which the pieces end. -/
  stops : Char → Bool

/-- The readers of what lies inside. -/
structure Reader where
  pieces : Context → Reading Word
  /-- Read a list of commands. With the flag there may be none. -/
  commands : Bool → Reading Command
  command : Reading Command

namespace Reader

variable (r : Reader)

/-! ## Tokens -/

/-- Operators, longer ones before their beginnings. -/
def operators : List String := ["&&", "||", ";;", "&", "|", ";", "(", ")"]

/-- Starts of redirections, longer ones before their beginnings. -/
def arrows : List String := ["<<-", "<<", "<&", "<", ">>", ">&", ">"]

def skipBlanks : Nat → Reading Unit
  | 0 => return
  | fuel + 1 => do
    match ← Reading.peek with
    | some ' ' | some '\t' =>
      Reading.skip 1
      skipBlanks fuel
    | some '#' =>
      let _ ← Reading.takeWhile (· ≠ '\n')
      skipBlanks fuel
    | _ => return

/-- The start of a redirection that octets begin with: its descriptor, its arrow, and how long it
is. -/
def arrow? (bytes : Bytes) : Option (Nat × String × Nat) :=
  let (digits, rest) := match bytes with
    | d :: rest => if d.isDigit then ([d], rest) else ([], bytes)
    | [] => ([], [])
  (arrows.find? fun text => text.toList.isPrefixOf rest).map fun text =>
    let usual := if text.toList.head? = some '<' then 0 else 1
    let descriptor := if digits.isEmpty then usual else digitsValue 10 digits
    (descriptor, text, digits.length + text.length)

def endsWord (c : Char) : Bool :=
  [' ', '\t', '\n', '&', '|', ';', '(', ')', '<', '>'].contains c

def readToken : Reading Token := do
  skipBlanks (← Reading.bound)
  let next ← Reading.peek
  let bytes := (← get).rest
  match next, operators.find? fun text => text.toList.isPrefixOf bytes, arrow? bytes with
  | none, _, _ => return .ending
  | some '\n', _, _ =>
    Reading.skip 1
    return .newline
  | _, some text, _ =>
    Reading.skip text.length
    return .operator text
  | _, _, some (descriptor, text, length) =>
    Reading.skip length
    return .arrow descriptor text
  | _, _, _ => return .word (← r.pieces { stops := endsWord })

/-- The next token, which is still to be taken. -/
def peek : Reading Token := do
  match (← get).ahead with
  | some token => return token
  | none =>
    let token ← r.readToken
    modify fun s => { s with ahead := some token }
    return token

def next : Reading Token := do
  let token ← r.peek
  modify fun s => { s with ahead := none }
  return token

def unexpected {α : Type} : Reading α := do
  let found := (← r.peek).name
  Reading.fail s!"{found} unexpected"

/-- Take an operator or a reserved word, if it is next. -/
def accept (text : String) : Reading Bool := do
  if (← r.peek).keyword? ≠ some text then return false
  let _ ← r.next
  return true

def expect (text : String) : Reading Unit := do
  if !(← r.accept text) then
    let found := (← r.peek).name
    Reading.fail s!"{found} unexpected (expecting \"{text}\")"

/-! ## Pieces of words -/

/-- Read the name of a parameter. -/
def parameterName : Reading Bytes := do
  match ← Reading.peek with
  | some c =>
    if isNameStart c then Reading.takeWhile isNamePart
    else if c.isDigit then Reading.takeWhile Char.isDigit
    else if ['#', '?', '$', '-', '*', '@'].contains c then
      Reading.skip 1
      return [c]
    else throw "Bad substitution"
  | none => throw "Bad substitution"

def operation : Reading Operation := do
  match ← Reading.peek with
  | some '\x7d' => return .value
  | some '%' =>
    Reading.skip 1
    return .withoutEnd (← Reading.accept '%')
  | some '#' =>
    Reading.skip 1
    return .withoutStart (← Reading.accept '#')
  | some c =>
    let usual := [('-', Operation.otherwise), ('+', .instead), ('?', .insist), ('=', .assign)]
    match usual.lookup c with
    | some operation =>
      Reading.skip 1
      return operation
    | none => throw "Bad substitution"
  | none => Reading.fail "Missing '\x7d'"

/-- Read a parameter in braces, after the first of them. -/
def braced (quoted : Bool) : Reading Piece := do
  if ← Reading.accept '#' then
    if ← Reading.accept '\x7d' then return .parameter quoted ['#'] false .value []
    let name ← parameterName
    if !(← Reading.accept '\x7d') then throw "Bad substitution"
    return .parameter quoted name false .length []
  let name ← parameterName
  let emptyIsNone ← Reading.accept ':'
  let operation ← operation
  let quotesWord := match operation with
    | .withoutEnd _ | .withoutStart _ => false
    | _ => quoted
  let word ← r.pieces { quoted := quotesWord, stops := (· == '\x7d') }
  if !(← Reading.accept '\x7d') then Reading.fail "Missing '\x7d'"
  return .parameter quoted name emptyIsNone operation word

/-- Read an arithmetic expression up to the parentheses that close it, where so many inner ones are
open. -/
def expression : Nat → Nat → Reading Word
  | 0, _ => return []
  | fuel + 1, depth => do
    let word ← r.pieces { quoted := true, isText := true, stops := fun c => c == '(' || c == ')' }
    if ← Reading.accept '(' then
      return word ++ .octet true '(' :: (← expression fuel (depth + 1))
    let closed ← Reading.accept ')'
    if closed ∧ 0 < depth then
      return word ++ .octet true ')' :: (← expression fuel (depth - 1))
    if closed ∧ (← Reading.accept ')') then return word
    Reading.fail "Missing '))'"

/-- Read what a dollar sign stands for, after the sign. -/
def dollar (quoted : Bool) : Reading Piece := do
  match ← Reading.peek with
  | some '(' =>
    Reading.skip 1
    if ← Reading.accept '(' then
      return .arithmetic quoted (← r.expression (← Reading.bound) 0)
    let command ← r.commands true
    r.expect ")"
    return .output quoted command
  | some '\x7b' =>
    Reading.skip 1
    r.braced quoted
  | some c =>
    if isNameStart c then
      return .parameter quoted (← Reading.takeWhile isNamePart) false .value []
    if c.isDigit ∨ ['#', '?', '$', '-', '*', '@'].contains c then
      Reading.skip 1
      return .parameter quoted [c] false .value []
    return .octet quoted '$'
  | none => return .octet quoted '$'

/-- Read what a backslash stands for, after it. -/
def escape (k : Context) : Reading Word := do
  match (← get).rest with
  | [] => return [.octet true '\\']
  | c :: _ =>
    Reading.skip 1
    let hides := !k.quoted || ['\\', '$', '`'].contains c || (c == '"' && !k.isText) || k.stops c
    return if hides then [.octet true c] else [.octet true '\\', .octet true c]

def unterminated {α : Type} : Reading α := Reading.fail "Unterminated quoted string"

def singleQuoted : Reading Word := do
  let octets ← Reading.takeWhile (· ≠ '\'')
  if !(← Reading.accept '\'') then unterminated
  return .mark :: octets.map (.octet true)

/-- Read what stands between double quotes. The list of all parameters gets no mark, because it can
stand for no word at all. -/
def doubleQuoted : Reading Word := do
  let word ← r.pieces { quoted := true, stops := (· == '"') }
  if !(← Reading.accept '"') then unterminated
  match word with
  | [.parameter _ ['@'] false .value _] => return word
  | _ => return .mark :: word

/-- Read the piece of a word that begins with an octet. -/
def piece (k : Context) (c : Char) : Reading Word := do
  Reading.skip 1
  match c with
  | '\\' => escape k
  | '$' => return [← r.dollar k.quoted]
  | '\'' => if k.quoted then return [.octet true c] else singleQuoted
  | '"' => if k.isText then return [.octet true c] else r.doubleQuoted
  | _ => return [.octet k.quoted c]

def piecesUpTo (k : Context) : Nat → Reading Word
  | 0 => return []
  | fuel + 1 => do
    match ← Reading.peek with
    | none => return []
    | some c =>
      if k.stops c then return []
      let first ← r.piece k c
      return first ++ (← piecesUpTo k fuel)

end Reader

end UnitHealth.Rehearsal.Shell
