import UnitHealth.Toml.Complaint

/-!
# Reading a document from the left

A reader consumes characters from the front of what is left of a document, or fails. A place in
the document is named by what is left there, or by the number of characters that are left. Whoever
holds the whole document can turn such a place into a line and a column.

A failure says where it happened and what the complaint is. It is final, so that the document is
refused, or it only says that the characters are something else, so that another reader may try.
A reader is committed when its failures are final.

Loops take a bound on their rounds. Every round consumes at least one character, so the number of
characters that are left is always enough.
-/

namespace UnitHealth.Toml

/-- A stretch of a document, by the number of characters left at its start and at its end. -/
structure Span where
  leftAtStart : Nat
  leftAtStop : Nat
  deriving DecidableEq

/-- The stretch from the start of the first span to the end of the second. -/
def Span.upTo (first second : Span) : Span where
  leftAtStart := first.leftAtStart
  leftAtStop := second.leftAtStop

/-- Why a reader cannot go on: what was left where it stopped, and the complaint. -/
structure Failure where
  rest : List Char
  complaint : Complaint
  final : Bool
  deriving DecidableEq

def Failure.refusal (f : Failure) : Refusal :=
  ⟨f.rest.length, f.complaint⟩

/-- A step that consumes characters from the front, or fails. -/
abbrev Reader := StateT (List Char) (Except Failure)

namespace Reader

variable {α β : Type}

/-! ## Failing and trying -/

def fail : Reader α := fun cs => .error ⟨cs, .bare, false⟩

def onFailure (change : Failure → Failure) (r : Reader α) : Reader α :=
  fun cs => (r cs).mapError change

/-- Make the failures of a reader final. -/
def commit (r : Reader α) : Reader α :=
  onFailure (fun f => { f with final := true }) r

/-- Name the part of the document that a reader reads. -/
def reading (part : Part) (r : Reader α) : Reader α :=
  onFailure (fun f => { f with complaint := f.complaint.within part }) r

/-- Name what a reader could have consumed. -/
def wanting (more : List Wanted) (r : Reader α) : Reader α :=
  onFailure (fun f => { f with complaint := f.complaint.wanting more }) r

/-- Try a reader. A failure that is not final consumes nothing and gives nothing. -/
def attempt? (r : Reader α) : Reader (Option α) := fun cs =>
  match r cs with
  | .ok (a, rest) => .ok (some a, rest)
  | .error f => if f.final then .error f else .ok (none, cs)

/-- Try a reader, and after a failure that is not final the other one from the same place. -/
def orElse (r s : Reader α) : Reader α := fun cs =>
  match r cs with
  | .ok done => .ok done
  | .error f => if f.final then .error f else s cs

/-- Judge what a reader has read as a whole. When it is found wrong the reader fails, and the place
is the one where it began. -/
def judged (final : Bool) (judge : α → Except Complaint β) (r : Reader α) : Reader β := fun cs =>
  match r cs with
  | .error f => .error f
  | .ok (a, rest) =>
    match judge a with
    | .ok b => .ok (b, rest)
    | .error complaint => .error ⟨cs, complaint, final⟩

/-! ## Characters -/

def rest : Reader (List Char) := get

def left : Reader Nat := do return (← rest).length

/-- The next character, which stays where it is. -/
def peek : Reader (Option Char) := do return (← rest).head?

def one (p : Char → Bool) : Reader Char := do
  match ← rest with
  | c :: tail => if p c then do set tail; return c else fail
  | [] => fail

def char (c : Char) : Reader Unit := do
  let _ ← one (· == c)

/-- Consume the given characters as a whole. -/
def literal (text : List Char) : Reader Unit := do
  let cs ← rest
  if text.isPrefixOf cs then set (cs.drop text.length) else fail

def longest (p : Char → Bool) : Reader (List Char) := do
  let cs ← rest
  set (cs.dropWhile p)
  return cs.takeWhile p

/-- Lift a function that takes characters off the front. -/
def ofFunction (f : List Char → Except Failure (α × List Char)) : Reader α := f

/-- A reader together with the span that it consumes. -/
def spanned (r : Reader α) : Reader (α × Span) := do
  let start ← left
  let a ← r
  return (a, ⟨start, ← left⟩)

/-- At least one item, with the given character between neighbours. The list ends before the
character when no item follows it. -/
def separated (separator : Char) (item : Reader α) : Nat → Reader (List α)
  | 0 => fail
  | fuel + 1 => do
    let first ← item
    let others? ← attempt? do
      char separator
      separated separator item fuel
    return first :: others?.getD []

def list (separator : Char) (item : Reader α) : Reader (List α) := do
  return (← attempt? (separated separator item ((← left) + 1))).getD []

end Reader

/-! ## Blanks, comments and line endings -/

/-- Whether a character is a blank inside a line: a space or a tab. -/
def isInlineBlank (c : Char) : Bool :=
  c == ' ' || c == '\t'

/-- Whether a character may stand in a comment: a tab, or anything but the controls. -/
def isPlain (c : Char) : Bool :=
  c == '\t' || (' ' ≤ c && c ≠ '\x7f')

/-- Drop blanks, line endings and comments from the front. The flag tells that a comment has begun
and its line has not ended. -/
def dropGap : Bool → List Char → List Char
  | _, [] => []
  | inComment, c :: rest =>
    if inComment && isPlain c then dropGap true rest
    else if isInlineBlank c || c == '\n' then dropGap false rest
    else if c == '#' then dropGap true rest
    else if c == '\r' && rest.head? == some '\n' then dropGap false rest
    else c :: rest

namespace Reader

def blanks : Reader Unit := do
  let _ ← longest isInlineBlank

/-- Consume a line feed, or a carriage return and a line feed. -/
def newline : Reader Unit := do
  match ← rest with
  | '\n' :: tail => set tail
  | '\r' :: '\n' :: tail => set tail
  | _ => fail

/-- Consume a line ending, or nothing at the end of the document. -/
def lineEnd : Reader Unit := do
  if (← rest).isEmpty then return else newline

/-- Consume a comment up to the end of its line. -/
def comment : Reader Unit := do
  char '#'
  let _ ← longest isPlain

/-- What may follow a statement on its line: blanks, a comment, the line ending. -/
def trailing : Reader Unit :=
  wanting [.newline, .mark "#"] do
    blanks
    if (← peek) = some '#' then comment
    lineEnd

def gap : Reader Unit := do
  set (dropGap false (← rest))

end Reader

end UnitHealth.Toml
