import UnitHealth.Toml.Reader

/-!
# Diagnostics

A diagnostic points at a stretch of a document. It gives the line and the column at which the
stretch begins, shows that line, and underlines the stretch as far as the line goes. Columns are
counted in characters, the underline in octets, and at least one mark is always drawn.

Two places are counted in their own way. The end of the document is the column after its last
character, in the line of that character even if it is a line feed. The column of a character of
several octets is counted in octets.
-/

namespace UnitHealth.Toml

def octetLength (cs : List Char) : Nat :=
  cs.foldl (fun n c => n + c.utf8Size) 0

/-- A remark on a stretch of a document. Line and column are counted from zero. -/
structure Diagnostic where
  line : Nat
  column : Nat
  content : String
  marks : Nat
  text : String
  deriving DecidableEq

namespace Diagnostic

/-- Whether a character does not end a line. -/
def inLine (c : Char) : Bool :=
  c ≠ '\n'

/-- The column of a place: the characters of the line before it, and the one at it, which is missing
at the end of a document. -/
def columnAt (before : List Char) (here : Option Char) : Nat :=
  match here with
  | some c => if c.utf8Size = 1 then before.length else octetLength before
  | none => before.length

def ofSpan (document : String) (span : Span) (text : String) : Diagnostic :=
  let cs := document.toList
  let place := cs.length - span.leftAtStart
  let atEnd := span.leftAtStart = 0 ∧ !cs.isEmpty
  let shown := if atEnd then place - 1 else place
  let before := cs.take shown
  let after := cs.drop shown
  let lineStart := (before.reverse.takeWhile inLine).reverse
  let content := lineStart ++ after.takeWhile inLine
  let column := if atEnd then lineStart.length + 1 else columnAt lineStart after.head?
  let stretch := (cs.drop place).take (span.leftAtStart - span.leftAtStop)
  { line := before.count '\n'
    column := column
    content := String.ofList content
    marks := max 1 (min (octetLength stretch) (octetLength content - column))
    text := text }

/-- A remark on the place of a refusal, which is one character long. -/
def ofRefusal (document : String) (r : Refusal) : Diagnostic :=
  ofSpan document ⟨r.left, r.left - 1⟩ r.complaint.message

def copies (n : Nat) (c : Char) : String :=
  String.ofList (List.replicate n c)

/-- The wording of a diagnostic, with a final line feed. -/
def message (d : Diagnostic) : String :=
  let number := toString (d.line + 1)
  let gutter := copies (number.length + 1) ' ' ++ "|"
  s!"TOML parse error at line {number}, column {d.column + 1}\n" ++
    gutter ++ "\n" ++
    number ++ " | " ++ d.content ++ "\n" ++
    gutter ++ copies (d.column + 1) ' ' ++ copies d.marks '^' ++ "\n" ++
    d.text ++ "\n"

end Diagnostic

end UnitHealth.Toml
