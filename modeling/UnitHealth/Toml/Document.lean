import UnitHealth.Toml.Grammar

/-!
# Documents

Reading a document gives the entries of its outermost table, in order: for each key its name, what
it names, and the spans that a report points at. Names are distinct, since a table refuses a name
that it has.

A text that breaks the grammar anywhere, or names one thing twice, is no document at all. It is
refused for what is wrong first in it: the statements before a failure to read count before that
failure.
-/

namespace UnitHealth.Toml

/-- An entry of the outermost table. A table without a section of its own has no span. -/
structure Entry where
  name : String
  keySpan : Span
  value : Value
  span : Option Span
  deriving DecidableEq

/-- The stretch of the document that stands for the value of an entry: the value or the sections
that give it, or the key where it is written nowhere as a whole. -/
def Entry.place (e : Entry) : Span :=
  e.span.getD e.keySpan

/-- The entry for a key of a table. -/
def Entry.ofNode (key : Key) : Node → Entry
  | .value v span => ⟨key.name, key.span, v, some span⟩
  | .table (.header span) _ => ⟨key.name, key.span, .map, some span⟩
  | .table .passage _ => ⟨key.name, key.span, .map, none⟩
  | .table .dotted _ => ⟨key.name, key.span, .map, none⟩
  | .tables span _ => ⟨key.name, key.span, .sequence, some span⟩

/-- A header with the assignments that follow it. -/
structure Section where
  header : Header
  assignments : List Assignment

namespace Section

/-- The stretch that stands for the table of a section: from its header to its last value, or the
header alone where no value follows. -/
def span (s : Section) : Span :=
  match s.assignments.getLast? with
  | none => s.header.span
  | some last => s.header.span.upTo last.span

def path (s : Section) : List String :=
  s.header.parentNames ++ [s.header.key.name]

end Section

/-- The assignments before the first header, and the sections after it. -/
def sections : List Statement → List Assignment × List Section
  | [] => ([], [])
  | .assignment a :: rest =>
    let (front, others) := sections rest
    (a :: front, others)
  | .header h :: rest =>
    let (front, others) := sections rest
    ([], ⟨h, front⟩ :: others)

namespace Table

/-- Enter the assignments of the table with this path. The place of a refusal is the first key of
its assignment. -/
def fill (path : List String) (assignments : List Assignment) (t : Table) : Except Refusal Table :=
  assignments.foldlM
    (fun t a => (t.enter (some path) a).mapError fun cause =>
      ⟨a.key.span.leftAtStart, .ofCause cause⟩) t

def place (t : Table) (s : Section) : Except Refusal Table :=
  let fill := Table.fill s.path s.assignments
  let change := if s.header.inArray then Table.append s.header s.span fill
    else Table.define s.header s.span fill
  t.under s.header change [] s.header.parents

/-- The outermost table that statements describe. -/
def ofStatements (statements : List Statement) : Except Refusal Table := do
  let (front, others) := sections statements
  let root ← Table.fill [] front []
  others.foldlM Table.place root

end Table

/-- Read a document: the entries of its outermost table in order. -/
def entries (text : String) : Except Refusal (List Entry) := do
  let (statements, failure?) := Reader.document text.toList
  let root ← Table.ofStatements statements
  match failure? with
  | some failure => throw failure.refusal
  | none => return root.map fun (key, node) => Entry.ofNode key node

end UnitHealth.Toml
