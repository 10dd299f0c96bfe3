import UnitHealth.Toml.Reader
import UnitHealth.Toml.Value

/-!
# Tables

A table is a list of keys with what they name, in the order of their first mention. How a table
came to be decides how it may grow. A table under a header is closed to all other headers of the
same name and to dotted keys. A table that a longer header only passes through may still get a
header of its own, and moves to the end when it does. A table that a dotted key made grows by
dotted keys. Of an array of tables only the last one can grow, so only that one is kept.

Every operation refuses what would name one thing twice, and what would set a key in a value.
-/

namespace UnitHealth.Toml

structure Key where
  name : String
  span : Span
  deriving DecidableEq

/-- Whether a character may stand in a key without quotes. -/
def isBareKeyChar (c : Char) : Bool :=
  c.isAlphanum || c == '_' || c == '-'

/-- The escaped form of a character in a key between double quotes. -/
def keyEscape (c : Char) : List Char :=
  if c = '\x08' then ['\\', 'b']
  else if c = '\t' then ['\\', 't']
  else if c = '\n' then ['\\', 'n']
  else if c = '\x0c' then ['\\', 'f']
  else if c = '\r' then ['\\', 'r']
  else if c = '"' ∨ c = '\\' then ['\\', c]
  else if c < ' ' ∨ c = '\x7f' then
    let digits := (Nat.toDigits 16 c.toNat).map Char.toUpper
    ['\\', 'u'] ++ List.replicate (4 - digits.length) '0' ++ digits
  else [c]

/-- A name in the plainest form that a key can have: bare, between double quotes when that takes no
escapes, between apostrophes, and else with escapes. -/
def keyText (name : String) : String :=
  let cs := name.toList
  if !cs.isEmpty && cs.all isBareKeyChar then name
  else if cs.all (fun c => keyEscape c == [c]) then "\"" ++ name ++ "\""
  else if cs.all (fun c => isPlain c && c != '\'') then "'" ++ name ++ "'"
  else String.ofList (['"'] ++ cs.flatMap keyEscape ++ ['"'])

/-- A header: the path to the table it opens, and whether the table joins an array. -/
structure Header where
  parents : List Key
  key : Key
  span : Span
  inArray : Bool

namespace Header

/-- The names of the keys that lead to the table of the last one. -/
def parentNames (h : Header) : List String :=
  h.parents.map Key.name

/-- The refusal of a header. The place is its opening bracket. -/
def refusal (h : Header) (cause : Cause) : Refusal :=
  ⟨h.span.leftAtStart, ⟨some .tableHeader, [], some cause⟩⟩

/-- The refusal of a header for a name that is taken. -/
def duplicate (h : Header) : Refusal :=
  h.refusal (.duplicate (keyText h.key.name) (some h.parentNames))

end Header

inductive Origin where
  /-- By a header of its own. The span is that of the section under the header. -/
  | header (span : Span)
  /-- As a part of a longer header. -/
  | passage
  /-- As a part of a dotted key. -/
  | dotted
  deriving DecidableEq

inductive Node where
  /-- A value, complete in itself. -/
  | value (value : Value) (span : Span)
  /-- A table. -/
  | table (origin : Origin) (entries : List (Key × Node))
  /-- An array of tables: the span from its first section to its last, and its last table. -/
  | tables (span : Span) (last : List (Key × Node))

/-- Keys with what they name, in order. -/
abbrev Table := List (Key × Node)

namespace Table

def get? (t : Table) (name : String) : Option Node :=
  (List.find? (fun entry => entry.1.name == name) t).map Prod.snd

/-- Put something else under a name that the table has. -/
def replace (t : Table) (name : String) (node : Node) : Table :=
  t.map fun entry => if entry.1.name == name then (entry.1, node) else entry

def erase (t : Table) (name : String) : Table :=
  t.filter fun entry => entry.1.name != name

def push (t : Table) (key : Key) (node : Node) : Table :=
  t ++ [(key, node)]

/-! ## Keys -/

/-- Why a dotted key cannot go on into a value. In an inline table another inline table counts as a
table that is complete. -/
def valueCause (home : Option (List String)) (passed : List String) (name : String) (v : Value) :
    Cause :=
  if home.isNone ∧ v = .map then .duplicate name none else .notTable (passed ++ [name]) v.kind

/-- Name something by a key and the keys after its dots, of which some are passed already. The home
is the path of the table that gets the key, when it is no inline table. -/
def assign (home : Option (List String)) (node : Node) :
    List String → Key → List Key → Table → Except Cause Table
  | _, key, [], t =>
    if (t.get? key.name).isSome then .error (.duplicate key.name home) else .ok (t.push key node)
  | passed, key, next :: others, t =>
    let inside (sub : Table) := assign home node (passed ++ [key.name]) next others sub
    match t.get? key.name with
    | none => (inside []).map fun sub => t.push key (.table .dotted sub)
    | some (.table (.header _) _) => .error (.duplicate key.name none)
    | some (.table .passage sub) =>
      if others.isEmpty then .error (.duplicate next.name none)
      else (inside sub).map fun sub => t.replace key.name (.table .passage sub)
    | some (.table .dotted sub) =>
      (inside sub).map fun sub => t.replace key.name (.table .dotted sub)
    | some (.tables span last) =>
      if others.isEmpty then .error (.duplicate next.name none)
      else (inside last).map fun last => t.replace key.name (.tables span last)
    | some (.value v _) => .error (valueCause home passed key.name v)

/-! ## Headers -/

/-- Change the table to which the keys of a header lead, of which some are passed already. -/
def under (h : Header) (change : Table → Except Refusal Table) :
    List String → List Key → Table → Except Refusal Table
  | _, [], t => change t
  | passed, key :: others, t =>
    let inside (sub : Table) := under h change (passed ++ [key.name]) others sub
    match t.get? key.name with
    | none => (inside []).map fun sub => t.push key (.table .passage sub)
    | some (.table origin sub) => (inside sub).map fun sub => t.replace key.name (.table origin sub)
    | some (.tables span last) =>
      (inside last).map fun last => t.replace key.name (.tables span last)
    | some (.value v _) => .error (h.refusal (.notTable (passed ++ [key.name]) v.kind))

/-- Give a table a section of its own, and fill it. -/
def define (h : Header) (place : Span) (fill : Table → Except Refusal Table) (t : Table) :
    Except Refusal Table :=
  match t.get? h.key.name with
  | none => (fill []).map fun sub => t.push h.key (.table (.header place) sub)
  | some (.table .passage sub) =>
    (fill sub).map fun sub => (t.erase h.key.name).push h.key (.table (.header place) sub)
  | some _ => .error h.duplicate

/-- Add a table to an array of tables, and fill it. -/
def append (h : Header) (place : Span) (fill : Table → Except Refusal Table) (t : Table) :
    Except Refusal Table :=
  match t.get? h.key.name with
  | none => (fill []).map fun sub => t.push h.key (.tables place sub)
  | some (.tables span _) =>
    (fill []).map fun sub => t.replace h.key.name (.tables (span.upTo place) sub)
  | some _ => .error h.duplicate

end Table

end UnitHealth.Toml
