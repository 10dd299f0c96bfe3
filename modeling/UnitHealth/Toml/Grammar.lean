import UnitHealth.Toml.Date
import UnitHealth.Toml.Table

/-!
# Statements of a document

A document is a sequence of statements, one per line, among blank lines and comments: a header
opens a table or adds one to an array of tables, and an assignment gives a value to a key of the
table that was opened last. Keys may be quoted and may be joined by dots.

Arrays and inline tables nest. Nesting and the number of keys in a path are limited, and a document
beyond the limit is refused.

The first character of a value tells what it has to be, and what a failure to read it complains
about. A word that is no value is taken for a string without quotes.
-/

namespace UnitHealth.Toml

/-- A path of keys has fewer keys than this, and values nest less deep. -/
def depthLimit : Nat := 80

structure Assignment where
  key : Key
  others : List Key
  value : Value
  span : Span

inductive Statement where
  | header (h : Header)
  | assignment (a : Assignment)

/-- Enter an assignment into a table. -/
def Table.enter (home : Option (List String)) (t : Table) (a : Assignment) : Except Cause Table :=
  t.assign home (.value a.value a.span) [] a.key a.others

namespace Reader

/-! ## Keys -/

def keyName : Reader String := do
  match ← peek with
  | some '"' => quotedKey
  | some '\'' => quotedKey
  | _ => do
    let first ← one isBareKeyChar
    let others ← longest isBareKeyChar
    return String.ofList (first :: others)

/-- One key of a path, among blanks. -/
def key : Reader Key := do
  blanks
  let (name, span) ← spanned keyName
  blanks
  return ⟨name, span⟩

def limited (keys : List Key) : Except Complaint (Key × List Key) :=
  match keys with
  | [] => .error .bare
  | first :: others =>
    if others.length + 1 < depthLimit then .ok (first, others) else .error (.ofCause .tooDeep)

def path : Reader (Key × List Key) :=
  judged false limited <| reading .key do
    separated '.' key ((← left) + 1)

def equals : Reader Unit :=
  wanting [.mark ".", .mark "="] (char '=')

/-- A path of keys, an equals sign and a value with what follows it. It is committed after the
path. -/
def assignment (value : Reader Value) (after : Reader Unit) : Reader Assignment := do
  let (key, others) ← path
  commit do
    equals
    blanks
    let (value, span) ← spanned value
    after
    return ⟨key, others, value, span⟩

/-! ## Arrays and inline tables -/

def array (value : Reader Value) : Reader Value := do
  char '['
  commit do
    let items ← list ',' do
      gap
      let item ← value
      gap
      return item
    if !items.isEmpty then let _ ← attempt? (char ',')
    gap
    reading .array (wanting [.mark "]"] (char ']'))
    return .sequence

/-- The table that the assignments of an inline table make, by the rules for dotted keys. -/
def tableOf (assignments : List Assignment) : Except Complaint Table :=
  (assignments.foldlM (Table.enter none) []).mapError .ofCause

def inlineTable (value : Reader Value) : Reader Value := do
  char '\x7b'
  commit do
    let _ ← judged true tableOf do
      let assignments ← list ',' (assignment value blanks)
      blanks
      return assignments
    reading .inlineTable (wanting [.mark "\x7d"] (char '\x7d'))
    return .map

/-! ## Values -/

/-- What could have stood where a word is no value. -/
def quotes : List Wanted := [.mark "\"", .mark "'"]

/-- A reader of a word, which a failure takes for a string without quotes. -/
def wordOrString {α : Type} (r : Reader α) : Reader α :=
  wanting quotes (reading .string r)

def dateOrNumber : Reader Value :=
  orElse (do dateTime; return .date)
    (orElse (do return .float (← float)) (do return .integer (← integer)))

/-- A value that is no array and no inline table. -/
def scalar : Reader Value := do
  match ← peek with
  | none => fail
  | some c =>
    if c == '"' || c == '\'' then return .string (← string)
    else if c == '+' || c == '-' || c.isDigit then dateOrNumber
    else if c == '_' then return .integer (← wanting [.leadingDigit] integer)
    else if c == '.' then return .float (← wanting [.leadingDigit] float)
    else if c == 't' then
      wordOrString do
        commit (literal "true".toList)
        return .boolean true
    else if c == 'f' then
      wordOrString do
        commit (literal "false".toList)
        return .boolean false
    else if c == 'i' then return .float (← wordOrString (infinity false))
    else if c == 'n' then return .float (← wordOrString nan)
    else wordOrString fail

def tooDeep : Reader Value := fun cs => .error ⟨cs, .ofCause .tooDeep, true⟩

/-- A value in which arrays and inline tables nest at most so deep. -/
def value : Nat → Reader Value
  | 0 => do
    match ← peek with
    | some '[' => tooDeep
    | some '\x7b' => tooDeep
    | _ => scalar
  | depth + 1 => do
    match ← peek with
    | some '[' => array (value depth)
    | some '\x7b' => inlineTable (value depth)
    | _ => scalar

/-! ## Statements -/

/-- The keys of a header between its brackets. -/
def headerPath (opening closing : List Char) : Reader (List Key × Key) := do
  literal opening
  commit do
    let (first, others) ← path
    wanting [.mark ".", .mark (String.ofList closing)] (literal closing)
    return ((first :: others).dropLast, others.getLast?.getD first)

/-- A header with its brackets and the end of its line. An opening bracket that ends the document
is no header. -/
def header : Reader Header :=
  reading .tableHeader do
    let inArray ← match ← rest with
      | '[' :: '[' :: _ => pure true
      | '[' :: _ :: _ => pure false
      | _ => fail
    let ((parents, key), span) ← spanned <|
      if inArray then headerPath ['[', '['] [']', ']'] else headerPath ['['] [']']
    trailing
    return ⟨parents, key, span, inArray⟩

/-- The rest of a line, with the statement that it holds. -/
def line : Reader (Option Statement) :=
  commit do
    match ← peek with
    | none => return none
    | some '#' => do comment; lineEnd; return none
    | some '\n' => do newline; return none
    | some '\r' => do newline; return none
    | some '[' => return some (.header (← header))
    | some _ => return some (.assignment (← assignment (value (depthLimit - 1)) trailing))

/-- The statements of a document up to its end or to the first failure, which comes with them. -/
def statements : Nat → List Char → List Statement × Option Failure
  | 0, _ => ([], none)
  | fuel + 1, cs =>
    match cs.dropWhile isInlineBlank with
    | [] => ([], none)
    | cs =>
      match line.run cs with
      | .error f => ([], some f)
      | .ok (statement?, rest) =>
        let (others, failure?) := statements fuel rest
        (statement?.toList ++ others, failure?)

/-- The statements of a whole document. A byte order mark may stand at its start. -/
def document (cs : List Char) : List Statement × Option Failure :=
  let cs := if cs.head? = some '\uFEFF' then cs.tail else cs
  statements (cs.length + 1) cs

end Reader

end UnitHealth.Toml
