/-!
# Complaints

A document that breaks the rules is refused at one place and with one complaint. It can tell which
part of a document was being read, what could have stood at the place, and what is wrong with a
thing that was read as a whole. Each of the three may be missing, and a complaint without any of
them has an empty text.

Parts lie within parts. The innermost part that is known is the one that a complaint names.
-/

namespace UnitHealth.Toml

inductive Part where
  | key
  | tableHeader
  | string
  | basicString
  | multilineBasicString
  | literalString
  | multilineLiteralString
  | escape
  /-- An escape by a code point of four digits. -/
  | shortCode
  /-- An escape by a code point of eight digits. -/
  | longCode
  | integer
  | hexadecimal
  | octal
  | binary
  | float
  | dateTime
  | time
  | offset
  | array
  | inlineTable
  deriving DecidableEq

def Part.name : Part → String
  | key => "key"
  | tableHeader => "table header"
  | string => "string"
  | basicString => "basic string"
  | multilineBasicString => "multiline basic string"
  | literalString => "literal string"
  | multilineLiteralString => "multiline literal string"
  | escape => "escape sequence"
  | shortCode => "unicode 4-digit hex code"
  | longCode => "unicode 8-digit hex code"
  | integer => "integer"
  | hexadecimal => "hexadecimal integer"
  | octal => "octal integer"
  | binary => "binary integer"
  | float => "floating-point number"
  | dateTime => "date-time"
  | time => "time"
  | offset => "time offset"
  | array => "array"
  | inlineTable => "inline table"

inductive Wanted where
  /-- These characters. -/
  | mark (text : String)
  /-- The end of the line. -/
  | newline
  | digit
  /-- A digit before all others. -/
  | leadingDigit
  deriving DecidableEq

def Wanted.text : Wanted → String
  | mark text => s!"`{text}`"
  | newline => "newline"
  | digit => "digit"
  | leadingDigit => "leading digit"

inductive Cause where
  /-- A table has the key already. The table is told by its path, where it has one. -/
  | duplicate (key : String) (table : Option (List String))
  /-- The last key of the path names something of this kind, in which no key can be set. -/
  | notTable (path : List String) (kind : String)
  /-- A number lies outside the bounds of its kind. -/
  | outOfRange
  /-- Things nest too deep. -/
  | tooDeep
  /-- An integer is too great for 64 bits. -/
  | tooLarge
  /-- An integer is too far below zero for 64 bits. -/
  | tooSmall
  deriving DecidableEq

def Cause.message : Cause → String
  | duplicate key none => s!"duplicate key `{key}`"
  | duplicate key (some []) => s!"duplicate key `{key}` in document root"
  | duplicate key (some path) =>
    let table := ".".intercalate path
    s!"duplicate key `{key}` in table `{table}`"
  | notTable path kind =>
    let key := ".".intercalate path
    s!"dotted key `{key}` attempted to extend non-table type ({kind})"
  | outOfRange => "value is out of range"
  | tooDeep => "recursion limit exceeded"
  | tooLarge => "number too large to fit in target type"
  | tooSmall => "number too small to fit in target type"

structure Complaint where
  part : Option Part
  wanted : List Wanted
  cause : Option Cause
  deriving DecidableEq

namespace Complaint

def bare : Complaint := ⟨none, [], none⟩

def ofCause (cause : Cause) : Complaint := ⟨none, [], some cause⟩

/-- Name the part in which the complaint arose, unless a smaller part is named already. -/
def within (part : Part) (c : Complaint) : Complaint :=
  { c with part := c.part.or (some part) }

def wanting (more : List Wanted) (c : Complaint) : Complaint :=
  { c with wanted := c.wanted ++ more }

/-- The line that tells what could have stood at the place, when anything is known. -/
def wantedLine? (c : Complaint) : Option String :=
  if c.wanted.isEmpty then none
  else some ("expected " ++ ", ".intercalate (c.wanted.map Wanted.text))

def lines (c : Complaint) : List String :=
  c.part.toList.map (fun part => s!"invalid {part.name}") ++ c.wantedLine?.toList ++
    c.cause.toList.map Cause.message

def message (c : Complaint) : String :=
  "\n".intercalate c.lines

@[simp] theorem message_bare : bare.message = "" := rfl

@[simp] theorem part_within_some (part : Part) (wanted : List Wanted) (cause : Option Cause)
    (outer : Part) : (within outer ⟨some part, wanted, cause⟩).part = some part := rfl

end Complaint

/-- The refusal of a document: the number of characters left at the place, and the complaint. -/
structure Refusal where
  left : Nat
  complaint : Complaint
  deriving DecidableEq

end UnitHealth.Toml
