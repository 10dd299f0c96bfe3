import UnitHealth.Text.Quoted

/-!
# Malformed output

When the output of a query cannot be read, the report names the query, says what is wrong, gives
the number of the line when one line is to blame, and quotes the text at fault. The quotation is
written on one line, so the whole message is one line whenever the name of the query is.
-/

namespace UnitHealth

inductive MalformedReason where
  /-- A line has only this many columns. -/
  | missingColumn (present : Nat)
  /-- The octets are no text. -/
  | invalidUtf8
  deriving DecidableEq

def MalformedReason.message : MalformedReason → String
  | missingColumn present => s!"missing column {present}"
  | invalidUtf8 => "output is not valid UTF-8"

/-- An output that cannot be read. Lines are numbered from one. -/
structure MalformedOutput where
  query : String
  reason : MalformedReason
  line : Option Nat
  raw : String
  deriving DecidableEq

namespace MalformedOutput

/-- The same report, blaming the line with the given number. -/
def atLine (e : MalformedOutput) (number : Nat) : MalformedOutput :=
  { e with line := some number }

/-- The words that point at a line. -/
def place : Option Nat → String
  | none => ""
  | some number => s!" at line {number}"

def message (e : MalformedOutput) : String :=
  e.query ++ ": " ++ e.reason.message ++ place e.line ++ ": " ++ Text.quote e.raw

@[simp] theorem atLine_line (e : MalformedOutput) (number : Nat) :
    (e.atLine number).line = some number := rfl

@[simp] theorem atLine_atLine (e : MalformedOutput) (m n : Nat) :
    (e.atLine m).atLine n = e.atLine n := rfl

end MalformedOutput

end UnitHealth
