import UnitHealth.Listing.Malformed
import UnitHealth.Text.Lines
import UnitHealth.Unit.Basic

/-!
# Unit listings

A listing has one unit per line. The columns of a line are its words, after at most one leading
mark: a first word that is exactly `●` or `*`. Four columns are mandatory, the name and the load,
active and sub states. The words that follow are the description.

Blank lines are passed over but counted. A listing is read as a whole: its first line with too few
columns rejects it, whatever stands before or after, and is reported with its number and its text.
-/

namespace UnitHealth

namespace Listing

/-- The name of the query whose output a listing is. -/
def query : String := "systemctl list-units"

def isMark (word : String) : Bool :=
  word == "●" || word == "*"

/-- The words of a line without at most one leading mark. -/
def dropMark : List String → List String
  | [] => []
  | word :: rest => if isMark word then rest else word :: rest

/-- What one line of a listing holds. -/
inductive Row where
  /-- The line has no word. -/
  | blank
  /-- The line describes a unit. -/
  | unit (u : ManagedUnit)
  /-- The line has this many columns, which are too few. -/
  | short (columns : Nat)
  deriving DecidableEq

/-- Read the columns of a line that has some word. -/
def Row.ofColumns : List String → Row
  | name :: load :: active :: sub :: rest =>
    .unit (.ofColumns name load active sub (Text.joinWords rest))
  | columns => .short columns.length

def Row.ofLine (line : String) : Row :=
  match Text.words line with
  | [] => .blank
  | words => .ofColumns (dropMark words)

/-- The report on a line with too few columns. -/
def shortLine (columns number : Nat) (line : String) : MalformedOutput where
  query := query
  reason := .missingColumn columns
  line := some number
  raw := line

/-- Read the lines of a listing, the first of which has the given number. -/
def readLines (number : Nat) : List String → Except MalformedOutput (List ManagedUnit)
  | [] => .ok []
  | line :: rest =>
    match Row.ofLine line with
    | .blank => readLines (number + 1) rest
    | .unit u => (readLines (number + 1) rest).map (u :: ·)
    | .short columns => .error (shortLine columns number line)

/-- Read a listing: its units in order, or the report on its first bad line. -/
def read (text : String) : Except MalformedOutput (List ManagedUnit) :=
  readLines 1 (Text.lines text)

@[simp] theorem dropMark_nil : dropMark [] = [] := rfl

@[simp] theorem readLines_nil (number : Nat) : readLines number [] = .ok [] := rfl

theorem readLines_cons (number : Nat) (line : String) (rest : List String) :
    readLines number (line :: rest) =
      match Row.ofLine line with
      | .blank => readLines (number + 1) rest
      | .unit u => (readLines (number + 1) rest).map (u :: ·)
      | .short columns => .error (shortLine columns number line) := rfl

@[simp] theorem read_empty : read "" = .ok [] := rfl

end Listing

end UnitHealth
