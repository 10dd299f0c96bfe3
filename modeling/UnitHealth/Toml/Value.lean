import UnitHealth.Decimal.Shortest
import UnitHealth.Text.Quoted

/-!
# Values

Of a value only its type is kept, and its content where it has no parts. The settings of the check
are a flag and a text, so the parts of an array or a table are looked at only to see that they are
well formed.

A value is named in two ways. A report on a setting describes it with its content, and counts dates
and times as maps. A complaint about a document names its kind alone.
-/

namespace UnitHealth.Toml

/-- A value of a document, without the parts of a compound one. -/
inductive Value where
  | boolean (b : Bool)
  | integer (n : Int)
  | float (x : Binary64)
  | string (s : String)
  | sequence
  | map
  /-- A date, a time, or both. -/
  | date
  deriving DecidableEq

namespace Value

/-- The words that name a value in a report. -/
def describe : Value → String
  | boolean b => s!"boolean `{b}`"
  | integer n => s!"integer `{n}`"
  | float x => s!"floating point `{x.text}`"
  | string s => s!"string {Text.quote s}"
  | sequence => "sequence"
  | map => "map"
  | date => "map"

def kind : Value → String
  | boolean _ => "boolean"
  | integer _ => "integer"
  | float _ => "float"
  | string _ => "string"
  | sequence => "array"
  | map => "inline table"
  | date => "datetime"

end Value

end UnitHealth.Toml
