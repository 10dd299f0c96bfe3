import UnitHealth.Text.Printable

/-!
# Quoted text

A report shows a foreign text in double quotes and in one line. A quote and a backslash take a
backslash before them, tab, line feed, carriage return and NUL have short escapes, and any other
character that does not show as itself becomes its code point in braces. An apostrophe is kept.
-/

namespace UnitHealth.Text

/-- The code point of a character as lower-case hexadecimal digits without leading zeros. -/
def hexDigits (c : Char) : List Char :=
  Nat.toDigits 16 c.toNat

/-- The written form of one character inside quotes. -/
def escape (c : Char) : List Char :=
  if c = '\t' then ['\\', 't']
  else if c = '\n' then ['\\', 'n']
  else if c = '\r' then ['\\', 'r']
  else if c = '\x00' then ['\\', '0']
  else if c = '"' ∨ c = '\\' then ['\\', c]
  else if isPrintable c then [c]
  else ['\\', 'u', '\x7b'] ++ hexDigits c ++ ['\x7d']

def quote (text : String) : String :=
  String.ofList (['"'] ++ text.toList.flatMap escape ++ ['"'])

@[simp] theorem toList_quote (text : String) :
    (quote text).toList = ['"'] ++ text.toList.flatMap escape ++ ['"'] := by
  simp [quote]

@[simp] theorem quote_empty : quote "" = "\"\"" := rfl

end UnitHealth.Text
