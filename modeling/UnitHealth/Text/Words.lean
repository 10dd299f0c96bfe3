import UnitHealth.Text.Blank

/-!
# Words

A word is a longest run of characters that are not blank. A text is read as its list of words, and
a list of words is written with one space between neighbours. Folding a text writes its own words
back, so a folded text holds no blank but single spaces, and folding it again changes nothing.

Trimming drops the blanks at both ends and keeps those inside. Containment is of consecutive
characters and knows no word boundary.
-/

namespace UnitHealth.Text

/-- The words of a sequence of characters, in order. -/
def wordsOf (cs : List Char) : List (List Char) :=
  (cs.splitOnP isBlank).filter fun word => !word.isEmpty

def words (text : String) : List String :=
  (wordsOf text.toList).map String.ofList

def joinWords (ws : List String) : String :=
  " ".intercalate ws

/-- Write the words of a text again with one space between neighbours. -/
def fold (text : String) : String :=
  joinWords (words text)

/-- Drop the blanks at both ends of a text. -/
def trim (text : String) : String :=
  String.ofList ((text.toList.dropWhile isBlank).reverse.dropWhile isBlank).reverse

/-- Whether some consecutive characters of the second sequence are the first. -/
def occursIn (part : List Char) : List Char → Bool
  | [] => part.isEmpty
  | c :: cs => part.isPrefixOf (c :: cs) || occursIn part cs

def contains (text part : String) : Bool :=
  occursIn part.toList text.toList

theorem occursIn_iff {part cs : List Char} : occursIn part cs = true ↔ part <:+: cs := by
  induction cs with
  | nil => simp [occursIn]
  | cons c cs ih => simp [occursIn, ih, List.infix_cons_iff]

/-- A text contains a part exactly when it is something, the part, and something else. -/
theorem contains_iff {text part : String} :
    contains text part = true ↔ part.toList <:+: text.toList :=
  occursIn_iff

@[simp] theorem words_empty : words "" = [] := rfl

end UnitHealth.Text
