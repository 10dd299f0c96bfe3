/-!
# Lines

A line ends at a line feed, and a carriage return directly before that line feed belongs to the
ending. Text after the last line feed is a line of its own unless it is empty, and a carriage
return at the end of such a line is part of it.
-/

namespace UnitHealth.Text

/-- The lines of a sequence of characters, in order and without their endings. -/
def linesOf : List Char → List (List Char)
  | [] => []
  | '\n' :: cs => [] :: linesOf cs
  | '\r' :: '\n' :: cs => [] :: linesOf cs
  | c :: cs =>
    match linesOf cs with
    | [] => [[c]]
    | line :: rest => (c :: line) :: rest

def lines (text : String) : List String :=
  (linesOf text.toList).map String.ofList

@[simp] theorem lines_empty : lines "" = [] := rfl

end UnitHealth.Text
