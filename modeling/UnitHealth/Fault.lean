import UnitHealth.Text.Words
import UnitHealth.Verdict

/-!
# Faults

A fault is an error that keeps the check from reaching a verdict of its own. It is a chain of
texts: the outermost says what was attempted, and each later one is the cause of the one before.
An error enters the chain with its own wording and those of its causes, and a context is put in
front.

A fault is shown twice. The verdict line carries the chain on one line, folded at its blanks. The
report carries it over several lines, with the causes below the outermost text: a single cause is
indented, several causes are numbered from zero, and the later lines of a cause line up with its
first.
-/

namespace UnitHealth

/-- A chain of error texts, from the outermost to the innermost. -/
structure Fault where
  text : String
  causes : List String
  deriving DecidableEq

namespace Fault

/-- All texts of the chain, the outermost first. -/
def chain (f : Fault) : List String :=
  f.text :: f.causes

/-- Put a context in front of the chain. -/
def within (context : String) (f : Fault) : Fault where
  text := context
  causes := f.chain

/-- The chain as one text, still with the blanks of its parts. -/
def joined (f : Fault) : String :=
  ": ".intercalate f.chain

/-- The verdict on a check that could not be run. -/
def verdict (f : Fault) : Verdict where
  status := .critical
  message := "Check failed to run: " ++ Text.fold f.joined

/-- Put a margin after every line feed. -/
def hang (margin text : String) : String :=
  String.ofList (text.toList.flatMap fun c => if c = '\n' then c :: margin.toList else [c])

/-- The number of a cause, right-aligned in five columns. -/
def label (number : Nat) : String :=
  let digits := toString number
  String.ofList (List.replicate (5 - digits.length) ' ') ++ digits ++ ": "

/-- The causes, numbered from the given number on. -/
def numbered (number : Nat) : List String → List String
  | [] => []
  | cause :: rest => (label number ++ hang "       " cause) :: numbered (number + 1) rest

def causeLines : List String → List String
  | [cause] => ["    " ++ hang "    " cause]
  | causes => numbered 0 causes

/-- The report over several lines, without a final line feed. -/
def report (f : Fault) : String :=
  "Error: " ++ f.text ++
    (if f.causes.isEmpty then "" else "\n\nCaused by:\n" ++ "\n".intercalate (causeLines f.causes))

@[simp] theorem chain_within (context : String) (f : Fault) :
    (f.within context).chain = context :: f.chain := rfl

@[simp] theorem text_within (context : String) (f : Fault) : (f.within context).text = context :=
  rfl

@[simp] theorem causes_within (context : String) (f : Fault) :
    (f.within context).causes = f.chain := rfl

@[simp] theorem verdict_status (f : Fault) : f.verdict.status = .critical := rfl

@[simp] theorem verdict_exitCode (f : Fault) : f.verdict.exitCode = 2 := rfl

end Fault

end UnitHealth
