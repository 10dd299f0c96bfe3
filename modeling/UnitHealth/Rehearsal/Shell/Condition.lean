import UnitHealth.Rehearsal.Shell.Arithmetic
import UnitHealth.Rehearsal.Shell.State

/-!
# Conditions

A condition is a list of words: a text, a comparison of texts or of numbers, a question about a
file, or one of these negated. Whether a word is an operator depends on the words around it, so that
texts that look like operators can still be compared.
-/

namespace UnitHealth.Rehearsal.Shell.Condition

inductive Unary where
  | text (holds : Bytes → Bool)
  /-- A question about the file that a word names. -/
  | file (holds : Item → Bool)

inductive Binary where
  | text (holds : Bytes → Bytes → Bool)
  | number (holds : Int → Int → Bool)

/-- Whether an item can be run or entered. -/
def canRun : Item → Bool
  | .directory | .program _ | .file _ true => true
  | _ => false

def isRegular : Item → Bool
  | .file _ _ | .program _ => true
  | _ => false

def hasContent (item : Item) : Bool :=
  item = .directory || !(item.octets?.getD []).isEmpty

def unary? (word : Bytes) : Option Unary :=
  [("-z", Unary.text List.isEmpty), ("-n", .text fun word => !word.isEmpty),
    ("-e", .file fun _ => true), ("-r", .file fun _ => true), ("-w", .file fun _ => true),
    ("-f", .file isRegular), ("-d", .file (· = .directory)), ("-s", .file hasContent),
    ("-x", .file canRun)].lookup (String.ofList word)

def binary? (word : Bytes) : Option Binary :=
  [("=", Binary.text (· == ·)), ("!=", .text (· != ·)), ("-eq", .number (· == ·)),
    ("-ne", .number (· != ·)), ("-ge", .number (· ≥ ·)), ("-gt", .number (· > ·)),
    ("-le", .number (· ≤ ·)), ("-lt", .number (· < ·))].lookup (String.ofList word)

/-- Fail because of a word. An empty one is not named. -/
def fault {α : Type} (word : Bytes) (what : String) : Act α :=
  fail ((if word.isEmpty then [] else word ++ [':', ' ']) ++ what.toList)

def numberOf (word : Bytes) : Act Int := do
  match integer? 10 word with
  | some n => return n
  | none => fail ("Illegal number: ".toList ++ word)

def unary (u : Unary) (word : Bytes) : Act Bool := do
  match u with
  | .text holds => return holds word
  | .file holds =>
    match ← reach word with
    | .ok (_, some item) => return holds item
    | _ => return false

def binary (b : Binary) (first second : Bytes) : Act Bool := do
  match b with
  | .text holds => return holds first second
  | .number holds => return holds (← numberOf first) (← numberOf second)

/-- Whether a condition holds. A comparison comes before a negation, which comes before a question
about one word. -/
def evaluate : List Bytes → Act Bool
  | [] => return false
  | [word] => return !word.isEmpty
  | first :: second :: rest => do
    match binary? second, rest with
    | some b, [third] => binary b first third
    | op, _ =>
      if first = ['!'] then return !(← evaluate (second :: rest))
      match unary? first, op, rest with
      | some u, _, [] => unary u second
      | _, some _, third :: _ => fault third "unexpected operator"
      | some _, none, _ => fault second "unexpected operator"
      | none, some _, [] => fault second "argument expected"
      | none, _, _ => fault first "unexpected operator"

def status (words : List Bytes) : Act Nat := do
  return if ← evaluate words then 0 else 1

end UnitHealth.Rehearsal.Shell.Condition
