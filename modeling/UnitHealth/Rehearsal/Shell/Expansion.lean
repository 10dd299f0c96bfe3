import UnitHealth.Rehearsal.Shell.Arithmetic
import UnitHealth.Rehearsal.Shell.Pattern
import UnitHealth.Rehearsal.Shell.State

/-!
# Expansion

A word is expanded piece by piece into parts. The octets of values that no quote protects are split
into fields, and all other octets stay together. The mark of a quote keeps a field that would
otherwise be empty, and a gap stands between two parameters of the list of all parameters.

A field stands for itself, also where it looks like a pattern.
-/

namespace UnitHealth.Rehearsal.Shell

namespace Expansion

/-- A part of an expanded word. -/
inductive Part where
  /-- An octet, which may end a field when the flag is set. -/
  | glyph (g : Glyph) (splits : Bool)
  | mark
  | gap

/-- The parts of octets that come from a value. -/
def valueParts (quoted : Bool) (bytes : Bytes) : List Part :=
  bytes.map fun c => .glyph ⟨c, quoted⟩ !quoted

def patternOf (parts : List Part) : Pattern :=
  parts.filterMap fun
    | .glyph g _ => some g
    | _ => none

def octetsOf (parts : List Part) : Bytes :=
  parts.filterMap fun
    | .glyph g _ => some g.octet
    | .mark => none
    | .gap => some ' '

/-! ## Fields -/

/-- Fields that are being formed. The last of them comes first, and the one at hand is in
reverse. -/
structure Fields where
  done : List Bytes
  current : Option Bytes
  /-- Whether a blank has ended the last field. -/
  afterBlank : Bool

namespace Fields

def add (f : Fields) (octets : Bytes) : Fields :=
  { f with current := some (octets ++ f.current.getD []), afterBlank := false }

def close (f : Fields) (afterBlank : Bool) : Fields :=
  { done := f.current.toList.map List.reverse ++ f.done, current := none, afterBlank }

/-- Take a part, where fields end at the given octets. A separator between blanks ends no more than
one field. -/
def take (separators : Bytes) (f : Fields) : Part → Fields
  | .mark => f.add []
  | .gap => f.close false
  | .glyph g splits =>
    if !splits ∨ !separators.contains g.octet then f.add [g.octet]
    else if isSpace g.octet then if f.current.isSome then f.close true else f
    else if f.afterBlank then { f with afterBlank := false }
    else (f.add []).close false

end Fields

def fields (separators : Bytes) (parts : List Part) : List Bytes :=
  ((parts.foldl (Fields.take separators) ⟨[], none, false⟩).close false).done.reverse

/-- The octets at which fields end. -/
def separators : Act Bytes := do
  return (← value? "IFS".toList).getD [' ', '\t', '\n']

/-! ## Parameters -/

def parameter? (name : Bytes) : Act (Option Bytes) := do
  let s ← get
  match name with
  | ['@'] | ['*'] => return some (Bytes.join [' '] s.parameters)
  | ['#'] => return some (Bytes.ofNat s.parameters.length)
  | ['?'] => return some (Bytes.ofNat s.status)
  | ['$'] => return some (Bytes.ofNat processNumber)
  | ['-'] => return some s.options
  | ['0'] => return some s.name
  | _ =>
    if name.all Char.isDigit then return s.parameters[digitsValue 10 name - 1]?
    else value? name

/-- The list of all parameters, each by itself or, under a quote, as one. -/
def allParameters (quoted : Bool) (name : Bytes) : Act (List Part) := do
  let parameters := (← get).parameters
  if quoted ∧ name = ['*'] then
    return valueParts true (Bytes.join ((← separators).take 1) parameters)
  let mark := if quoted then [Part.mark] else []
  return ((parameters.map fun p => mark ++ valueParts quoted p).intersperse [.gap]).flatten

def arithmetic (expression : Bytes) : Act Bytes := do
  let s ← get
  let bindings (name : Bytes) : Option Bytes := (s.bindings.lookup name).map Variable.value
  match Arithmetic.evaluate bindings expression with
  | .ok n => return Bytes.ofInt n
  | .error (.faulty what) =>
    fail (("arithmetic expression: " ++ what ++ ": \"").toList ++ expression ++ ['"'])
  | .error (.illegal value) => fail ("Illegal number: ".toList ++ value)

def unset {α : Type} (name : Bytes) (orNull : Bool) : Act α :=
  fail (name ++ (": parameter not set" ++ if orNull then " or null" else "").toList)

/-! ## Words -/

structure Inner where
  output : Command → Act Bytes
  /-- The expansion of a word inside another one. -/
  word : Word → Act (List Part)

variable (inner : Inner)

def parameter (quoted : Bool) (name : Bytes) (emptyIsNone : Bool) (operation : Operation)
    (word : Word) : Act (List Part) := do
  let value := (← parameter? name).filter fun bytes => !emptyIsNone || !bytes.isEmpty
  let present : Act Bytes := do
    match value with
    | some bytes => return bytes
    | none => if ← isSet 'u' then unset name false else return []
  match operation, value with
  | .value, _ =>
    if name = ['@'] ∨ name = ['*'] then allParameters quoted name
    else return valueParts quoted (← present)
  | .length, _ => return valueParts quoted (Bytes.ofNat (← present).length)
  | .withoutEnd longest, _ =>
    return valueParts quoted
      (Pattern.withoutEnd longest (patternOf (← inner.word word)) (← present))
  | .withoutStart longest, _ =>
    return valueParts quoted
      (Pattern.withoutStart longest (patternOf (← inner.word word)) (← present))
  | .instead, some _ | .otherwise, none => inner.word word
  | .instead, none => return []
  | .otherwise, some bytes | .assign, some bytes | .insist, some bytes =>
    return valueParts quoted bytes
  | .assign, none =>
    let bytes := octetsOf (← inner.word word)
    setVariable name bytes
    return valueParts quoted bytes
  | .insist, none =>
    if word.isEmpty then unset name emptyIsNone
    fail (name ++ [':', ' '] ++ octetsOf (← inner.word word))

/-- Expand a piece. The flag tells whether it stands inside the braces of a parameter, where an
octet of the word is like one of a value. -/
def piece (inside : Bool) : Piece → Act (List Part)
  | .octet quoted c => return [.glyph ⟨c, quoted⟩ (inside && !quoted)]
  | .mark => return [.mark]
  | .parameter quoted name emptyIsNone operation word =>
    parameter inner quoted name emptyIsNone operation word
  | .output quoted command => do
    let bytes ← inner.output command
    return valueParts quoted (bytes.reverse.dropWhile (· == '\n')).reverse
  | .arithmetic quoted expression => do
    return valueParts quoted (← arithmetic (octetsOf (← inner.word expression)))

/-- Expand a word, with a bound on how deep words lie inside each other. -/
def parts (output : Command → Act Bytes) : Nat → Bool → Word → Act (List Part)
  | 0, _, _ => throw .endless
  | depth + 1, inside, word => do
    return (← word.mapM (piece ⟨output, parts output depth true⟩ inside)).flatten

def depthLimit : Nat := 200

variable (output : Command → Act Bytes) (word : Word)

def words : Act (List Bytes) := do
  return fields (← separators) (← parts output depthLimit false word)

/-- The octets for which a word stands that is not split. -/
def single : Act Bytes := do
  return octetsOf (← parts output depthLimit false word)

def pattern : Act Pattern := do
  return patternOf (← parts output depthLimit false word)

end Expansion

end UnitHealth.Rehearsal.Shell
