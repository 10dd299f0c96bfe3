import UnitHealth.Rehearsal.Shell.Bytes

/-!
# Arithmetic

An expression is evaluated while it is read. Numbers have sixty-four bits and wrap around. The
second half of a conjunction whose first half is zero does not count, and neither does that of a
disjunction whose first half is another number: it is read but not evaluated, so it cannot divide by
zero.

A variable counts as the number that its value writes, and as zero when it has none.
-/

namespace UnitHealth.Rehearsal.Shell

/-! ## Numbers as texts -/

def leastInteger : Int := -9223372036854775808

def greatestInteger : Int := 9223372036854775807

/-- A number brought into the range by wrapping around. -/
def wrap (n : Int) : Int := n.bmod 18446744073709551616

/-- The base that the beginning of a number shows, and the number without it. -/
def baseOf : Bytes → Nat × Bytes
  | '0' :: x :: d :: rest =>
    if (x = 'x' ∨ x = 'X') ∧ isDigitIn 16 d then (16, d :: rest) else (8, '0' :: x :: d :: rest)
  | '0' :: rest => (8, '0' :: rest)
  | bytes => (10, bytes)

/-- The number at the start of octets in a base, or in the base that its beginning shows where the
base is zero, if there is one. Also gives what follows it. -/
def scanNumber (base : Nat) (bytes : Bytes) : Option Int × Bytes :=
  let (sign, body) := match bytes.dropWhile isSpace with
    | '-' :: rest => ((-1 : Int), rest)
    | '+' :: rest => (1, rest)
    | body => (1, body)
  let (base, body) := if base = 0 then baseOf body else (base, body)
  let digits := body.takeWhile (isDigitIn base)
  if digits.isEmpty then (none, bytes)
  else (some (sign * digitsValue base digits), body.drop digits.length)

/-- The number that octets write in a base, with blanks around it. In base zero blanks alone write
zero. -/
def integer? (base : Nat) (bytes : Bytes) : Option Int :=
  let (number, rest) := scanNumber base bytes
  let n := number.getD 0
  if base ≠ 0 ∧ number.isNone then none
  else if n < leastInteger ∨ greatestInteger < n then none
  else if rest.all isSpace then some n
  else none

/-- The number from zero to the greatest of thirty-one bits that octets write. -/
def natural? (bytes : Bytes) : Option Nat :=
  (integer? 10 bytes).bind fun n => if 0 ≤ n ∧ n ≤ 2147483647 then some n.toNat else none

namespace Arithmetic

inductive Failure where
  /-- The expression is faulty. -/
  | faulty (what : String)
  /-- The value of a variable writes no number. -/
  | illegal (value : Bytes)

abbrev Calculation := StateT Bytes (Except Failure)

/-- An operator between two numbers. -/
structure Operator where
  text : String
  /-- How loosely it binds. -/
  looseness : Nat
  apply : Int → Int → Int

def truth (p : Bool) : Int := if p then 1 else 0

/-- Operators, longer ones before their beginnings. -/
def operators : List Operator :=
  [⟨"==", 3, fun a b => truth (a == b)⟩, ⟨"!=", 3, fun a b => truth (a != b)⟩,
    ⟨"<=", 2, fun a b => truth (a ≤ b)⟩, ⟨">=", 2, fun a b => truth (b ≤ a)⟩,
    ⟨"<", 2, fun a b => truth (a < b)⟩, ⟨">", 2, fun a b => truth (b < a)⟩,
    ⟨"&&", 4, fun a b => truth (a != 0 && b != 0)⟩,
    ⟨"||", 5, fun a b => truth (a != 0 || b != 0)⟩, ⟨"*", 0, (· * ·)⟩, ⟨"/", 0, Int.tdiv⟩,
    ⟨"%", 0, Int.tmod⟩, ⟨"+", 1, (· + ·)⟩, ⟨"-", 1, (· - ·)⟩]

/-- Whether the second number of an operator counts after the first one. -/
def Operator.goesOn (op : Operator) (a : Int) : Bool :=
  match op.text with
  | "&&" => a != 0
  | "||" => a == 0
  | _ => true

def Operator.result (op : Operator) (a b : Int) : Except Failure Int :=
  if b = 0 ∧ (op.text = "/" ∨ op.text = "%") then .error (.faulty "division by zero")
  else .ok (wrap (op.apply a b))

/-- The next octets, which are still to be read, after blanks. -/
def following : Calculation Bytes := do
  modify fun bytes => bytes.dropWhile isSpace
  get

/-- Take a text, if it is next. -/
def accept (text : String) : Calculation Bool := do
  if !(text.toList.isPrefixOf (← following)) then return false
  modify fun bytes => bytes.drop text.length
  return true

def valueOf (bindings : Bytes → Option Bytes) (name : Bytes) : Except Failure Int :=
  let value := (bindings name).getD []
  match integer? 0 value with
  | some n => .ok n
  | none => .error (.illegal value)

variable (bindings : Bytes → Option Bytes)

mutual

/-- A number, a variable, or an expression in parentheses, with signs before it. The flag tells
whether it counts. -/
def primary : Nat → Bool → Calculation Int
  | 0, _ => throw (.faulty "expecting primary")
  | fuel + 1, counts => do
    if ← accept "(" then
      let n ← chain fuel 5 counts (← primary fuel counts)
      if !(← accept ")") then throw (.faulty "expecting ')'")
      return n
    if ← accept "+" then return ← primary fuel counts
    if ← accept "-" then return wrap (-(← primary fuel counts))
    if ← accept "!" then return truth ((← primary fuel counts) == 0)
    let bytes ← following
    match bytes.head? with
    | some c =>
      if c.isDigit then
        let (number, rest) := scanNumber 0 bytes
        set rest
        return max leastInteger (min greatestInteger (number.getD 0))
      if !isNameStart c then throw (.faulty "expecting primary")
      set (bytes.dropWhile isNamePart)
      if counts then liftM (valueOf bindings (bytes.takeWhile isNamePart)) else return 0
    | none => throw (.faulty "expecting primary")

/-- The rest of a chain of operators that bind at most so loosely, after its first number. -/
def chain : Nat → Nat → Bool → Int → Calculation Int
  | 0, _, _, a => return a
  | fuel + 1, bound, counts, a => do
    let bytes ← following
    match operators.find? fun op => op.text.toList.isPrefixOf bytes with
    | none => return a
    | some op =>
      if bound < op.looseness then return a
      let _ ← accept op.text
      let goesOn := op.goesOn a
      let b ← primary fuel (counts && goesOn)
      -- What binds more tightly belongs to the second number.
      let b ← if op.looseness = 0 then pure b
        else chain fuel (op.looseness - 1) (counts && goesOn) b
      let result ← if counts then liftM (op.result a (if goesOn then b else 0)) else pure b
      chain fuel bound counts result

end

def evaluate (expression : Bytes) : Except Failure Int := do
  let fuel := 2 * expression.length + 2
  let run : Calculation Int := do
    let n ← chain bindings fuel 5 true (← primary bindings fuel true)
    if !(← following).isEmpty then throw (.faulty "expecting EOF")
    return n
  return (← run.run expression).1

end Arithmetic

end UnitHealth.Rehearsal.Shell
