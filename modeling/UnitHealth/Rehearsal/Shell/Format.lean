import UnitHealth.Rehearsal.Shell.Arithmetic

/-!
# Formatted output

A format is text with directives, each of which takes an argument and says how to write it. The
format is used again as long as arguments are left, and a directive without an argument counts it as
empty. A backslash in the format stands for the octet that it names.

An argument that writes no number, or more than one, still counts as the number at its start, but
leaves a complaint.
-/

namespace UnitHealth.Rehearsal.Shell.Format

/-! ## Escapes -/

def isOctal (c : Char) : Bool := isDigitIn 8 c

/-- The octet of a letter after a backslash. -/
def escape? : Char → Option Char
  | '\\' => some '\\'
  | 'a' => some '\x07'
  | 'b' => some '\x08'
  | 'e' => some '\x1b'
  | 'f' => some '\x0c'
  | 'n' => some '\n'
  | 'r' => some '\r'
  | 't' => some '\t'
  | 'v' => some '\x0b'
  | _ => none

/-- The octet for which the octets after a backslash stand, and what follows them. -/
def escaped (text : Bytes) : Char × Bytes :=
  match text with
  | [] => ('\\', [])
  | c :: rest =>
    let digits := (text.take 3).takeWhile isOctal
    if !digits.isEmpty then
      (Char.ofNat (digitsValue 8 digits % 256), text.drop digits.length)
    else
      match escape? c with
      | some octet => (octet, rest)
      | none => ('\\', text)

/-- The octets for which an argument with escapes stands, and whether one of them ends the
output. -/
def unescaped : Nat → Bytes → Bytes × Bool
  | 0, _ => ([], false)
  | _, [] => ([], false)
  | fuel + 1, '\\' :: rest =>
    match rest with
    | 'c' :: _ => ([], true)
    | _ =>
      let rest := match rest with
        | '0' :: d :: more => if isOctal d then d :: more else rest
        | _ => rest
      let (octet, rest) := escaped rest
      let (octets, ends) := unescaped fuel rest
      (octet :: octets, ends)
  | fuel + 1, c :: rest =>
    let (octets, ends) := unescaped fuel rest
    (c :: octets, ends)

def unescape (text : Bytes) : Bytes × Bool := unescaped (text.length + 1) text

/-- Arguments with a space between each two, up to an escape that ends the output. -/
def echoed : List Bytes → Bytes × Bool
  | [] => ([], false)
  | first :: rest =>
    let (octets, ends) := unescape first
    if ends then (octets, true)
    else
      match rest with
      | [] => (octets, false)
      | _ =>
        let (more, ends) := echoed rest
        (octets ++ ' ' :: more, ends)

def echo (arguments : List Bytes) : Bytes :=
  let (silent, arguments) := match arguments with
    | ['-', 'n'] :: rest => (true, rest)
    | _ => (false, arguments)
  let (octets, ends) := echoed arguments
  if silent ∨ ends then octets else octets ++ ['\n']

/-! ## Formats -/

/-- How far a format has been used. The output is in reverse, as are the complaints. -/
structure Progress where
  output : Bytes
  arguments : List Bytes
  complaints : List Bytes
  /-- Whether an argument has been taken. -/
  taken : Bool

inductive Exit where
  /-- An escape has ended the output. -/
  | finished
  | faulty (message : Bytes)

abbrev Use := EStateM Exit Progress

def emit (octets : Bytes) : Use Unit :=
  modify fun p => { p with output := octets.reverseAux p.output }

def argument? : Use (Option Bytes) := do
  let p ← get
  match p.arguments with
  | [] => return none
  | first :: rest =>
    set { p with arguments := rest, taken := true }
    return some first

def complain (argument : Bytes) (what : String) : Use Unit :=
  modify fun p =>
    { p with complaints := (argument ++ (": " ++ what).toList) :: p.complaints }

/-- The octet that an argument quotes, as a number. -/
def quoted? : Bytes → Option Nat
  | c :: rest => if c = '"' ∨ c = '\'' then some ((rest.head?.map Char.toNat).getD 0) else none
  | [] => none

/-- The next argument as a number. Complains of what follows the number, and of a number that is too
great. -/
def integer : Use Int := do
  match ← argument? with
  | none => return 0
  | some a =>
    if let some n := quoted? a then return n
    let (number, rest) := scanNumber 0 a
    let n := number.getD 0
    let near := max leastInteger (min greatestInteger n)
    if number.isNone ∧ !a.isEmpty then complain a "expected numeric value"
    else if !rest.isEmpty then complain a "not completely converted"
    else if near ≠ n then complain a "Numerical result out of range"
    return near

/-- Write the next argument as a letter says. -/
def directive (letter : Char) : Use Unit := do
  match letter with
  | 'b' =>
    let (octets, ends) := unescape ((← argument?).getD [])
    emit octets
    if ends then throw .finished
  | 'c' => emit [((← argument?).bind List.head?).getD '\x00']
  | 's' => emit ((← argument?).getD [])
  | 'd' => emit (Bytes.ofInt (← integer))
  | _ => throw (.faulty (['%', letter] ++ ": invalid directive".toList))

def once : Nat → Bytes → Use Unit
  | 0, _ => return
  | _, [] => return
  | fuel + 1, c :: rest => do
    if c = '\\' then
      let (octet, rest) := escaped rest
      emit [octet]
      once fuel rest
    else if c ≠ '%' then
      emit [c]
      once fuel rest
    else
      match rest with
      | [] => throw (.faulty "missing format character".toList)
      | '%' :: rest =>
        emit ['%']
        once fuel rest
      | letter :: rest =>
        directive letter
        once fuel rest

def repeated (format : Bytes) : Nat → Use Unit
  | 0 => return
  | fuel + 1 => do
    once (format.length + 1) format
    let p ← get
    if p.taken ∧ !p.arguments.isEmpty then repeated format fuel

structure Result where
  output : Bytes
  complaints : List Bytes
  /-- The message that ended the output, where one did. -/
  failure : Option Bytes

def run (format : Bytes) (arguments : List Bytes) : Result :=
  let result (p : Progress) (failure : Option Bytes) : Result :=
    ⟨p.output.reverse, p.complaints.reverse, failure⟩
  match (repeated format (arguments.length + 1)).run ⟨[], arguments, [], false⟩ with
  | .ok _ p => result p none
  | .error .finished p => result p none
  | .error (.faulty message) p => result p (some message)

end UnitHealth.Rehearsal.Shell.Format
