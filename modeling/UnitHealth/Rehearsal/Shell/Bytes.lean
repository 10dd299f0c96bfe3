import UnitHealth.Text.Utf8

/-!
# Octets in a shell

A shell knows no encoding. What it reads, keeps and prints is a list of octets, and here each octet
is a character below U+0100, so that the characters of its language can be written down. Names of
files and texts of messages come from a machine that knows UTF-8, and are encoded on the way in
and decoded on the way out.
-/

namespace UnitHealth.Rehearsal.Shell

/-- A list of octets, each of them a character below U+0100. -/
abbrev Bytes := List Char

namespace Bytes

def ofOctets (octets : Text.Octets) : Bytes :=
  octets.map fun octet => Char.ofNat octet.toNat

def toOctets (bytes : Bytes) : Text.Octets :=
  bytes.map fun c => UInt8.ofNat c.toNat

def ofText (text : String) : Bytes :=
  ofOctets (Text.encode text)

/-- The text that octets encode, with a mark for what is no text. -/
def toText (bytes : Bytes) : String :=
  Text.decodeLossy (toOctets bytes)

def ofNat (n : Nat) : Bytes := (toString n).toList

/-- A number in decimal digits, with a sign when it is below zero. -/
def ofInt (n : Int) : Bytes := (toString n).toList

def join (separator : Bytes) (items : List Bytes) : Bytes :=
  (items.intersperse separator).flatten

/-- What stands before the first octet of a kind, and what follows that octet. -/
def cut? (c : Char) (bytes : Bytes) : Option (Bytes × Bytes) :=
  match bytes.span (· ≠ c) with
  | (_, []) => none
  | (before, _ :: after) => some (before, after)

end Bytes

/-! ## Kinds of octets -/

/-- Whether an octet is a blank between numbers: a space or one of the controls from tab to carriage
return. -/
def isSpace (c : Char) : Bool :=
  c == ' ' || (9 ≤ c.toNat && c.toNat ≤ 13)

def isNameStart (c : Char) : Bool :=
  c.isAlpha || c == '_'

def isNamePart (c : Char) : Bool :=
  c.isAlphanum || c == '_'

def isName : Bytes → Bool
  | [] => false
  | c :: cs => isNameStart c && cs.all isNamePart

/-- The value of a digit in any base up to sixteen. -/
def digitValue? (c : Char) : Option Nat :=
  if c.isDigit then some (c.toNat - '0'.toNat)
  else if 'a' ≤ c ∧ c ≤ 'f' then some (c.toNat - 'a'.toNat + 10)
  else if 'A' ≤ c ∧ c ≤ 'F' then some (c.toNat - 'A'.toNat + 10)
  else none

def isDigitIn (base : Nat) (c : Char) : Bool :=
  (digitValue? c).any (· < base)

def digitsValue (base : Nat) (digits : Bytes) : Nat :=
  digits.foldl (fun n c => n * base + (digitValue? c).getD 0) 0

end UnitHealth.Rehearsal.Shell
