import UnitHealth.Toml.Strings
import UnitHealth.Toml.Value

/-!
# Numbers

Numbers may have single underscores between digits. A decimal has no leading zero, the other bases
have no sign, and an integer has to fit 64 bits. A float has decimals or an exponent or both, or is
one of two words, and one that rounds to positive infinity is refused.

A reader of a number takes as much as makes a number and leaves what follows to others. It is
committed after a point, after the mark of an exponent or a base, and after an underscore.
-/

namespace UnitHealth.Toml

def ofDigits (base : Nat) (digits : List Char) : Nat :=
  digits.foldl (fun n c => n * base + (hexValue? c).getD 0) 0

def signed (negative : Bool) (n : Nat) : Int :=
  if negative then -(n : Int) else n

/-- An integer that fits 64 bits. -/
def word (n : Int) : Except Complaint Int :=
  if n < -9223372036854775808 then .error (.ofCause .tooSmall)
  else if 9223372036854775807 < n then .error (.ofCause .tooLarge)
  else .ok n

/-- Take digits off the front that go on after a digit, with single underscores before them. -/
def moreDigits (isDigit : Char → Bool) : List Char → Except Failure (List Char × List Char)
  | [] => .ok ([], [])
  | ['_'] => .error ⟨[], ⟨none, [.digit], none⟩, true⟩
  | '_' :: c :: rest =>
    if isDigit c then consRead c (moreDigits isDigit rest)
    else .error ⟨c :: rest, ⟨none, [.digit], none⟩, true⟩
  | c :: rest => if isDigit c then consRead c (moreDigits isDigit rest) else .ok ([], c :: rest)

namespace Reader

/-- Digits with single underscores between them. -/
def digitGroups (isDigit : Char → Bool) : Reader (List Char) := do
  let first ← one isDigit
  let others ← ofFunction (moreDigits isDigit)
  return first :: others

/-- A sign, which may be missing. Says whether it is a minus. -/
def sign : Reader Bool := do
  match ← peek with
  | some '+' => do char '+'; return false
  | some '-' => do char '-'; return true
  | _ => return false

/-! ## Integers -/

/-- The sign and the digits of a decimal integer. A leading zero stands alone. -/
def decimal : Reader (Bool × List Char) :=
  reading .integer do
    let negative ← sign
    match ← peek with
    | some '0' => do char '0'; return (negative, ['0'])
    | _ => return (negative, ← digitGroups Char.isDigit)

/-- An integer in a base other than ten, with the mark of the base after a zero. -/
def based (mark : Char) (part : Part) (base : Nat) (isDigit : Char → Bool) : Reader Int :=
  commit <| judged true word <| reading part do
    literal ['0', mark]
    let digits ← digitGroups isDigit
    return (ofDigits base digits : Int)

def integer : Reader Int := do
  match ← rest with
  | '0' :: 'x' :: _ => based 'x' .hexadecimal 16 fun c => (hexValue? c).isSome
  | '0' :: 'o' :: _ => based 'o' .octal 8 fun c => '0' ≤ c && c ≤ '7'
  | '0' :: 'b' :: _ => based 'b' .binary 2 fun c => c == '0' || c == '1'
  | _ =>
    judged true word do
      let (negative, digits) ← decimal
      return signed negative (ofDigits 10 digits)

/-! ## Floats -/

def exponent : Reader Int := do
  let _ ← one fun c => c == 'e' || c == 'E'
  let negative ← sign
  let digits ← commit (digitGroups Char.isDigit)
  return signed negative (ofDigits 10 digits)

def decimals : Reader (List Char) := do
  char '.'
  wanting [.digit] (commit (digitGroups Char.isDigit))

/-- What makes a decimal a float: an exponent, or decimals and perhaps an exponent. -/
def fraction : Reader (List Char × Int) :=
  orElse (do return ([], ← exponent)) do
    let digits ← decimals
    return (digits, (← attempt? exponent).getD 0)

def finite : Reader Binary64 :=
  judged true (fun x => if x = .infinite false then .error .bare else .ok x) do
    let (negative, whole) ← decimal
    let (decimals, exponent) ← fraction
    return .ofDecimal negative (ofDigits 10 (whole ++ decimals)) (exponent - decimals.length)

def infinity (negative : Bool) : Reader Binary64 := do
  literal ['i', 'n', 'f']
  return .infinite negative

def nan : Reader Binary64 := do
  literal ['n', 'a', 'n']
  return .nan

/-- A float that is a word, perhaps with a sign. -/
def special : Reader Binary64 := do
  let negative ← sign
  orElse (infinity negative) nan

def float : Reader Binary64 :=
  reading .float (orElse finite special)

end Reader

end UnitHealth.Toml
