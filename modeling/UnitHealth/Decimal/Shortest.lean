import UnitHealth.Decimal.Binary64

/-!
# Shortest decimals

A double is written with the fewest digits that read back as the same double. The decimals with a
given last place form a grid. The coarsest grid that has a point in the interval of numbers which
round to the double is taken, and on it the point nearest to the double, of two equally near the
greater one. The ends of the interval belong to it when the significand is even.

Only the two neighbours of the double on a grid are ever tried: if any point of a grid lies in the
interval then one of these does. All comparisons are between integers over one common scale.
-/

namespace UnitHealth.Binary64

/-- The interval of numbers that round to a positive double, and the double itself, in quarters of
its last binary place. The lower half is narrower at a power of two. -/
structure Neighbourhood where
  low : Nat
  value : Nat
  high : Nat
  closed : Bool

def neighbourhood (significand : Nat) (exponent : Int) : Neighbourhood where
  low := 4 * significand - (if significand = Nat.pow 2 52 ∧ minExponent < exponent then 1 else 2)
  value := 4 * significand
  high := 4 * significand + 2
  closed := significand % 2 == 0

/-- Whether a number lies in a neighbourhood, both over the common scale. -/
def Neighbourhood.holds (n : Neighbourhood) (unit point : Nat) : Bool :=
  if n.closed then n.low * unit ≤ point && point ≤ n.high * unit
  else n.low * unit < point && point < n.high * unit

/-- The best point of the grid with last place `10 ^ place`, when the grid has a point in the
neighbourhood of `significand * 2 ^ exponent`. -/
def gridPoint? (significand : Nat) (exponent place : Int) : Option Nat :=
  let n := neighbourhood significand exponent
  let quarter := exponent - 2
  let step := Nat.pow 10 place.toNat * Nat.pow 2 (-quarter).toNat
  let unit := Nat.pow 2 quarter.toNat * Nat.pow 10 (-place).toNat
  let below := n.value * unit / step
  let above := below + 1
  match n.holds unit (below * step), n.holds unit (above * step) with
  | true, true => some (if 2 * (n.value * unit % step) < step then below else above)
  | true, false => some below
  | false, true => some above
  | false, false => none

/-- Try the grids from the given place downwards. -/
def search (significand : Nat) (exponent : Int) : Nat → Int → Nat × Int
  | 0, place => (0, place)
  | fuel + 1, place =>
    match gridPoint? significand exponent place with
    | some digits => (digits, place)
    | none => search significand exponent fuel (place - 1)

/-- The shortest digits of a positive double, and the place of the last of them. No double reaches
`10 ^ 309`, and the grid of place `-324` has a point for every double. -/
def shortest (significand : Nat) (exponent : Int) : Nat × Int :=
  search significand exponent 640 309

/-- A number of digits at a decimal place in positional notation, always with a point. -/
def positional (digits : Nat) (place : Int) : String :=
  let text := Nat.toDigits 10 digits
  let zeros (n : Nat) : List Char := List.replicate n '0'
  if 0 ≤ place then String.ofList (text ++ zeros place.toNat ++ ['.', '0'])
  else
    let decimals := (-place).toNat
    let padded := zeros (decimals + 1 - text.length) ++ text
    let whole := padded.length - decimals
    String.ofList (padded.take whole ++ ['.'] ++ padded.drop whole)

def text : Binary64 → String
  | nan => "NaN"
  | infinite negative => if negative then "-inf" else "inf"
  | finite negative significand exponent =>
    let (digits, place) :=
      if significand = 0 then (0, 0) else shortest significand exponent
    (if negative then "-" else "") ++ positional digits place

end UnitHealth.Binary64
