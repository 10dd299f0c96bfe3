import UnitHealth.Rehearsal.Shell.Bytes

/-!
# Patterns

A pattern is a list of octets, each of which may be protected by a quote. A star stands for any
octets, a question mark for one, and brackets for one of the octets that they list, by themselves or
by ranges. A protected octet, and one after a backslash, stands for itself. Brackets
that are never closed stand for themselves too.
-/

namespace UnitHealth.Rehearsal.Shell

/-- An octet of a word that has been expanded, and whether a quote protects it. -/
structure Glyph where
  octet : Char
  quoted : Bool

abbrev Pattern := List Glyph

namespace Pattern

/-- Whether a glyph is an octet that no quote protects. -/
def isBare (c : Char) (g : Glyph) : Bool := !g.quoted && g.octet == c

/-- What brackets list, as ranges, and what follows them. The first glyph always belongs to the
list. There is no result when the brackets are not closed. -/
def ranges? : Nat → Pattern → Option (List (Char × Char) × Pattern)
  | 0, _ | _, [] => none
  | fuel + 1, low :: rest =>
    let (high, rest) := match rest with
      | dash :: high :: more =>
        if isBare '-' dash ∧ !isBare ']' high then (high, more) else (low, rest)
      | _ => (low, rest)
    let range := (low.octet, high.octet)
    match rest with
    | [] => none
    | g :: more =>
      if isBare ']' g then some ([range], more)
      else (ranges? fuel rest).map fun (ranges, rest) => (range :: ranges, rest)

/-- What brackets say of an octet, and what follows them, after the bracket that opens them. -/
def brackets? (c : Char) (pattern : Pattern) : Option (Bool × Pattern) :=
  let inverted := pattern.head?.any (isBare '!')
  let list := if inverted then pattern.tail else pattern
  (ranges? list.length list).map fun (ranges, rest) =>
    (ranges.any (fun (low, high) => low ≤ c && c ≤ high) != inverted, rest)

/-- The ways to cut octets in two, those with a short first part before the others. -/
def cuts (bytes : Bytes) : List (Bytes × Bytes) :=
  (List.range (bytes.length + 1)).map bytes.splitAt

/-- Whether a pattern stands for octets. The bound is on the length of the pattern. -/
def matchesUpTo : Nat → Pattern → Bytes → Bool
  | 0, pattern, bytes => pattern.isEmpty && bytes.isEmpty
  | _, [], bytes => bytes.isEmpty
  | bound + 1, g :: rest, bytes =>
    if isBare '*' g then (cuts bytes).any fun cut => matchesUpTo bound rest cut.2
    else
      match bytes with
      | [] => false
      | c :: cs =>
        match if isBare '[' g then brackets? c rest else none with
        | some (hit, rest) => hit && matchesUpTo bound rest cs
        | none =>
          match if isBare '\\' g then rest else [] with
          | escaped :: rest => c == escaped.octet && matchesUpTo bound rest cs
          | [] => (isBare '?' g || c == g.octet) && matchesUpTo bound rest cs

def accepts (pattern : Pattern) (bytes : Bytes) : Bool :=
  matchesUpTo pattern.length pattern bytes

/-! ## Cutting ends off -/

/-- A list without the shortest or the longest beginning that a pattern stands for. -/
def withoutStart (longest : Bool) (pattern : Pattern) (bytes : Bytes) : Bytes :=
  let cuts := if longest then (cuts bytes).reverse else cuts bytes
  ((cuts.find? fun cut => pattern.accepts cut.1).map Prod.snd).getD bytes

/-- A list without the shortest or the longest end that a pattern stands for. -/
def withoutEnd (longest : Bool) (pattern : Pattern) (bytes : Bytes) : Bytes :=
  let cuts := if longest then cuts bytes else (cuts bytes).reverse
  ((cuts.find? fun cut => pattern.accepts cut.2).map Prod.fst).getD bytes

end Pattern

end UnitHealth.Rehearsal.Shell
