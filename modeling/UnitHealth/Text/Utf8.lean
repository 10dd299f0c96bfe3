/-!
# UTF-8

What a program prints is a sequence of octets. The decoder below reads it one octet at a time: it
emits a character when a well-formed sequence is complete, and one mark for each longest part that
begins a well-formed sequence and cannot be continued, or for a single octet that begins none.

The strict reading exists only when there is no mark, and the lossy reading puts U+FFFD for each
mark. Both come from the same pieces, so they agree wherever the strict reading exists.
-/

namespace UnitHealth.Text

/-- A sequence of octets, as a program prints it. -/
abbrev Octets := List UInt8

namespace Utf8

/-- A sequence that has begun: the bits read so far, how many octets are still missing, and the
range in which the next octet has to lie. -/
structure Pending where
  bits : Nat
  missing : Nat
  low : UInt8
  high : UInt8
  deriving DecidableEq

/-- The sequence that a first octet begins, when it begins one of several octets. The narrowed
ranges leave out overlong forms, surrogates and code points beyond U+10FFFF. -/
def Pending.ofLead (octet : UInt8) : Option Pending :=
  if 0xc2 ≤ octet ∧ octet ≤ 0xdf then some ⟨octet.toNat - 0xc0, 1, 0x80, 0xbf⟩
  else if octet = 0xe0 then some ⟨0, 2, 0xa0, 0xbf⟩
  else if octet = 0xed then some ⟨0xd, 2, 0x80, 0x9f⟩
  else if 0xe1 ≤ octet ∧ octet ≤ 0xef then some ⟨octet.toNat - 0xe0, 2, 0x80, 0xbf⟩
  else if octet = 0xf0 then some ⟨0, 3, 0x90, 0xbf⟩
  else if 0xf1 ≤ octet ∧ octet ≤ 0xf3 then some ⟨octet.toNat - 0xf0, 3, 0x80, 0xbf⟩
  else if octet = 0xf4 then some ⟨4, 3, 0x80, 0x8f⟩
  else none

def Pending.accepts (p : Pending) (octet : UInt8) : Bool :=
  p.low ≤ octet && octet ≤ p.high

/-- The bits of a sequence together with those of the octet that continues it. -/
def Pending.bitsWith (p : Pending) (octet : UInt8) : Nat :=
  p.bits * 64 + octet.toNat % 64

/-- Read the first octet of a sequence: what it emits, and the sequence it leaves open. -/
def start (octet : UInt8) : List (Option Char) × Option Pending :=
  if octet < 0x80 then ([some (Char.ofNat octet.toNat)], none)
  else
    match Pending.ofLead octet with
    | some p => ([], some p)
    | none => ([none], none)

/-- Read one octet: what it emits, and the sequence it leaves open. An octet that cannot continue
the open sequence marks that sequence and begins anew. -/
def step : Option Pending → UInt8 → List (Option Char) × Option Pending
  | none, octet => start octet
  | some p, octet =>
    if p.accepts octet then
      if p.missing ≤ 1 then ([some (Char.ofNat (p.bitsWith octet))], none)
      else ([], some ⟨p.bitsWith octet, p.missing - 1, 0x80, 0xbf⟩)
    else
      let (out, next) := start octet
      (none :: out, next)

def piecesFrom : Option Pending → Octets → List (Option Char)
  | none, [] => []
  | some _, [] => [none]
  | state, octet :: rest =>
    let (out, next) := step state octet
    out ++ piecesFrom next rest

/-- The characters of a sequence of octets in order, with a mark for each ill-formed part. -/
def pieces (octets : Octets) : List (Option Char) :=
  piecesFrom none octets

@[simp] theorem pieces_nil : pieces [] = [] := rfl

end Utf8

/-- The text that a sequence of octets encodes, when it is well-formed UTF-8. -/
def decode? (octets : Octets) : Option String :=
  ((Utf8.pieces octets).mapM id).map String.ofList

/-- The text of a sequence of octets with U+FFFD for each ill-formed part. -/
def decodeLossy (octets : Octets) : String :=
  String.ofList ((Utf8.pieces octets).map fun piece => piece.getD '\uFFFD')

def encode (text : String) : Octets :=
  text.toList.flatMap String.utf8EncodeChar

end UnitHealth.Text
