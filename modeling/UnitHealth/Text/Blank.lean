/-!
# Blank characters

Words in a unit listing are set apart by blanks, and a report is folded to one line at its blanks.
Blank means the Unicode property White_Space: the ASCII blanks, the next-line and no-break spaces,
and the wide and narrow spaces of typography. A zero-width space is no blank.
-/

namespace UnitHealth.Text

/-- Whether a character has the Unicode property White_Space. -/
def isBlank (c : Char) : Bool :=
  let n := c.toNat
  (0x9 ≤ n && n ≤ 0xd) || n == 0x20 || n == 0x85 || n == 0xa0 || n == 0x1680 ||
    (0x2000 ≤ n && n ≤ 0x200a) || n == 0x2028 || n == 0x2029 || n == 0x202f || n == 0x205f ||
    n == 0x3000

@[simp] theorem isBlank_space : isBlank ' ' = true := rfl

@[simp] theorem isBlank_newline : isBlank '\n' = true := rfl

@[simp] theorem isBlank_return : isBlank '\r' = true := rfl

end UnitHealth.Text
