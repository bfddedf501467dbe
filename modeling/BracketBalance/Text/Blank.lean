/-
  BracketBalance.Text.Blank — white space.

  A character is blank when it has the property White_Space: twenty-five
  characters in ten ranges, the ASCII controls from tab to carriage return, the
  space, and the spaces and separators beyond ASCII. Blanks never count as the
  code before a slash.
-/

namespace BracketBalance

/-- The characters with the property White_Space, as inclusive ranges of code points. -/
def blankRanges : List (Nat × Nat) :=
  [(0x09, 0x0D), (0x20, 0x20), (0x85, 0x85), (0xA0, 0xA0), (0x1680, 0x1680), (0x2000, 0x200A),
    (0x2028, 0x2029), (0x202F, 0x202F), (0x205F, 0x205F), (0x3000, 0x3000)]

def isBlank (c : Char) : Bool := blankRanges.any fun r => r.1 ≤ c.toNat && c.toNat ≤ r.2

example : (blankRanges.map fun r => r.2 + 1 - r.1).sum = 25 := by decide

example : (blankRanges.zip blankRanges.tail).all (fun p => decide (p.1.2 < p.2.1)) = true := by decide

end BracketBalance
