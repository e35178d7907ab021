/-
  The two Unicode classes that names are checked against: White_Space and control characters
  (general category Cc).
-/

namespace ChangeLog.Text

/-- The code points with the property White_Space, as closed ranges. -/
def blankRanges : List (Nat × Nat) :=
  [(0x09, 0x0d), (0x20, 0x20), (0x85, 0x85), (0xa0, 0xa0), (0x1680, 0x1680), (0x2000, 0x200a),
   (0x2028, 0x2029), (0x202f, 0x202f), (0x205f, 0x205f), (0x3000, 0x3000)]

/-- Whether `n` lies in one of the closed ranges. -/
def inRanges (ranges : List (Nat × Nat)) (n : Nat) : Bool :=
  ranges.any fun range => range.1 ≤ n && n ≤ range.2

/-- White space. -/
def isBlank (c : Char) : Bool := inRanges blankRanges c.toNat

/-- Control characters: the two blocks below U+0020 and from U+007F to U+009F. -/
def isControl (c : Char) : Bool := c.toNat < 0x20 || (0x7f ≤ c.toNat && c.toNat ≤ 0x9f)

/-- Text that holds nothing but white space; the empty text is such. -/
def allBlank (s : String) : Bool := s.toList.all isBlank

/-- The text without white space at its front. -/
def trimFront (s : List Char) : List Char := s.dropWhile isBlank

example : (blankRanges.map fun r => r.2 - r.1 + 1).sum = 25 := rfl

end ChangeLog.Text
