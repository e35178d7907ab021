/-
  Text that stands out on a terminal: an opening sequence, the text, and a sequence that ends every
  style. Text that ends styles by itself is followed by the opening sequence again, so that the rest
  of it stands out as well.
-/

namespace ChangeLog.Command

/-- The thickness of letters. -/
inductive Weight where
  | bold
  | dimmed
deriving DecidableEq, Repr

/-- The colour of letters. -/
inductive Colour where
  | red
  | green
  | yellow
  | cyan
deriving DecidableEq, Repr

/-- How a text stands out. -/
structure Style where
  weight : Option Weight := none
  colour : Option Colour := none
deriving DecidableEq, Repr

namespace Style

/-- The code of a weight. -/
def weightCode : Weight → String
  | .bold => "1"
  | .dimmed => "2"

/-- The code of a colour. -/
def colourCode : Colour → String
  | .red => "31"
  | .green => "32"
  | .yellow => "33"
  | .cyan => "36"

/-- The codes of a style, the weight first. -/
def codes (s : Style) : List String :=
  (s.weight.map weightCode).toList ++ (s.colour.map colourCode).toList

/-- The sequence that a style begins with. -/
def opening (s : Style) : String := "\x1b[" ++ ";".intercalate s.codes ++ "m"

/-- The sequence that ends every style. -/
def closing : String := "\x1b[0m"

/-- A text in a style, or as it is where colours are off. -/
def apply (s : Style) (isColoured : Bool) (text : String) : String :=
  if isColoured then s.opening ++ text.replace closing (closing ++ s.opening) ++ closing
  else text

/-- Bold letters. -/
def bold : Style := { weight := some .bold }

/-- Faint letters. -/
def dimmed : Style := { weight := some .dimmed }

/-- Letters in a colour. -/
def inColour (colour : Colour) : Style := { colour := some colour }

/-- Bold letters in a colour. -/
def boldIn (colour : Colour) : Style := { weight := some .bold, colour := some colour }

end Style
end ChangeLog.Command
