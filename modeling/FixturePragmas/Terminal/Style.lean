import FixturePragmas.Terminal.Escape

/-!
# Styled text

A style sets a colour and two weights. Styled text starts with the sequences of its style, in the
order colour, bold, dim, and ends with the one that resets them all.
-/

namespace FixturePragmas.Terminal

/-- The colours that are used. -/
inductive Colour where
  | yellow
  | brightRed
  deriving DecidableEq, Repr

/-- The number of the rendition that sets a colour. -/
def Colour.code : Colour → Nat
  | yellow => 33
  | brightRed => 91

/-- What a style sets; a weight may be set to be on or off. -/
structure Style where
  colour? : Option Colour := none
  bold? : Option Bool := none
  dim? : Option Bool := none
  deriving DecidableEq, Repr

/-- The number of the rendition that takes weights away. -/
def normalWeight : Nat := 22

/-- The renditions that a style sets, in order. -/
def Style.codes (s : Style) : List Nat :=
  (s.colour?.map Colour.code).toList
    ++ (s.bold?.map fun on => if on then 1 else normalWeight).toList
    ++ (s.dim?.map fun on => if on then 2 else normalWeight).toList

/-- The text in a style. -/
def Style.apply (s : Style) (cs : List Char) : List Char :=
  s.codes.flatMap rendition ++ cs ++ rendition 0

end FixturePragmas.Terminal
