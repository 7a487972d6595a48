import FixturePragmas.Terminal.Style

/-!
# The console

What the program says to its user goes to two streams. Every piece of output names its stream; a
console in colour writes texts as they are, one without colour takes all control sequences out of
them. Warnings are yellow and errors bright red.
-/

namespace FixturePragmas.Terminal

/-- The two streams. -/
inductive Stream where
  | output
  | errors
  deriving DecidableEq, Repr

/-- A piece of text written to a stream. -/
structure Piece where
  stream : Stream
  text : List Char
  deriving DecidableEq, Repr

/-- A console that writes in colour or not. -/
structure Console where
  colour : Bool
  deriving DecidableEq, Repr

namespace Console

/-- The text in a style, if there is colour. -/
def styled (c : Console) (s : Style) (cs : List Char) : List Char :=
  if c.colour then s.apply cs else cs

/-- What reaches a stream when `cs` is written to it. -/
def shown (c : Console) (cs : List Char) : List Char := if c.colour then cs else strip cs

/-- A text and, if asked for, the end of its line. -/
def lineOf (cs : List Char) (newline : Bool) : List Char := if newline then cs ++ ['\n'] else cs

/-- Write to the output. -/
def print (c : Console) (cs : List Char) (newline : Bool := true) : Piece :=
  ⟨.output, c.shown (lineOf cs newline)⟩

/-- Write to the stream of errors, in a colour. -/
def paint (c : Console) (colour : Colour) (cs : List Char) (newline : Bool) : Piece :=
  ⟨.errors, c.shown (lineOf (Style.apply { colour? := some colour } cs) newline)⟩

/-- Write a warning. -/
def warn (c : Console) (cs : List Char) (newline : Bool := true) : Piece :=
  c.paint .yellow cs newline

/-- Write an error. -/
def error (c : Console) (cs : List Char) (newline : Bool := true) : Piece :=
  c.paint .brightRed cs newline

end Console

/-- All that was written to a stream. -/
def Stream.collect (s : Stream) (ps : List Piece) : List Char :=
  (ps.filter (·.stream = s)).flatMap (·.text)

end FixturePragmas.Terminal
