import FixturePragmas.Text.Blank
import FixturePragmas.Text.CodePoints
import FixturePragmas.Text.Numeral
import FixturePragmas.Toml.Tree

/-!
# The lexemes of TOML

Blanks and comments, texts between quotes, and keys. Each reader takes the text and gives what it
read together with the text behind it; `none` means that the text is no TOML. Lines end in LF.

A reader that meets a closing bracket where something else has to stand says so: it is not for this
reader to decide whether an array ends there.
-/

namespace FixturePragmas.Toml

/-- Why reading does not go on. -/
inductive Obstacle where
  /-- The text is no TOML. -/
  | malformed
  /-- A closing bracket stands where something else has to stand, and `rest` behind it. -/
  | bracket (rest : List Char)
  /-- The tables do not fit together. -/
  | clash (c : Clash)
  deriving DecidableEq, Repr

/-- The obstacle at a text that starts with something unexpected. -/
def unexpected : List Char → Obstacle
  | ']' :: rest => .bracket rest
  | _ => .malformed

/-- What was read, where nothing means that the text is no TOML. -/
def orMalformed {α : Type} : Option α → Except Obstacle α
  | some a => .ok a
  | none => .error .malformed

/-- A control character, which neither texts nor comments may hold; the tabulator is none. -/
def isControl (c : Char) : Bool := decide (c.toNat < 0x20 ∧ c ≠ '\t' ∨ c.toNat = 0x7F)

/-- A blank within a line. -/
def isSpace (c : Char) : Bool := decide (c = ' ' ∨ c = '\t')

/-- The text without the blanks it starts with, those of its first line only. -/
def skipSpaces (cs : List Char) : List Char := cs.dropWhile isSpace

/-! ### Comments and line ends -/

/-- Skip blanks, line ends and comments; `inComment` says whether a comment is being read. -/
def skipGaps (inComment : Bool) : List Char → Option (List Char)
  | [] => some []
  | c :: cs =>
    -- a line end is looked for before the comment, since it also ends one
    if c = '\n' then skipGaps false cs
    else if inComment then if isControl c then none else skipGaps true cs
    else if c = '#' then skipGaps true cs
    else if isSpace c then skipGaps false cs
    else some (c :: cs)

/-- Skip the rest of a line, which holds at most a comment. -/
def skipLineEnd (inComment : Bool) : List Char → Option (List Char)
  | [] => some []
  | c :: cs =>
    if c = '\n' then some cs
    else if inComment then if isControl c then none else skipLineEnd true cs
    else if c = '#' then skipLineEnd true cs
    else if isSpace c then skipLineEnd false cs
    else none

/-! ### Texts between quotes -/

/-- The character whose code point is written by the first `count` characters. -/
def codePoint? (count : Nat) (cs : List Char) : Option (Char × List Char) :=
  if cs.length < count then none
  else
    ((cs.take count).mapM Text.hexValue?).bind fun vs =>
      let n := vs.foldl (fun n v => 16 * n + v) 0
      if Nat.isValidChar n then some (Char.ofNat n, cs.drop count) else none

/-- The character that a backslash and `cs` stand for. -/
def escaped? : List Char → Option (Char × List Char)
  | [] => none
  | c :: cs =>
    match c with
    | 'b' => some (Char.ofNat 8, cs)
    | 't' => some ('\t', cs)
    | 'n' => some ('\n', cs)
    | 'f' => some (Char.ofNat 12, cs)
    | 'r' => some ('\r', cs)
    | '"' => some ('"', cs)
    | '\\' => some ('\\', cs)
    | 'e' => some (Char.ofNat 0x1B, cs)
    | 'x' => codePoint? 2 cs
    | 'u' => codePoint? 4 cs
    | 'U' => codePoint? 8 cs
    | _ => none

/-- What follows a backslash at the end of a line of a text: the text goes on at the next character
that is no blank. -/
def afterLineJoin? (cs : List Char) : Option (List Char) :=
  let isGap := fun c => isSpace c || c == '\n'
  if (cs.takeWhile isGap).contains '\n' then some (cs.dropWhile isGap) else none

/-- The rest of a text on one line, `read` being what was read of it, last first. In a text between
double quotes, `escapes` holds. -/
def lineText (escapes : Bool) (quote : Char) (read : List Char) :
    (bound : Nat) → List Char → Option (List Char × List Char)
  | 0, _ => none
  | _ + 1, [] => none
  | bound + 1, c :: cs =>
    if c = quote then some (read.reverse, cs)
    else if isControl c then none
    else if escapes && c == '\\' then
      (escaped? cs).bind fun e => lineText escapes quote (e.1 :: read) bound e.2
    else lineText escapes quote (c :: read) bound cs

/-- The rest of a text over several lines. Three quotes end it; one or two more that stand before
these belong to the text. -/
def blockText (escapes : Bool) (quote : Char) (read : List Char) :
    (bound : Nat) → List Char → Option (List Char × List Char)
  | 0, _ => none
  | _ + 1, [] => none
  | bound + 1, c :: cs =>
    if c = quote then
      let quotes := (c :: cs).takeWhile (· = quote)
      let rest := (c :: cs).dropWhile (· = quote)
      -- a run of quotes is weighed as a whole: up to two are text, three to five end the text
      if quotes.length < 3 then blockText escapes quote (quotes ++ read) bound rest
      else if quotes.length < 6 then some (read.reverse ++ quotes.drop 3, rest)
      else none
    -- line ends belong to the text here; the other control characters are no more allowed
    else if isControl c && c != '\n' then none
    else if escapes && c == '\\' then
      -- a backslash in front of nothing but blanks joins the lines; otherwise it escapes
      match afterLineJoin? cs with
      | some rest => blockText escapes quote read bound rest
      | none => (escaped? cs).bind fun e => blockText escapes quote (e.1 :: read) bound e.2
    else blockText escapes quote (c :: read) bound cs

/-- Whether `c` opens a text. -/
def isQuote (c : Char) : Bool := decide (c = '"' ∨ c = '\'')

/-- Whether two more quotes follow the first, so that the text spans lines. -/
def opensBlock (quote : Char) (cs : List Char) : Bool := decide (cs.take 2 = [quote, quote])

/-- The text that starts with the quote `quote`, which has been read. -/
def text? (quote : Char) (cs : List Char) : Option (List Char × List Char) :=
  let escapes := quote == '"'
  if opensBlock quote cs then
    let rest := cs.drop 2
    blockText escapes quote [] (cs.length + 1)
      -- a line end right behind the opening quotes is no part of the text
      (if rest.head? = some '\n' then rest.drop 1 else rest)
  else lineText escapes quote [] (cs.length + 1) cs

/-! ### Keys -/

/-- Whether `c` may stand in a key without quotes. -/
def inBareKey (c : Char) : Bool := c.isAlphanum || c == '-' || c == '_'

/-- A key without quotes. Blanks around it are no part of it. -/
def bareKey? (cs : List Char) : Option (List Char × List Char) :=
  let inRun := fun c => inBareKey c || isSpace c
  -- the run includes blanks, so that two words are seen as one key with a blank in it and refused
  let key := Text.trim (cs.takeWhile inRun)
  if key = [] ∨ key.any isSpace then none else some (key, cs.dropWhile inRun)

/-- One key, with the blanks around it. A key between quotes stands on one line. -/
def simpleKey (cs : List Char) : Except Obstacle (List Char × List Char) :=
  match skipSpaces cs with
  | [] => .error .malformed
  | c :: rest =>
    if isQuote c then do
      let (key, rest') ← orMalformed (text? c rest)
      -- no key, but read to its end: what follows may be the bracket at which an array ends
      if opensBlock c rest then throw (unexpected rest')
      return (key, skipSpaces rest')
    else orMalformed (bareKey? (c :: rest))

/-- Keys with dots between them. -/
def keys : (bound : Nat) → List Char → Except Obstacle (List String × List Char)
  | 0, _ => .error .malformed
  | bound + 1, cs => do
    let (key, rest) ← simpleKey cs
    match rest with
    | '.' :: rest' =>
      let (ks, rest'') ← keys bound rest'
      return (String.ofList key :: ks, rest'')
    | _ => return ([String.ofList key], rest)

/-- The most keys that dots may join. -/
def keyLimit : Nat := 100

end FixturePragmas.Toml
