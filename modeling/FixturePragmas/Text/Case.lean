import FixturePragmas.Text.CaseTable

/-!
# Letter case

`lower` and `upper` are the full case mappings of text. Two things make them more than a map over
characters: a letter may become several, and a capital sigma becomes the final form exactly when a
letter with case stands before it and none after it, marks that do not count being passed over.
-/

namespace FixturePragmas.Text

open CaseTable

/-- The small form of one character, taken by itself. -/
def lowerChar (c : Char) : List Char :=
  -- the only letter whose small form is two characters
  if c = 'İ' then ['i', Char.ofNat 0x307] else [(Run.move? lowerRuns c).getD c]

/-- The capital form of one character. -/
def upperChar (c : Char) : List Char :=
  match upperSequences.lookup c.toNat with
  | some ns => ns.map Char.ofNat
  | none => [(Run.move? upperRuns c).getD c]

/-- Whether the first character that counts is a letter with case. -/
def facesLetter (cs : List Char) : Bool :=
  ((cs.dropWhile (inRanges caseIgnorable)).head?.map (inRanges casedLetters)).getD false

/-- The small form of a text, of which `before` has been read, nearest character first. -/
def lowerAfter (before : List Char) : List Char → List Char
  | [] => []
  | c :: rest =>
    let isFinal := facesLetter before && !facesLetter rest
    -- a sigma is the one letter whose small form depends on its surroundings
    let small := if c = 'Σ' then [if isFinal then 'ς' else 'σ'] else lowerChar c
    small ++ lowerAfter (c :: before) rest

/-- The small form of a text. -/
def lower (cs : List Char) : List Char := lowerAfter [] cs

/-- The capital form of a text. -/
def upper (cs : List Char) : List Char := cs.flatMap upperChar

end FixturePragmas.Text
