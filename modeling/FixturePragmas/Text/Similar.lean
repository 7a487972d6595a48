/-!
# Similar words

How alike two words are is measured by the blocks of characters that they share: the longest common
block, and then, to its left and to its right, the longest common blocks of what is left. The
measure is twice the number of shared characters over the number of all. Words are similar from
three fifths on.
-/

namespace FixturePragmas.Text

/-- The length of the longest common start of two texts. -/
def commonStart : List Char → List Char → Nat
  | a :: as, b :: bs => if a = b then commonStart as bs + 1 else 0
  | _, _ => 0

/-- A block that two texts share: where it starts in each, and its length. -/
structure Block where
  first : Nat
  second : Nat
  length : Nat
  deriving Repr

/-- The longest common block of two texts, the one furthest to the left if there are several. -/
def longestBlock (as bs : List Char) : Block :=
  (List.range as.length).foldl
    (fun best i =>
      (List.range bs.length).foldl
        (fun best j =>
          let n := commonStart (as.drop i) (bs.drop j)
          -- strictly longer only, so that the block furthest to the left stays
          if best.length < n then ⟨i, j, n⟩ else best)
        best)
    ⟨0, 0, 0⟩

/-- The number of characters in the blocks that two texts share, read to a bounded depth. -/
def sharedLength : (bound : Nat) → List Char → List Char → Nat
  | 0, _, _ => 0
  | bound + 1, as, bs =>
    let b := longestBlock as bs
    if b.length = 0 then 0
    else
      sharedLength bound (as.take b.first) (bs.take b.second) + b.length
        + sharedLength bound (as.drop (b.first + b.length)) (bs.drop (b.second + b.length))

/-- How alike a word is to another: shared characters, and all characters. -/
def likeness (a b : String) : Nat × Nat :=
  (sharedLength a.length a.toList b.toList, a.length + b.length)

/-- Whether a word is similar to another. -/
def isSimilar (a b : String) : Bool :=
  let (shared, all) := likeness a b
  -- `2 * shared / all` against three fifths, without division
  decide (3 * all ≤ 5 * (2 * shared))

/-- Whether `a` is at least as like `word` as `b` is; of words equally like it the later one in
alphabetical order counts as the better. -/
def isCloser (word a b : String) : Bool :=
  let (sharedA, allA) := likeness a word
  let (sharedB, allB) := likeness b word
  -- the two quotients, multiplied out
  if sharedA * allB = sharedB * allA then !decide (a < b)
  else decide (sharedB * allA < sharedA * allB)

/-- The most suggestions that are made. -/
def suggestionLimit : Nat := 3

/-- The words most similar to `word`, in alphabetical order. -/
def suggestions (word : String) (words : List String) : List String :=
  let similar := (words.filter (isSimilar · word)).mergeSort (isCloser word)
  (similar.take suggestionLimit).mergeSort fun a b => !decide (b < a)

end FixturePragmas.Text
