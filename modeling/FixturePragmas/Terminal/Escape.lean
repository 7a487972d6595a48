import FixturePragmas.Text.Numeral

/-!
# Escape sequences of terminals

A control sequence is ESC and an opening bracket, parameters, and a final character. The ones
written here set colour and weight; `strip` takes all of them out of a text. An escape that never
comes to its final character is no sequence, and stays.
-/

namespace FixturePragmas.Terminal

/-- The character that opens escape sequences. -/
def escape : Char := Char.ofNat 0x1B

/-- The sequence that selects the rendition with the given number. -/
def rendition (n : Nat) : List Char := escape :: '[' :: Text.Numeral.digits n ++ ['m']

/-- Whether the code point of `c` lies between two others. -/
def isBetween (low high : Nat) (c : Char) : Bool := decide (low ≤ c.toNat ∧ c.toNat ≤ high)

/-- What follows the rest of a sequence, behind its bracket: parameters, intermediate characters and
a final one. -/
def afterSequence? (cs : List Char) : Option (List Char) :=
  -- parameters first, then intermediate characters: the other way round it is no sequence
  let behind := (cs.dropWhile (isBetween 0x30 0x3F)).dropWhile (isBetween 0x20 0x2F)
  match behind with
  | [] => none
  | c :: rest => if isBetween 0x40 0x7E c then some rest else none

theorem afterSequence?_length {cs rest : List Char} (h : afterSequence? cs = some rest) :
    rest.length < cs.length := by
  unfold afterSequence? at h
  dsimp only at h
  split at h
  · simp at h
  · next c tail hc =>
    split at h
    · rw [Option.some.injEq] at h
      have h₁ := (List.dropWhile_suffix (l := cs) (isBetween 0x30 0x3F)).length_le
      have h₂ := (List.dropWhile_suffix (l := cs.dropWhile (isBetween 0x30 0x3F))
        (isBetween 0x20 0x2F)).length_le
      rw [hc, List.length_cons, h] at h₂
      omega
    · simp at h

/-- What follows the sequence that a text starts with, if it starts with one. -/
def skipSequence? : List Char → Option (List Char)
  | c :: '[' :: cs => if c = escape then afterSequence? cs else none
  | _ => none

theorem skipSequence?_length {cs rest : List Char} (h : skipSequence? cs = some rest) :
    rest.length < cs.length := by
  unfold skipSequence? at h
  split at h
  · split at h
    · have := afterSequence?_length h
      simp only [List.length_cons]
      omega
    · simp at h
  · simp at h

/-- The text without its control sequences. -/
def strip (cs : List Char) : List Char :=
  match _hs : skipSequence? cs with
  | some rest => strip rest
  | none =>
    match cs with
    | [] => []
    | c :: cs' => c :: strip cs'
termination_by cs.length
decreasing_by
  · exact skipSequence?_length _hs
  · simp

end FixturePragmas.Terminal
