/-!
# Sets and runs of code points

Unicode properties are tables of code points: a set is a list of closed ranges, and a mapping of
letters is a list of runs, each a stretch of letters, every one or every other of which moves by the
same distance.
-/

namespace FixturePragmas.Text

/-- Whether the code point of `c` lies in one of the closed ranges `rs`. -/
def inRanges (rs : List (Nat × Nat)) (c : Char) : Bool :=
  rs.any fun r => decide (r.1 ≤ c.toNat ∧ c.toNat ≤ r.2)

theorem inRanges_iff {rs : List (Nat × Nat)} {c : Char} :
    inRanges rs c = true ↔ ∃ r ∈ rs, r.1 ≤ c.toNat ∧ c.toNat ≤ r.2 := by
  simp [inRanges]

/-- The letters `first`, `first + step`, …, `last`, all of which move by `shift`. -/
structure Run where
  first : Nat
  last : Nat
  step : Nat
  shift : Int
  deriving DecidableEq, Repr

/-- Whether the code point `n` belongs to the run. -/
def Run.has (r : Run) (n : Nat) : Bool :=
  decide (r.first ≤ n ∧ n ≤ r.last) && (n - r.first) % r.step == 0

/-- The letter that `c` moves to, if one of the runs has it. -/
def Run.move? (rs : List Run) (c : Char) : Option Char :=
  (rs.find? (·.has c.toNat)).map fun r => Char.ofNat ((c.toNat : Int) + r.shift).toNat

end FixturePragmas.Text
