import FixturePragmas.Text.Numeral

/-!
# Numbers to a few leading digits

`nearest n d` is the whole number nearest to the quotient of `n` by `d`; of two that are equally
near it is the even one. `toLeading base count n` is `n` to that many leading digits in a base, the
digits behind them being zero. To the base two, it is the number that a format with so many bits
keeps of `n`.
-/

namespace FixturePragmas.Text

/-- The whole number nearest to `n / d`, a half going to the even one. -/
def nearest (n d : Nat) : Nat :=
  let q := n / d
  let r := n % d
  if 2 * r < d then q else if d < 2 * r then q + 1 else q + q % 2

/-- The number of digits of `n` in a base. -/
def digitCount (base n : Nat) : Nat := (Nat.toDigits base n).length

/-- The number `n` to `count` leading digits. -/
def toLeading (base count n : Nat) : Nat :=
  let unit := Nat.pow base (digitCount base n - count)
  nearest n unit * unit

end FixturePragmas.Text
