/-!
# Decimal.Shortest — the fewest digits that read back

A double stands for all reals that round to it. `shortest` gives the decimal of fewest digits
among them, of several the one nearest to the double, and of two equally near the larger. All
of it is exact arithmetic on natural numbers.
-/

namespace Narrative

/-- The decimal number `digits * 10 ^ place`. -/
structure Decimal where
  digits : Nat
  place : Int
deriving DecidableEq, Repr

/-- The reals that round to one positive finite double, as fractions over one denominator: they
reach from `low / unit` to `high / unit`, and the double itself is `value / unit`. -/
structure RoundingRange where
  low : Nat
  value : Nat
  high : Nat
  unit : Nat
  /-- Whether the two ends round to the double as well. -/
  closed : Bool

namespace RoundingRange

/-- The range of a finite double, read off its bits without regard to the sign.

The double is `m * 2 ^ (e - 1075)` and reaches half a gap to both sides. The gap below a power
of two is half of the one above, except at the least exponent. An end is a tie and goes to the
even `m`. -/
def ofBits (bits : UInt64) : RoundingRange :=
  let exponent := (bits >>> 52 &&& 0x7FF).toNat
  let fraction := (bits &&& 0xFFFFFFFFFFFFF).toNat
  -- subnormal numbers have no leading bit and share the least exponent
  let m := if exponent = 0 then fraction else Nat.pow 2 52 + fraction
  let e := max exponent 1
  -- below a power of two the neighbour is half as far away
  let below := if fraction = 0 ∧ exponent > 1 then 1 else 2
  let scale := Nat.pow 2 (e - 1075)
  { low := (4 * m - below) * scale
    value := 4 * m * scale
    high := (4 * m + 2) * scale
    unit := 4 * Nat.pow 2 (1075 - e)
    closed := m % 2 = 0 }

/-- The same reals counted in units of `10 ^ place`. -/
def atPlace (r : RoundingRange) (place : Int) : RoundingRange :=
  let finer := Nat.pow 10 (-place).toNat
  { r with
    low := r.low * finer
    value := r.value * finer
    high := r.high * finer
    unit := r.unit * Nat.pow 10 place.toNat }

/-- Whether a natural number lies in the range. -/
def holds (r : RoundingRange) (n : Nat) : Bool :=
  if r.closed then r.low ≤ n * r.unit && n * r.unit ≤ r.high
  else r.low < n * r.unit && n * r.unit < r.high

/-- The natural number in the range that is nearest to its double, the larger one of two. Only
the neighbours of the double have to be asked: where the range holds a natural number, it holds
one of them. -/
def nearest? (r : RoundingRange) : Option Nat :=
  let below := r.value / r.unit
  match r.holds below, r.holds (below + 1) with
  | true, true => some (if 2 * r.value < (2 * below + 1) * r.unit then below else below + 1)
  | true, false => some below
  | false, true => some (below + 1)
  | false, false => none

/-- The first place, from `place` downwards, at which the range holds a number. A double has no
digit below the last place asked, and there it is that number itself. -/
def select (r : RoundingRange) : Nat → Int → Decimal
  | 0, place => ⟨(r.atPlace place).value / (r.atPlace place).unit, place⟩
  | more + 1, place =>
    match (r.atPlace place).nearest? with
    | some digits => ⟨digits, place⟩
    | none => r.select more (place - 1)

end RoundingRange

/-- The decimal of fewest digits that rounds to the double with these bits, the sign apart. -/
def Decimal.shortest (bits : UInt64) : Decimal :=
  let range := RoundingRange.ofBits bits
  let top := (Nat.toDigits 10 (range.value / range.unit)).length
  range.select (top + 1074) top

end Narrative
