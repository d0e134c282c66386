/-!
# Shortest decimals

A binary floating-point number stands for every real that rounds to it.  Among
those reals, `Binary.shortest` picks the multiple of the largest power of ten;
of two such multiples it takes the one nearer to the number, and the larger one
when both are equally near.
-/

namespace GuardedSql.Decimal

/-- The positive number `mantissa * 2 ^ exponent`.  The next smaller number is
half a step nearer than the next larger one exactly when `closeBelow` holds,
which is the case at powers of two. -/
structure Binary where
  mantissa : Nat
  exponent : Int
  closeBelow : Bool
  deriving DecidableEq, Repr

/-- The number `digits * 10 ^ exponent`. -/
structure Scientific where
  digits : Nat
  exponent : Int
  deriving DecidableEq, Repr

namespace Binary

/-- The quotient of `quarters * 2 ^ (exponent - 2)` by `10 ^ place`, as
numerator and denominator. -/
def quotient (b : Binary) (quarters : Nat) (place : Int) : Nat × Nat :=
  (quarters * Nat.pow 2 (b.exponent - 2).toNat * Nat.pow 10 (-place).toNat,
    Nat.pow 2 (2 - b.exponent).toNat * Nat.pow 10 place.toNat)

/-- Whether `digits * 10 ^ place` rounds to the number.  The midpoints to the
two neighbours do so exactly when the mantissa is even. -/
def reads (b : Binary) (digits : Nat) (place : Int) : Bool :=
  let low := b.quotient (4 * b.mantissa - if b.closeBelow then 1 else 2) place
  let high := b.quotient (4 * b.mantissa + 2) place
  if b.mantissa % 2 = 0 then
    decide (low.1 ≤ digits * low.2) && decide (digits * high.2 ≤ high.1)
  else
    decide (low.1 < digits * low.2) && decide (digits * high.2 < high.1)

/-- The nearest multiple of `10 ^ place` among the two neighbours of the number
on that grid that round to it. -/
def onGrid? (b : Binary) (place : Int) : Option Scientific :=
  let value := b.quotient (4 * b.mantissa) place
  let below := value.1 / value.2
  let nearerBelow := decide (2 * (value.1 % value.2) < value.2)
  match b.reads below place, b.reads (below + 1) place with
  | true, true => some ⟨if nearerBelow then below else below + 1, place⟩
  | true, false => some ⟨below, place⟩
  | false, true => some ⟨below + 1, place⟩
  | false, false => none

/-- The first hit on the grids `10 ^ place`, `10 ^ (place - 1)`, … -/
def firstHit (b : Binary) : Nat → Int → Option Scientific
  | 0, _ => none
  | grids + 1, place =>
    match b.onGrid? place with
    | some hit => some hit
    | none => firstHit b grids (place - 1)

/-- The decimal with the fewest digits that rounds to the number.  The grids
from `10 ^ 309` down to `10 ^ (-343)` suffice for every number in double
precision. -/
def shortest (b : Binary) : Scientific :=
  (b.firstHit 653 309).getD ⟨0, 0⟩

end Binary

end GuardedSql.Decimal
