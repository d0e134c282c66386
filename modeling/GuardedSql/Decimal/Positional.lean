import GuardedSql.Decimal.Digits
import GuardedSql.Decimal.Shortest

/-!
# Floating-point numbers in positional notation

A finite number is written with the digits of its shortest decimal and never
with an exponent.  A negative number, negative zero included, starts with a
minus sign.
-/

namespace GuardedSql.Decimal

/-- What the bits of a number in double precision say. -/
inductive Magnitude where
  | zero
  | finite (value : Binary)
  | infinite
  | notANumber
  deriving DecidableEq, Repr

/-- Sign and magnitude of a number in double precision: one bit of sign, eleven
of exponent and fifty-two of fraction. -/
def decode (bits : UInt64) : Bool × Magnitude :=
  let fraction := (bits &&& 0xFFFFFFFFFFFFF).toNat
  let exponent := (bits >>> 52 &&& 0x7FF).toNat
  let magnitude :=
    if exponent = 2047 then
      if fraction = 0 then .infinite else .notANumber
    else if exponent = 0 then
      if fraction = 0 then .zero else .finite ⟨fraction, -1074, false⟩
    else
      .finite ⟨0x10000000000000 + fraction, (exponent : Int) - 1075,
        fraction = 0 && exponent ≠ 1⟩
  (bits >>> 63 == 1, magnitude)

/-- A decimal in positional notation. -/
def Scientific.positional (d : Scientific) : String :=
  if 0 ≤ d.exponent then (d.digits * Nat.pow 10 d.exponent.toNat).repr
  else
    let places := (-d.exponent).toNat
    let whole := (d.digits / Nat.pow 10 places).repr
    let fraction := fractionDigits places d.digits
    if fraction.isEmpty then whole else whole ++ "." ++ fraction

def Magnitude.positional : Magnitude → String
  | .zero => "0"
  | .finite value => value.shortest.positional
  | .infinite => "inf"
  | .notANumber => "NaN"

/-- The text of a floating-point number.  What is not a number has no sign. -/
def text (x : Float) : String :=
  match decode x.toBits with
  | (_, .notANumber) => Magnitude.notANumber.positional
  | (true, magnitude) => "-" ++ magnitude.positional
  | (false, magnitude) => magnitude.positional

end GuardedSql.Decimal
