/-!
# Digit texts

Natural numbers written with a fixed number of digits, fractions without the
zeros that they end with, and the number that a text of digits stands for.
-/

namespace GuardedSql.Decimal

/-- The digits of a number, filled up to a width with leading zeros. -/
def padded (width n : Nat) : String :=
  String.ofList (List.replicate (width - n.repr.length) '0') ++ n.repr

/-- A text without the zeros that it ends with. -/
def dropTrailingZeros (s : String) : String :=
  String.ofList (s.toList.reverse.dropWhile (· == '0')).reverse

/-- The digits after the point of `n / 10 ^ places`, without the zeros that they
end with. -/
def fractionDigits (places n : Nat) : String :=
  dropTrailingZeros (padded places (n % Nat.pow 10 places))

/-- The number that a sequence of characters stands for, each counting as a
digit. -/
def valueOfDigits (digits : List Char) : Nat :=
  digits.foldl (fun value c => 10 * value + (c.toNat - '0'.toNat)) 0

/-- The number written by a text of one or more digits `0` to `9`. -/
def readDigits? (digits : List Char) : Option Nat :=
  if !digits.isEmpty && digits.all Char.isDigit then some (valueOfDigits digits)
  else none

end GuardedSql.Decimal
