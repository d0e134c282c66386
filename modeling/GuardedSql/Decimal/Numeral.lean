import GuardedSql.Decimal.Digits

/-!
# Decimal numerals

A numeral is an optional minus sign, a whole part without needless leading
zeros, and optionally a fraction and an exponent.

In double precision a numeral is read quickly and not always exactly: its first
digits, as many as fit into 64 bits, make a number that is scaled by a power of
ten.
-/

namespace GuardedSql.Decimal

structure Numeral where
  negative : Bool
  whole : List Char
  fraction : List Char
  exponent : Option Int
  deriving DecidableEq, Repr

namespace Numeral

/-- Whether digits can be the whole part of a numeral: there are some, and the
first one is zero only if it is the only one. -/
def isWhole : List Char → Bool
  | [] => false
  | [_] => true
  | first :: _ => first != '0'

/-- The exponent that a text after the letter `e` stands for. -/
def readExponent? : List Char → Option Int
  | '+' :: digits => (readDigits? digits).map Int.ofNat
  | '-' :: digits => (readDigits? digits).map fun n => -Int.ofNat n
  | digits => (readDigits? digits).map Int.ofNat

/-- Adds what follows the fraction of a numeral: nothing or an exponent. -/
def readTail? (n : Numeral) : List Char → Option Numeral
  | [] => some n
  | c :: rest =>
    if c = 'e' ∨ c = 'E' then
      (readExponent? rest).map fun e => { n with exponent := some e }
    else none

/-- Adds what follows the whole part of a numeral. -/
def readFraction? (n : Numeral) : List Char → Option Numeral
  | '.' :: rest =>
    let digits := rest.takeWhile Char.isDigit
    if digits.isEmpty then none
    else readTail? { n with fraction := digits } (rest.dropWhile Char.isDigit)
  | rest => readTail? n rest

/-- Reads a numeral after its sign. -/
def readUnsigned? (negative : Bool) (s : List Char) : Option Numeral :=
  let digits := s.takeWhile Char.isDigit
  if isWhole digits then
    readFraction? ⟨negative, digits, [], none⟩ (s.dropWhile Char.isDigit)
  else none

/-- The numeral that a text is. -/
def parse? : List Char → Option Numeral
  | '-' :: rest => readUnsigned? true rest
  | s => readUnsigned? false s

/-- The integer that an integral numeral stands for.  Zero with a minus sign is
no integer. -/
def integer? (n : Numeral) : Option Int :=
  if n.fraction.isEmpty && n.exponent.isNone then
    let magnitude := valueOfDigits n.whole
    if n.negative then
      if magnitude = 0 then none else some (-Int.ofNat magnitude)
    else some (Int.ofNat magnitude)
  else none

/-! ## Double precision -/

/-- Takes up digits as long as the number fits into 64 bits.  What is left over
comes second. -/
def takeUp (significand : Nat) : List Char → Nat × List Char
  | [] => (significand, [])
  | c :: rest =>
    let next := 10 * significand + (c.toNat - '0'.toNat)
    if next < UInt64.size then takeUp next rest else (significand, c :: rest)

def powerOfTen (places : Nat) : Float :=
  Float.ofScientific 1 false places

/-- Divides by a power of ten, in steps that are finite in double precision. -/
def divided (x : Float) (places : Nat) : Float :=
  if places ≤ 308 then x / powerOfTen places
  else if x == 0 then x
  else divided (x / powerOfTen 308) (places - 308)
termination_by places
decreasing_by omega

/-- Multiplies by a power of ten, unless the product exceeds all numbers. -/
def multiplied? (x : Float) (places : Nat) : Option Float :=
  if x == 0 then some x
  else if 308 < places then none
  else
    let y := x * powerOfTen places
    if y.isInf then none else some y

def scaled? (x : Float) : Int → Option Float
  | .ofNat places => multiplied? x places
  | .negSucc places => some (divided x (places + 1))

/-- A number in double precision close to a numeral, in general the nearest one
only if there are no more digits than it can hold. -/
def float? (n : Numeral) : Option Float :=
  let whole := takeUp 0 n.whole
  let taken := takeUp whole.1 n.fraction
  let places := n.fraction.length - taken.2.length
  let exponent := n.exponent.getD 0 + whole.2.length - places
  let magnitude? := scaled? (UInt64.ofNat taken.1).toFloat exponent
  magnitude?.map fun x => if n.negative then -x else x

example :
    float? ⟨false, ['0'], "99999999999999994".toList, none⟩ = some 1.0 := by
  decide +kernel

end Numeral

end GuardedSql.Decimal
