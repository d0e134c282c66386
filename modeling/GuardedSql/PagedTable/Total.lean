import GuardedSql.Json.Basic
import GuardedSql.Text.WhiteSpace

/-!
# Totals

The answer to a count is a row with one member, `total`.  Drivers return it as a
number or as a text; an answer that cannot be understood counts as zero.
-/

namespace GuardedSql.PagedTable

/-- A row of an answer: the values of its columns. -/
abbrev Row := List (String × Json)

/-- A number of rows written in decimal, possibly after a plus sign.  What does
not fit into 64 bits is none. -/
def readCount? (s : List Char) : Option UInt64 := do
  let digits := match s with
    | '+' :: rest => rest
    | s => s
  let n ← Decimal.readDigits? digits
  if n < UInt64.size then some (UInt64.ofNat n) else none

/-- The number of rows that a value stands for.  Integers and fractions are cut
off to the numbers of 64 bits, and the white space around a text is ignored. -/
def countOf : Json → UInt64
  | .int n => UInt64.ofNat (min n.toNat (UInt64.size - 1))
  | .float x => x.toUInt64
  | .str s => (readCount? (Text.trim s.toList)).getD 0
  | _ => 0

/-- The total that the first row of an answer gives, or zero. -/
def totalOf (rows : List Row) : UInt64 :=
  ((rows.head?.bind fun row => Json.lookup? row "total").map countOf).getD 0

end GuardedSql.PagedTable
