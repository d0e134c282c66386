/-!
# White space

The characters with the Unicode property `White_Space`, and the two ways in
which a text is cut at them: into its words, and by dropping what surrounds it.
-/

namespace GuardedSql.Text

/-- The code points with the property `White_Space`, as closed ranges in
ascending order. -/
def whiteSpaceRanges : List (Nat × Nat) :=
  [(0x09, 0x0D), (0x20, 0x20), (0x85, 0x85), (0xA0, 0xA0), (0x1680, 0x1680),
    (0x2000, 0x200A), (0x2028, 0x2029), (0x202F, 0x202F), (0x205F, 0x205F),
    (0x3000, 0x3000)]

/-- Whether a character has the property `White_Space`. -/
def isWhiteSpace (c : Char) : Bool :=
  whiteSpaceRanges.any fun range =>
    decide (range.1 ≤ c.toNat) && decide (c.toNat ≤ range.2)

/-- The words of a text: its maximal runs of characters that are not white
space, in order. -/
def words (s : List Char) : List (List Char) :=
  (s.splitOnP isWhiteSpace).filter fun word => !word.isEmpty

/-- A text without the white space that it starts and ends with. -/
def trim (s : List Char) : List Char :=
  ((s.dropWhile isWhiteSpace).reverse.dropWhile isWhiteSpace).reverse

end GuardedSql.Text
