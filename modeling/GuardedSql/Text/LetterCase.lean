/-!
# ASCII letter case

Keywords are compared without regard to the case of the letters `a` to `z`;
every other character stands for itself.
-/

namespace GuardedSql.Text

/-- A text with the letters `a` to `z` in upper case. -/
def upper (s : List Char) : List Char :=
  s.map Char.toUpper

/-- Whether two texts are equal up to the case of ASCII letters. -/
def equalIgnoringCase (s t : List Char) : Bool :=
  upper s == upper t

theorem equalIgnoringCase_iff {s t : List Char} :
    equalIgnoringCase s t = true ↔ upper s = upper t := by
  simp [equalIgnoringCase]

end GuardedSql.Text
