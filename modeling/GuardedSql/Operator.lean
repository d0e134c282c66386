import GuardedSql.Text.LetterCase
import GuardedSql.Text.WhiteSpace

/-!
# Operators

The comparisons that a filter can make, and their keywords.  A keyword is read
without regard to the case of ASCII letters and to the amount of white space
around and between its words.
-/

namespace GuardedSql

/-- A comparison of a column with a value.  `orLike` compares as `like` does,
but is joined to the conditions before it by `OR`. -/
inductive Operator where
  | equal
  | like
  | orLike
  | atLeast
  | atMost
  | greater
  | less
  | inList
  | between
  deriving DecidableEq, Repr

namespace Operator

def text : Operator → String
  | equal => "="
  | like => "LIKE"
  | orLike => "OR LIKE"
  | atLeast => ">="
  | atMost => "<="
  | greater => ">"
  | less => "<"
  | inList => "IN"
  | between => "BETWEEN"

/-- Whether an operator compares with a list of values and not with a single
one. -/
def expectsList : Operator → Bool
  | inList | between => true
  | _ => false

/-- The words of a text, in upper case and with one space between each two
neighbours. -/
def normalize (s : String) : String :=
  String.ofList (Text.upper ([' '].intercalate (Text.words s.toList)))

/-- The operator of a keyword in upper case. -/
def ofKeyword? : String → Option Operator
  | "=" => some equal
  | "LIKE" => some like
  | "OR LIKE" => some orLike
  | ">=" => some atLeast
  | "<=" => some atMost
  | ">" => some greater
  | "<" => some less
  | "IN" => some inList
  | "BETWEEN" => some between
  | _ => none

/-- The operator whose keyword a text is. -/
def parse? (s : String) : Option Operator :=
  ofKeyword? (normalize s)

/-- Keywords are read as they are written. -/
theorem ofKeyword?_eq_some_iff {keyword : String} {op : Operator} :
    ofKeyword? keyword = some op ↔ keyword = op.text := by
  constructor
  · intro h
    unfold ofKeyword? at h
    split at h
    all_goals cases h
    all_goals rfl
  · rintro rfl
    cases op <;> rfl

end Operator

end GuardedSql
