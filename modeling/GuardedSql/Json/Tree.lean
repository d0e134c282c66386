import GuardedSql.Json.Token

/-!
# The grammar of JSON texts

A tree is a JSON text before its numbers and strings are given a meaning, so
that a part of a text that nobody asks for may hold a number of any size and a
string that is no text.
-/

namespace GuardedSql.Json

open Decimal (Numeral)

/-- A JSON text.  The members of an object are kept in order, with repetitions.
-/
inductive Tree where
  | null
  | bool (b : Bool)
  | number (n : Numeral)
  | string (points : List Nat)
  | array (items : List Tree)
  | object (members : List (List Nat × Tree))
  deriving Inhabited

namespace Tree

/-- A container around the current place: what has been read of it, in reverse,
and for an object the name of the current member. -/
inductive Frame where
  | array (read : List Tree)
  | object (read : List (List Nat × Tree)) (name : List Nat)

/-- What the machine expects next. -/
inductive State where
  /-- A value. -/
  | value (stack : List Frame)
  /-- The first item of an array, or its end. -/
  | firstItem (stack : List Frame)
  /-- The first member of an object, or its end. -/
  | firstName (stack : List Frame)
  /-- A further member of an object. -/
  | name (stack : List Frame) (read : List (List Nat × Tree))
  /-- The colon after the name of a member. -/
  | colon (stack : List Frame) (read : List (List Nat × Tree)) (name : List Nat)
  /-- A comma or the end of the container, after a value. -/
  | after (stack : List Frame) (t : Tree)

/-- Reads the first token of a value. -/
def startValue? (stack : List Frame) : Token → Option State
  | .null => some (.after stack null)
  | .bool b => some (.after stack (bool b))
  | .number n => some (.after stack (number n))
  | .string points => some (.after stack (string points))
  | .leftBracket => some (.firstItem stack)
  | .leftBrace => some (.firstName stack)
  | _ => none

/-- Reads a token. -/
def step? : State → Token → Option State
  | .value stack, token => startValue? stack token
  | .firstItem stack, .rightBracket => some (.after stack (array []))
  | .firstItem stack, token => startValue? (.array [] :: stack) token
  | .firstName stack, .rightBrace => some (.after stack (object []))
  | .firstName stack, .string points => some (.colon stack [] points)
  | .name stack read, .string points => some (.colon stack read points)
  | .colon stack read name, .colon => some (.value (.object read name :: stack))
  | .after (.array read :: stack) t, .comma =>
    some (.value (.array (t :: read) :: stack))
  | .after (.array read :: stack) t, .rightBracket =>
    some (.after stack (array (t :: read).reverse))
  | .after (.object read name :: stack) t, .comma =>
    some (.name stack ((name, t) :: read))
  | .after (.object read name :: stack) t, .rightBrace =>
    some (.after stack (object ((name, t) :: read).reverse))
  | _, _ => none

/-- The tree that has been read when the text ends. -/
def finish? : State → Option Tree
  | .after [] t => some t
  | _ => none

def ofTokens? (tokens : List Token) : Option Tree := do
  finish? (← tokens.foldlM step? (.value []))

def parse? (s : String) : Option Tree := do
  ofTokens? (← Token.scan? s.toList)

/-- The characters that some code points are.  Two halves of a surrogate pair
are one character, and a half that stands alone is none. -/
def characters? : List Nat → Option (List Char)
  | [] => some []
  | high :: rest =>
    if 0xD800 ≤ high ∧ high ≤ 0xDBFF then
      match rest with
      | low :: rest =>
        if 0xDC00 ≤ low ∧ low ≤ 0xDFFF then
          (characters? rest).map
            (Char.ofNat (0x10000 + (high - 0xD800) * 0x400 + (low - 0xDC00)) :: ·)
        else none
      | [] => none
    else if 0xDC00 ≤ high ∧ high ≤ 0xDFFF then none
    else (characters? rest).map (Char.ofNat high :: ·)

/-- The text that a string is. -/
def text? (points : List Nat) : Option String :=
  (characters? points).map String.ofList

end Tree

end GuardedSql.Json
