import GuardedSql.Json.Tree

/-!
# JSON values

A JSON value is what a JSON text means.  A numeral without fraction and exponent
is an integer if it fits into 64 bits, signed or unsigned; every other numeral
is a number in double precision, and how it is read is left to a parameter.
-/

namespace GuardedSql

inductive Json where
  | null
  | bool (b : Bool)
  | int (n : Int)
  | float (x : Float)
  | str (s : String)
  | arr (items : List Json)
  | obj (members : List (String × Json))
  deriving Inhabited

namespace Json

/-- Sets a member: in place if it is there, at the end otherwise. -/
def putMember (members : List (String × Json)) (name : String) (value : Json) :
    List (String × Json) :=
  match members with
  | [] => [(name, value)]
  | member :: rest =>
    if member.1 = name then (name, value) :: rest
    else member :: putMember rest name value

/-- The object with the members of a list, of which later ones replace earlier
ones. -/
def ofMembers (members : List (String × Json)) : Json :=
  obj (members.foldl (fun out member => putMember out member.1 member.2) [])

section

variable (float? : Decimal.Numeral → Option Float)

/-- The value of a numeral, unless double precision is asked for and has none.
-/
def ofNumeral? (n : Decimal.Numeral) : Option Json :=
  match n.integer? with
  | some k =>
    if Int64.minValue.toInt ≤ k ∧ k < UInt64.size then some (int k)
    else (float? n).map float
  | none => (float? n).map float

mutual

/-- The value that a tree means. -/
def ofTree? : Tree → Option Json
  | .null => some null
  | .bool b => some (bool b)
  | .number n => ofNumeral? float? n
  | .string points => (Tree.text? points).map str
  | .array items => (ofItems? items).map arr
  | .object members => (ofMembers? members).map ofMembers

/-- The values that some trees mean. -/
def ofItems? : List Tree → Option (List Json)
  | [] => some []
  | t :: rest => do
    let v ← ofTree? t
    return v :: (← ofItems? rest)

/-- The members that the members of a tree mean. -/
def ofMembers? : List (List Nat × Tree) → Option (List (String × Json))
  | [] => some []
  | (name, t) :: rest => do
    let name ← Tree.text? name
    let v ← ofTree? t
    return (name, v) :: (← ofMembers? rest)

end

def parse? (s : String) : Option Json := do
  ofTree? float? (← Tree.parse? s)

end

/-- The member of an object with a given name. -/
def lookup? (members : List (String × Json)) (name : String) : Option Json :=
  (members.find? fun member => member.1 == name).map Prod.snd

/-- The member of a value with a given name, which only an object can have. -/
def get? : Json → String → Option Json
  | obj members, name => lookup? members name
  | _, _ => none

end Json

end GuardedSql
