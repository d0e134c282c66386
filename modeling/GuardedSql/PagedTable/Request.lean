import GuardedSql.Json.Tree
import GuardedSql.SortOrder
import GuardedSql.Select

/-!
# Page requests

A request is read from a JSON text, either an object with named fields or an
array of fields in their order.  Fields that are not given have defaults.
Members with other names are skipped, whatever they hold, but no field may be
given twice.
-/

namespace GuardedSql.PagedTable

open Json (Tree)

/-- A request for a page.  A negative length asks for all rows. -/
structure Request where
  draw : UInt64 := 0
  start : UInt64 := 0
  length : Int64 := 10
  search : String := ""
  orderColumn : Option String := none
  orderDirection : Direction := .ascending
  deriving DecidableEq, Repr, Inhabited

namespace Request

/-! ## The values of fields -/

/-- An unsigned number of 64 bits. -/
def readUnsigned? : Tree → Option UInt64
  | .number n => do
    let k ← n.integer?
    if 0 ≤ k ∧ k < UInt64.size then some (UInt64.ofNat k.toNat) else none
  | _ => none

/-- A signed number of 64 bits. -/
def readSigned? : Tree → Option Int64
  | .number n => do
    let k ← n.integer?
    if Int64.minValue.toInt ≤ k ∧ k ≤ Int64.maxValue.toInt then
      some (Int64.ofInt k)
    else none
  | _ => none

def readText? : Tree → Option String
  | .string points => Tree.text? points
  | _ => none

/-- A text or null. -/
def readOptionalText? : Tree → Option (Option String)
  | .null => some none
  | t => (readText? t).map some

/-- The direction that a name stands for.  A name is in lower or in upper case
throughout. -/
def directionOfName? : String → Option Direction
  | "asc" | "ASC" => some .ascending
  | "desc" | "DESC" => some .descending
  | _ => none

/-- A direction: its name, or an object whose only member has that name and is
null. -/
def readDirection? : Tree → Option Direction
  | .string points => Tree.text? points >>= directionOfName?
  | .object [(points, .null)] => Tree.text? points >>= directionOfName?
  | _ => none

/-! ## Fields -/

inductive Field where
  | draw
  | start
  | length
  | search
  | orderColumn
  | orderDirection
  deriving DecidableEq, Repr

namespace Field

def name : Field → String
  | draw => "draw"
  | start => "start"
  | length => "length"
  | search => "search"
  | orderColumn => "order_column"
  | orderDirection => "order_dir"

def all : List Field :=
  [draw, start, length, search, orderColumn, orderDirection]

/-- The field with a given name. -/
def ofName? (s : String) : Option Field :=
  all.find? fun field => field.name == s

end Field

/-- Sets a field. -/
def set? (r : Request) (field : Field) (t : Tree) : Option Request :=
  match field with
  | .draw => (readUnsigned? t).map fun v => { r with draw := v }
  | .start => (readUnsigned? t).map fun v => { r with start := v }
  | .length => (readSigned? t).map fun v => { r with length := v }
  | .search => (readText? t).map fun v => { r with search := v }
  | .orderColumn =>
    (readOptionalText? t).map fun v => { r with orderColumn := v }
  | .orderDirection =>
    (readDirection? t).map fun v => { r with orderDirection := v }

/-! ## Requests -/

/-- Sets the fields that the members of an object give, none of which has been
given before. -/
def setMembers? (given : List Field) (r : Request) :
    List (List Nat × Tree) → Option Request
  | [] => some r
  | (points, t) :: rest => do
    match Field.ofName? (← Tree.text? points) with
    | none => setMembers? given r rest
    | some field =>
      if field ∈ given then none
      else setMembers? (field :: given) (← r.set? field t) rest

/-- Sets the fields that the items of an array give, in the order of the fields.
-/
def setItems? (r : Request) : List Field → List Tree → Option Request
  | _, [] => some r
  | [], _ :: _ => none
  | field :: fields, t :: rest => do setItems? (← r.set? field t) fields rest

/-- The request that a tree means. -/
def ofTree? : Tree → Option Request
  | .object members => setMembers? [] {} members
  | .array items => setItems? {} Field.all items
  | _ => none

def parse? (s : String) : Option Request := do
  ofTree? (← Tree.parse? s)

end Request

end GuardedSql.PagedTable
