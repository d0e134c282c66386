import GuardedSql.Decimal.Positional
import GuardedSql.Timestamp

/-!
# Values

A value is what a statement binds to one placeholder.  Besides its own content a
value has, for pattern matching, a text.
-/

namespace GuardedSql

/-- A value bound to a placeholder. -/
inductive Value where
  | null
  | bool (b : Bool)
  | int (n : Int64)
  | uint (n : UInt64)
  | float (x : Float)
  | text (s : String)
  | bytes (data : ByteArray)
  | timestamp (t : Timestamp)
  deriving Inhabited

namespace Value

/-- Whether two values agree: they are of one kind, and numbers are compared as
numbers and timestamps as instants.  What is not a number agrees with nothing,
and the two zeros agree. -/
def agrees : Value → Value → Bool
  | null, null => true
  | bool a, bool b => a == b
  | int a, int b => a == b
  | uint a, uint b => a == b
  | float a, float b => a == b
  | text a, text b => a == b
  | bytes a, bytes b => a == b
  | timestamp a, timestamp b => a == b
  | _, _ => false

instance : BEq Value :=
  ⟨agrees⟩

/-- Whether a value counts as not given: null or the empty text. -/
def isBlank : Value → Bool
  | null => true
  | text s => s.isEmpty
  | _ => false

section

variable (print? : Timestamp → Option String)

/-- The text of a value, if it has one.  How timestamps are printed is left to a
parameter. -/
def textBy : Value → Option String
  | null => none
  | bool b => some (if b then "true" else "false")
  | int n => some n.toInt.repr
  | uint n => some n.toNat.repr
  | float x => some (Decimal.text x)
  | text s => some s
  | bytes _ => none
  | timestamp t => print? t

/-- The pattern that matches every text containing the text of a value.  A value
without text gives the pattern that matches everything. -/
def patternBy (v : Value) : Value :=
  text ("%" ++ (v.textBy print?).getD "" ++ "%")

end

def text? : Value → Option String :=
  textBy Timestamp.text?

def pattern : Value → Value :=
  patternBy Timestamp.text?

end Value

/-- The types whose elements can be bound to a placeholder. -/
class ToValue (α : Type) where
  toValue : α → Value

export ToValue (toValue)

instance : ToValue Value := ⟨id⟩

instance : ToValue Unit := ⟨fun _ => .null⟩

instance : ToValue Bool := ⟨.bool⟩

instance : ToValue Int8 := ⟨fun n => .int n.toInt64⟩

instance : ToValue Int16 := ⟨fun n => .int n.toInt64⟩

instance : ToValue Int32 := ⟨fun n => .int n.toInt64⟩

instance : ToValue Int64 := ⟨.int⟩

instance : ToValue UInt8 := ⟨fun n => .uint n.toUInt64⟩

instance : ToValue UInt16 := ⟨fun n => .uint n.toUInt64⟩

instance : ToValue UInt32 := ⟨fun n => .uint n.toUInt64⟩

instance : ToValue UInt64 := ⟨.uint⟩

instance : ToValue Float32 := ⟨fun x => .float x.toFloat⟩

instance : ToValue Float := ⟨.float⟩

instance : ToValue String := ⟨.text⟩

instance : ToValue ByteArray := ⟨.bytes⟩

instance : ToValue Timestamp := ⟨.timestamp⟩

/-- An absent element is null. -/
instance {α : Type} [ToValue α] : ToValue (Option α) :=
  ⟨fun v? => match v? with
    | some v => toValue v
    | none => .null⟩

end GuardedSql
