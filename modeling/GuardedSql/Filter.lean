import GuardedSql.BuildError
import GuardedSql.Value

/-!
# Filters

A filter compares a column with a value that need not be given.  Filters are
collected in a list of criteria, each of them a single filter or a group of
alternatives.
-/

namespace GuardedSql

inductive Operand where
  | absent
  | single (v : Value)
  | list (vs : List Value)
  deriving Inhabited, BEq

namespace Operand

/-- The right-hand side that is absent when no value is given. -/
def ofOption : Option Value → Operand
  | none => absent
  | some v => single v

def range (low high : Value) : Operand :=
  list [low, high]

/-- Whether no value is given: the right-hand side is absent or a single blank
value. -/
def isBlank : Operand → Bool
  | absent => true
  | single v => v.isBlank
  | list _ => false

end Operand

/-- The operator whose keyword a text is, or the error that names the text. -/
def Operator.ofText (s : String) : Except BuildError Operator :=
  match Operator.parse? s with
  | some op => .ok op
  | none => .error (.unknownOperator s)

/-- A comparison of a column with a right-hand side. -/
structure Filter where
  column : String
  operator : Operator
  operand : Operand
  deriving BEq

/-- The filter whose operator is given by its keyword. -/
def Filter.ofText (column operator : String) (operand : Operand) :
    Except BuildError Filter := do
  return ⟨column, ← Operator.ofText operator, operand⟩

/-- One criterion: a filter, or a group of filters of which one has to hold. -/
inductive Criterion where
  | filter (f : Filter)
  | anyOf (group : List Filter)
  deriving BEq

structure Filters where
  criteria : List Criterion
  deriving BEq

namespace Filters

def empty : Filters :=
  ⟨[]⟩

instance : Inhabited Filters :=
  ⟨empty⟩

/-- The criteria of one list followed by those of another. -/
instance : Append Filters :=
  ⟨fun a b => ⟨a.criteria ++ b.criteria⟩⟩

def ofList (filters : List Filter) : Filters :=
  ⟨filters.map .filter⟩

/-- Filters from columns with their operators and right-hand sides. -/
def ofMap (entries : List (String × Operator × Operand)) : Filters :=
  ofList (entries.map fun entry => ⟨entry.1, entry.2.1, entry.2.2⟩)

/-- Comparisons for equality from columns with their right-hand sides. -/
def ofEqualities (entries : List (String × Operand)) : Filters :=
  ofList (entries.map fun entry => ⟨entry.1, .equal, entry.2⟩)

def size (fs : Filters) : Nat :=
  fs.criteria.length

def isEmpty (fs : Filters) : Bool :=
  fs.criteria.isEmpty

def add (fs : Filters) (f : Filter) : Filters :=
  ⟨fs.criteria ++ [.filter f]⟩

/-- Adds a group of alternatives at the end.  An empty group is not added. -/
def anyOf (fs : Filters) (group : List Filter) : Filters :=
  if group.isEmpty then fs else ⟨fs.criteria ++ [.anyOf group]⟩

/-! ## One function for each operator -/

def equal (fs : Filters) (column : String) (operand : Operand) : Filters :=
  fs.add ⟨column, .equal, operand⟩

def like (fs : Filters) (column : String) (operand : Operand) : Filters :=
  fs.add ⟨column, .like, operand⟩

/-- Adds a pattern match as an alternative to what stands before it. -/
def orLike (fs : Filters) (column : String) (operand : Operand) : Filters :=
  fs.add ⟨column, .orLike, operand⟩

def greater (fs : Filters) (column : String) (operand : Operand) : Filters :=
  fs.add ⟨column, .greater, operand⟩

def less (fs : Filters) (column : String) (operand : Operand) : Filters :=
  fs.add ⟨column, .less, operand⟩

def atLeast (fs : Filters) (column : String) (operand : Operand) : Filters :=
  fs.add ⟨column, .atLeast, operand⟩

def atMost (fs : Filters) (column : String) (operand : Operand) : Filters :=
  fs.add ⟨column, .atMost, operand⟩

def inList (fs : Filters) (column : String) (operand : Operand) : Filters :=
  fs.add ⟨column, .inList, operand⟩

def between (fs : Filters) (column : String) (low high : Value) : Filters :=
  fs.add ⟨column, .between, .range low high⟩

/-! ## The criteria of each construction -/

@[simp]
theorem criteria_append (a b : Filters) :
    (a ++ b).criteria = a.criteria ++ b.criteria := rfl

@[simp]
theorem criteria_ofList (filters : List Filter) :
    (ofList filters).criteria = filters.map .filter := rfl

@[simp]
theorem criteria_add (fs : Filters) (f : Filter) :
    (fs.add f).criteria = fs.criteria ++ [.filter f] := rfl

@[simp]
theorem criteria_anyOf (fs : Filters) (group : List Filter) :
    (fs.anyOf group).criteria =
      fs.criteria ++ if group.isEmpty then [] else [.anyOf group] := by
  unfold anyOf
  split
  · simp
  · rfl

end Filters

end GuardedSql
