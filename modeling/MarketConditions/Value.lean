import MarketConditions.Scalar

/-!
# Values

- `Value` — what a condition evaluates to, a number or a truth value
- `ValueType` — which of the two
- `ValueType.undefined` — what is read where there is no history
-/

namespace MarketConditions

/-- A number or a truth value. -/
inductive Value (α : Type) where
  | bool (b : Bool)
  | number (x : α)

/-- The type of a value. -/
inductive ValueType where
  | boolean
  | number
deriving DecidableEq, Repr

namespace ValueType

/-- The name of a type. -/
def text : ValueType → String
  | boolean => "boolean"
  | number => "number"

/-- What is read where there is no history: false, or the undefined number. -/
def undefined {α : Type} [Scalar α] : ValueType → Value α
  | boolean => .bool false
  | number => .number Scalar.undefined

end ValueType

namespace Value

variable {α : Type}

/-- The type of a value. -/
def type : Value α → ValueType
  | bool _ => .boolean
  | number _ => .number

@[simp] theorem type_undefined [Scalar α] (t : ValueType) : (t.undefined : Value α).type = t := by
  cases t <;> rfl

end Value

end MarketConditions
