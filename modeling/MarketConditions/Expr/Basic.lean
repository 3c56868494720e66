import MarketConditions.Value
import MarketConditions.Indicator.Basic
import MarketConditions.Indicator.Extreme
import MarketConditions.Auction.Footprint
import MarketConditions.OrderFlow

/-!
# Expressions

The conditions and numbers that can be asked about a bar.

- `Expr` — the expressions, one constructor per kind of node
- `Expr.valueType` — the type of an expression's values, read off its shape
-/

namespace MarketConditions

/-- How two numbers are compared. -/
inductive Comparison where
  | gt
  | lt
  | ge
  | le
  /-- Equal within a small tolerance. -/
  | eq
deriving DecidableEq, Repr

/-- Which way one number crosses another. -/
inductive CrossDirection where
  | above
  | below
deriving DecidableEq, Repr

/-- How two conditions are joined. -/
inductive Connective where
  | and
  | or
deriving DecidableEq, Repr

/-- The four operations. -/
inductive Operation where
  | add
  | sub
  | mul
  | div
deriving DecidableEq, Repr

/-- Functions of the last values of an expression. -/
inductive Aggregate where
  | lowest
  | highest
  /-- Share of the values below the current one, in percent. -/
  | percentile
deriving DecidableEq, Repr

namespace Aggregate

/-- The written name. -/
def text : Aggregate → String
  | lowest => "LOWEST"
  | highest => "HIGHEST"
  | percentile => "PERCENTILE"

end Aggregate

/-- Questions about a bar's footprint. What is not given is taken from the settings. -/
inductive FootprintFunction (α : Type) where
  | level (level : FootprintLevel)
  | imbalance (level : FootprintLevel) (ratio : Option α)
  | absorption (volumeRatio movePercent : Option α)
deriving DecidableEq

/-- Questions about exchanges. What is not given is taken from the settings. -/
inductive ExchangeFunction (α : Type) where
  | delta (exchange : String)
  | combinedDelta
  | divergence (threshold : Option α)
deriving DecidableEq

/-- An expression over one bar. -/
inductive Expr (α : Type) where
  | number (x : α)
  | bool (b : Bool)
  | price (field : PriceField)
  | comparison (op : Comparison) (left right : Expr α)
  | cross (direction : CrossDirection) (left right : Expr α)
  | logical (op : Connective) (left right : Expr α)
  | not (inner : Expr α)
  /-- Both bounds belong to the range. -/
  | between (inner lower upper : Expr α)
  | arithmetic (op : Operation) (left right : Expr α)
  | indicator (indicator : Indicator) (property : Option Property)
  | range (function : RangeFunction)
  | aggregate (function : Aggregate) (inner : Expr α) (period : Nat)
  /-- The value a number of bars before. -/
  | lookback (inner : Expr α) (offset : Nat)
  | time (field : TimeField)
  | moon (field : MoonField)
  | orderFlow (field : OrderFlowField)
  | footprint (function : FootprintFunction α)
  | exchange (function : ExchangeFunction α)
deriving DecidableEq

namespace Expr

variable {α : Type}

/-- The type of an expression's values. -/
def valueType : Expr α → ValueType
  | bool _ | comparison .. | cross .. | logical .. | not _ | between .. => .boolean
  | indicator _ (some p) => if p.isBoolean then .boolean else .number
  | footprint (.imbalance ..) | footprint (.absorption ..) => .boolean
  | exchange (.divergence _) => .boolean
  | lookback inner _ => inner.valueType
  | _ => .number

end Expr

end MarketConditions
