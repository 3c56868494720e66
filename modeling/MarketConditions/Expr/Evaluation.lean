import MarketConditions.Expr.Basic
import MarketConditions.Library.Session

/-!
# Evaluation

What an expression says at a bar. Comparisons with an undefined side are false, crosses
need the bar before, and a value from before the first bar is undefined.

- `Evaluation.evaluate` — the rules, over any way of asking a library
- `Library.evaluate` — evaluation by a library's answers
- `Session.evaluate` — the same with what has been worked out kept
-/

namespace MarketConditions

variable {α : Type} [Scalar α]

/-! ## Numbers -/

namespace Comparison

/-- Numbers closer than this are equal to a condition. -/
def tolerance : α := 1e-7

/-- Compares two numbers; nothing holds of an undefined one. -/
def holds (op : Comparison) (l r : α) : Bool :=
  if Scalar.isUndefined l || Scalar.isUndefined r then false
  else match op with
    | gt => r < l
    | lt => l < r
    | ge => r ≤ l
    | le => l ≤ r
    | eq => Scalar.abs (l - r) < tolerance

end Comparison

namespace Operation

/-- Works out an operation; a quotient by zero is undefined. -/
def apply (op : Operation) (l r : α) : α :=
  match op with
  | add => l + r
  | sub => l - r
  | mul => l * r
  | div => if r == 0 then Scalar.undefined else l / r

end Operation

namespace CrossDirection

/-- Whether the left number was not beyond the right one and now is. -/
def holds (d : CrossDirection) (leftNow rightNow leftBefore rightBefore : α) : Bool :=
  if [leftNow, rightNow, leftBefore, rightBefore].any Scalar.isUndefined then false
  else match d with
    | above => leftBefore ≤ rightBefore && rightNow < leftNow
    | below => rightBefore ≤ leftBefore && leftNow < rightNow

end CrossDirection

namespace Aggregate

/-- The aggregate of samples, the current one last. Undefined ones are passed over, but a
percentile needs the current one. -/
def ofSamples (f : Aggregate) (samples : List α) : α :=
  let defined := samples.filter (!Scalar.isUndefined ·)
  if defined.isEmpty then Scalar.undefined
  else match f with
    | lowest => Scalar.least defined
    | highest => Scalar.greatest defined
    | percentile =>
      let current := Column.orUndefined samples.getLast?
      if Scalar.isUndefined current then Scalar.undefined
      else
        Scalar.ofNat (defined.countP fun v => v < current) / Scalar.ofNat defined.length * 100

end Aggregate

/-! ## Expressions -/

namespace Evaluation

variable {M : Type → Type} [Monad M] [MonadExcept EvaluationError M]

/-- Insists on a truth value. -/
def expectBool (context : String) : Value α → M Bool
  | .bool b => pure b
  | .number _ => throw (.typeMismatch .boolean .number context)

/-- Insists on a number. -/
def expectNumber (context : String) : Value α → M α
  | .number x => pure x
  | .bool _ => throw (.typeMismatch .number .boolean context)

/-- The output of a reading that an expression names. -/
def pick (i : Indicator) (p : Option Property) (r : Reading α) : M (Value α) :=
  match r.field p, p with
  | some v, _ => pure v
  | none, none => throw (.missingProperty i.text)
  | none, some p => throw (.unknownProperty i.text p.text)

/-- Evaluates an expression at a bar, asking the library through `ask`. Operands are
evaluated from left to right; the right operand of a connective only if the left one
leaves it open. Bars are exact numbers; in words of 64 bits an aggregate asks for
`bar + 1 < 2 ^ 64`. -/
def evaluate (ask : ∀ {β : Type}, Query α β → M β) : Expr α → Nat → M (Value α)
  | .number x, _ => pure (.number x)
  | .bool b, _ => pure (.bool b)
  | .price field, bar => return .number (← ask (.price field bar))
  | .comparison op left right, bar => do
    let l ← expectNumber "comparison" (← evaluate ask left bar)
    let r ← expectNumber "comparison" (← evaluate ask right bar)
    return .bool (op.holds l r)
  | .cross _ _ _, 0 => pure (.bool false)
  | .cross direction left right, bar + 1 => do
    let leftNow ← expectNumber "cross" (← evaluate ask left (bar + 1))
    let rightNow ← expectNumber "cross" (← evaluate ask right (bar + 1))
    let leftBefore ← expectNumber "cross" (← evaluate ask left bar)
    let rightBefore ← expectNumber "cross" (← evaluate ask right bar)
    return .bool (direction.holds leftNow rightNow leftBefore rightBefore)
  | .logical op left right, bar => do
    let l ← expectBool "logical operand" (← evaluate ask left bar)
    match op, l with
    | .and, false => return .bool false
    | .or, true => return .bool true
    | _, _ => return .bool (← expectBool "logical operand" (← evaluate ask right bar))
  | .not inner, bar => return .bool (!(← expectBool "NOT" (← evaluate ask inner bar)))
  | .between inner lower upper, bar => do
    let v ← expectNumber "BETWEEN" (← evaluate ask inner bar)
    let lo ← expectNumber "BETWEEN" (← evaluate ask lower bar)
    let hi ← expectNumber "BETWEEN" (← evaluate ask upper bar)
    return .bool (lo ≤ v && v ≤ hi)
  | .arithmetic op left right, bar => do
    let l ← expectNumber "arithmetic" (← evaluate ask left bar)
    let r ← expectNumber "arithmetic" (← evaluate ask right bar)
    return .number (op.apply l r)
  | .indicator i p, bar => do pick i p (← ask (.reading i bar))
  | .range function, bar => return .number (← ask (.range function bar))
  | .aggregate f inner period, bar => do
    if period = 0 then throw (.invalidArgument f.text "period must be at least 1")
    else if bar + 1 < period then return .number Scalar.undefined
    else
      let samples ← (List.range period).mapM fun i => do
        expectNumber "aggregate" (← evaluate ask inner (bar + 1 - period + i))
      return .number (f.ofSamples samples)
  | .lookback inner offset, bar =>
    if bar < offset then pure inner.valueType.undefined
    else evaluate ask inner (bar - offset)
  | .time field, bar => return .number (← ask (.timeField field bar))
  | .moon field, bar => return .number (← ask (.moonField field bar))
  | .orderFlow field, bar => return .number (← ask (.orderFlow field bar))
  | .footprint (.level level), bar => return .number (← ask (.footprintLevel level bar))
  | .footprint (.imbalance level ratio), bar => return .bool (← ask (.imbalance level ratio bar))
  | .footprint (.absorption ratio percent), bar =>
    return .bool (← ask (.absorption ratio percent bar))
  | .exchange (.delta name), bar => return .number (← ask (.exchangeDelta name bar))
  | .exchange .combinedDelta, bar => return .number (← ask (.combinedDelta bar))
  | .exchange (.divergence threshold), bar => return .bool (← ask (.divergence threshold bar))

/-- Evaluates a condition; a number is a mismatch. -/
def evaluateCondition (ask : ∀ {β : Type}, Query α β → M β) (e : Expr α) (bar : Nat) : M Bool := do
  expectBool "condition" (← evaluate ask e bar)

/-- Evaluates a numeric expression; a truth value is a mismatch. -/
def evaluateNumber (ask : ∀ {β : Type}, Query α β → M β) (e : Expr α) (bar : Nat) : M α := do
  expectNumber "numeric expression" (← evaluate ask e bar)

end Evaluation

/-! ## Ways of asking -/

namespace Library

/-- A library's answer, a refusal being an evaluation error. -/
def ask {β : Type} (l : Library α) (q : Query α β) : Except EvaluationError β :=
  (l.answer q).mapError .library

/-- The value of an expression at a bar. -/
def evaluate (l : Library α) (e : Expr α) (bar : Nat) : Except EvaluationError (Value α) :=
  Evaluation.evaluate l.ask e bar

end Library

/-- Evaluation that goes on with what has been worked out, after a failure too. -/
abbrev Evaluating (α : Type) [Scalar α] := ExceptT EvaluationError (StateM (Session α))

namespace Session

/-- A session's answer, a refusal being an evaluation error. -/
def query {β : Type} (q : Query α β) : Evaluating α β := fun s =>
  ((s.ask q).1.mapError .library, (s.ask q).2)

/-- The value of an expression at a bar. -/
def evaluate (e : Expr α) (bar : Nat) : Evaluating α (Value α) :=
  Evaluation.evaluate query e bar

/-- The truth of a condition at a bar. -/
def evaluateCondition (e : Expr α) (bar : Nat) : Evaluating α Bool :=
  Evaluation.evaluateCondition query e bar

/-- The number of a numeric expression at a bar. -/
def evaluateNumber (e : Expr α) (bar : Nat) : Evaluating α α :=
  Evaluation.evaluateNumber query e bar

end Session

end MarketConditions
