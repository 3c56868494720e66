import MarketConditions.Column
import MarketConditions.Market.Basic

/-!
# Moving averages

- `simpleAverage` — the mean of the last `p` entries, kept as a sliding total
- `exponentialAverage` — each entry moves the average by the share `2 / (p + 1)`; it
  starts at the mean of the first `p` entries
- `weightedAverage` — the last `p` entries weighted 1 to `p`, kept as two sliding totals

All three skip an undefined start, so that one can be taken of another indicator's output,
and have their first value at entry `p - 1` behind it. A period of zero gives no values.
-/

namespace MarketConditions

variable {α : Type} [Scalar α]

/-- The closes of the bars. -/
def closes (candles : List (Candle α)) : List α := candles.map Candle.close

/-- The highs of the bars. -/
def highs (candles : List (Candle α)) : List α := candles.map Candle.high

/-- The lows of the bars. -/
def lows (candles : List (Candle α)) : List α := candles.map Candle.low

namespace Average

/-- Each entry with its number and the entry that leaves the window of length `p` when it
enters. -/
def withLeaving (p : Nat) (xs : List α) : List (Nat × α × Option α) :=
  Column.numbered (xs.zip (Column.lag p none (xs.map some)))

/-! ## Simple -/

/-- Adds the entering value, then takes off the leaving one. The mean is known once `p`
values have entered. -/
def simpleStep (p : Nat) (total : α) : Nat × α × Option α → α × α
  | (i, entering, leaving) =>
    let grown := total + entering
    let total := match leaving with
      | some old => grown - old
      | none => grown
    (total, if i + 1 ≥ p then total / Scalar.ofNat p else Scalar.undefined)

/-- The mean of the last `p` entries. -/
def simpleAverage (p : Nat) (xs : List α) : List α :=
  if p = 0 then Column.allUndefined xs
  else Column.afterUndefined (fun ys => Column.running (simpleStep p) 0 (withLeaving p ys)) xs

/-! ## Exponential -/

/-- The mean of some entries. -/
def mean (xs : List α) : α := Scalar.sum xs / Scalar.ofNat xs.length

/-- Moves an average towards an entry. -/
def exponentialNext (p : Nat) (average entry : α) : α :=
  let share : α := 2 / (Scalar.ofNat p + 1)
  entry * share + average * (1 - share)

/-- The average that each entry moves by the share `2 / (p + 1)`. -/
def exponentialAverage (p : Nat) (xs : List α) : List α :=
  Column.afterUndefined
    (fun ys => (Column.seeded p mean (exponentialNext p) ys).map Column.orUndefined) xs

/-! ## Weighted -/

/-- The weighted total and the plain total of a window. -/
structure WeightedTotals (α : Type) where
  weighted : α
  plain : α

/-- While the window fills, each entry gets the next weight. From then on the weight of
every held entry falls by one, which takes off the plain total. -/
def weightedStep (p : Nat) (t : WeightedTotals α) : Nat × α × Option α → WeightedTotals α × α
  | (i, entering, leaving) =>
    let t : WeightedTotals α := match leaving with
      | some old => ⟨t.weighted + (Scalar.ofNat p * entering - t.plain), t.plain + (entering - old)⟩
      | none => ⟨t.weighted + Scalar.ofNat (i + 1) * entering, t.plain + entering⟩
    let weights : α := Scalar.ofNat (p * (p + 1)) / 2
    (t, if i + 1 ≥ p then t.weighted / weights else Scalar.undefined)

/-- The mean of the last `p` entries, weighted 1 to `p`. The weights add up to an exact
number; in words of 64 bits this asks for `p * (p + 1) < 2 ^ 64`. -/
def weightedAverage (p : Nat) (xs : List α) : List α :=
  if p = 0 then Column.allUndefined xs
  else Column.afterUndefined
    (fun ys => Column.running (weightedStep p) ⟨0, 0⟩ (withLeaving p ys)) xs

end Average

end MarketConditions
