import MarketConditions.Proofs.Indicator.Extremes
import MarketConditions.Proofs.Expr.Typing
import MarketConditions.Proofs.Market.Cut

/-!
# Range functions are shifted aggregates

The extremes before a bar are worked out for all bars at once, by a queue and a lag; the
extreme of an expression is worked out bar by bar, from samples. On highs and lows that
are all defined both come to the same number at every bar, and so does what is worked out
from them. They need not be identical: of two zeros the queue keeps the later one, and the
samples the earlier one.

- `Aggregate.trailing`: an aggregate of the last entries of a column.
- `Library.evaluate_aggregate`, `Library.evaluate_earlier`, `Library.evaluate_range`: what
  the two sides evaluate to.
- `Extreme.same_rollingMax`, `Extreme.same_rollingMin`: the queue and the samples agree.
- `Extreme.same_position`: the position in a range agrees with its formula, where the
  range is empty or undefined too.
- `Session.range_functions_shifted`: **range functions are the shifted aggregates**.
-/

namespace MarketConditions

open Scalar (Same)

section Generic

variable {α : Type} [Scalar α]

/-- A column read some bars back. -/
theorem Column.orUndefined_lag (k : Nat) {xs : List α} {bar : Nat} (inside : bar < xs.length) :
    orUndefined (lag k Scalar.undefined xs)[bar]? =
      if bar < k then Scalar.undefined else orUndefined xs[bar - k]? := by
  rw [getElem?_lag, if_pos inside]
  split <;> rfl

namespace Aggregate

/-- An aggregate of the last `p` entries at a bar; undefined until there are so many. -/
def trailing (f : Aggregate) (p bar : Nat) (xs : List α) : α :=
  if bar + 1 < p then Scalar.undefined else f.ofSamples (Extreme.windowAt p bar xs)

/-- Samples that are defined are all counted. -/
theorem filter_defined {xs : List α} (defined : Column.Defined xs) :
    xs.filter (!Scalar.isUndefined ·) = xs := by
  rw [List.filter_eq_self]
  intro x hx
  rw [defined x hx]
  rfl

theorem ofSamples_highest {xs : List α} (defined : Column.Defined xs) (some : xs ≠ []) :
    highest.ofSamples xs = Scalar.greatest xs := by
  unfold ofSamples
  rw [filter_defined defined]
  exact if_neg (by rwa [List.isEmpty_iff])

theorem ofSamples_lowest {xs : List α} (defined : Column.Defined xs) (some : xs ≠ []) :
    lowest.ofSamples xs = Scalar.least xs := by
  unfold ofSamples
  rw [filter_defined defined]
  exact if_neg (by rwa [List.isEmpty_iff])

end Aggregate

/-! ## What the two sides evaluate to -/

namespace Library

variable (l : Library α)

/-- A column of prices. -/
def prices (field : PriceField) : List α := l.market.candles.map (·.price field)

theorem length_prices (field : PriceField) : (l.prices field).length = l.length := List.length_map _

theorem market_price (field : PriceField) (bar : Nat) :
    l.market.price field bar = Column.orUndefined (l.prices field)[bar]? := by
  unfold Market.price prices
  rw [List.getElem?_map]
  cases l.market.candles[bar]? <;> rfl

/-- The samples that an aggregate of a price takes are the last entries of the
price column. -/
theorem samples_eq (field : PriceField) {p bar : Nat} (full : p ≤ bar + 1)
    (inside : bar < l.length) :
    (List.range p).map (fun i => l.market.price field (bar + 1 - p + i)) =
      Extreme.windowAt p bar (l.prices field) := by
  have length := l.length_prices field
  apply List.ext_getElem?
  intro i
  unfold Extreme.windowAt
  rw [List.getElem?_map, List.getElem?_drop, List.getElem?_take]
  by_cases sampled : i < p
  · rw [List.getElem?_range sampled, if_pos (by omega), Option.map_some, market_price,
      List.getElem?_eq_getElem (by omega)]
    rfl
  · rw [List.getElem?_eq_none (by rw [List.length_range]; omega), if_neg (by omega)]
    rfl

theorem evaluate_aggregate (f : Aggregate) (field : PriceField) {p bar : Nat} (positive : 1 ≤ p)
    (inside : bar < l.length) : l.evaluate (.aggregate f (.price field) p) bar =
      .ok (.number (f.trailing p bar (l.prices field))) := by
  unfold Library.evaluate Aggregate.trailing
  rw [Evaluation.evaluate, if_neg (by omega)]
  by_cases early : bar + 1 < p
  · rw [if_pos early, if_pos early]
    rfl
  · rw [if_neg early, if_neg early, ← l.samples_eq field (by omega) inside]
    show ((List.range p).mapM fun i => (pure (l.market.price field (bar + 1 - p + i)) :
      Except EvaluationError α)) >>= _ = _
    rw [List.mapM_pure]
    rfl

/-- An aggregate of a price, looked back. -/
theorem evaluate_earlier (f : Aggregate) (field : PriceField) {p bar : Nat} (positive : 1 ≤ p)
    (offset : Nat) (inside : bar < l.length) :
    l.evaluate (.lookback (.aggregate f (.price field) p) offset) bar =
      .ok (.number (if bar < offset then Scalar.undefined
        else f.trailing p (bar - offset) (l.prices field))) := by
  have back : l.evaluate (.lookback (.aggregate f (.price field) p) offset) bar =
      if bar < offset then .ok (.number Scalar.undefined)
      else l.evaluate (.aggregate f (.price field) p) (bar - offset) := by
    unfold Library.evaluate
    rw [Evaluation.evaluate]
    rfl
  rw [back]
  split
  · rfl
  · exact l.evaluate_aggregate f field positive (by omega)

/-- A range function reads its column. -/
theorem evaluate_range {function : RangeFunction} {d : Derived α} {bar : Nat} {column : List α}
    (planned : planRange bar function = .ok (readNumber d bar))
    (holds : l.derived d = .numbers column.toArray) :
    l.evaluate (.range function) bar = .ok (.number (Column.orUndefined column[bar]?)) := by
  have answer : l.evaluate (.range function) bar =
      .ok (.number ((l.derived d).numberAt bar)) := by
    show ((planRange bar function).map l.carryOut).mapError _ >>= _ = _
    rw [planned]
    rfl
  rw [answer, holds]
  show Except.ok (Value.number (Column.orUndefined column.toArray[bar]?)) = _
  rw [List.getElem?_toArray]

theorem evaluate_price (field : PriceField) (bar : Nat) :
    l.evaluate (.price field) bar = .ok (.number (l.market.price field bar)) := rfl

theorem evaluate_arithmetic (op : Operation) {left right : Expr α} {bar : Nat} {x y : α}
    (hx : l.evaluate left bar = .ok (.number x)) (hy : l.evaluate right bar = .ok (.number y)) :
    l.evaluate (.arithmetic op left right) bar = .ok (.number (op.apply x y)) := by
  unfold Library.evaluate at hx hy ⊢
  rw [Evaluation.evaluate, hx, hy]
  rfl

end Library

end Generic

/-! ## The queue and the samples agree -/

namespace Extreme

variable {xs : List Float} {p bar : Nat}

/-- What a queue keeps is the aggregate of the window, if an entry that dominates all
entries is the aggregate of them. -/
theorem same_rolling {dominates : Float → Float → Bool} {f : Aggregate}
    (ranks : Dominance dominates xs) (defined : Column.Defined xs)
    (extreme : ∀ x, ∀ w : List Float, Column.Defined w → x ∈ w →
      (∀ y ∈ w, dominates x y = true) → Same x (f.ofSamples w))
    (positive : 1 ≤ p) (inside : bar < xs.length) :
    Same (Column.orUndefined (rolling dominates p xs)[bar]?) (f.trailing p bar xs) := by
  unfold Aggregate.trailing
  by_cases early : bar + 1 < p
  · rw [if_pos early, getElem?_rolling_early positive inside early]
    exact .refl _
  · obtain ⟨x, entry, here, top⟩ := getElem?_rolling_full ranks positive inside (by omega)
    rw [if_neg early, entry]
    exact extreme x _ (fun y hy => defined y (mem_of_mem_windowAt hy)) here top

theorem same_rollingMax (defined : Column.Defined xs) (positive : 1 ≤ p)
    (inside : bar < xs.length) :
    Same (Column.orUndefined (rollingMax p xs)[bar]?) (Aggregate.highest.trailing p bar xs) := by
  refine same_rolling (dominance_greatest defined) defined ?_ positive inside
  intro x w all here top
  rw [Aggregate.ofSamples_highest all (List.ne_nil_of_mem here)]
  exact Scalar.same_greatest all here fun y hy => of_decide_eq_true (top y hy)

theorem same_rollingMin (defined : Column.Defined xs) (positive : 1 ≤ p)
    (inside : bar < xs.length) :
    Same (Column.orUndefined (rollingMin p xs)[bar]?) (Aggregate.lowest.trailing p bar xs) := by
  refine same_rolling (dominance_least defined) defined ?_ positive inside
  intro x w all here bottom
  rw [Aggregate.ofSamples_lowest all (List.ne_nil_of_mem here)]
  exact Scalar.same_least all here fun y hy => of_decide_eq_true (bottom y hy)

/-- A column that agrees with an aggregate agrees with it some bars back. -/
theorem same_lag {column : List Float} {f : Aggregate} (length : column.length = xs.length)
    (agree : ∀ bar < xs.length, Same (Column.orUndefined column[bar]?)
      (f.trailing p bar xs)) (k : Nat)
    (inside : bar < xs.length) :
    Same (Column.orUndefined (Column.lag k Scalar.undefined column)[bar]?)
      (if bar < k then Scalar.undefined else f.trailing p (bar - k) xs) := by
  rw [Column.orUndefined_lag k (by omega)]
  split
  · exact .refl _
  · exact agree _ (by omega)

/-- A position in a range is its formula in the evaluator's arithmetic. Where the range is
zero or undefined the formula is undefined as well, by its division. -/
theorem same_position (price : Float) {low high low' high' : Float} (lows : Same low low')
    (highs : Same high high') : Same (position price low high)
      (Operation.mul.apply (Operation.div.apply (Operation.sub.apply price low')
        (Operation.sub.apply high' low')) 100) := by
  have range : Same (high - low) (high' - low') := highs.sub lows
  have above : Same (price - low) (price - low') := (Same.refl price).sub lows
  show Same (if Scalar.isUndefined (high - low) || high - low == 0 then Scalar.undefined
      else (price - low) / (high - low) * 100)
    ((if high' - low' == 0 then Scalar.undefined else (price - low') / (high' - low')) * 100)
  by_cases zero : (high - low == 0) = true
  · have zero' : (high' - low' == 0) = true := range.beq_zero.symm.trans zero
    rw [zero, Bool.or_true, if_pos rfl, if_pos zero']
    exact .inr ⟨rfl, Scalar.isUndefined_mul rfl⟩
  · rw [Bool.not_eq_true] at zero
    have nonzero : ¬ (high' - low' == 0) = true := by
      rw [← range.beq_zero, zero]
      exact Bool.false_ne_true
    rw [zero, Bool.or_false, if_neg nonzero]
    by_cases undefined : Scalar.isUndefined (high - low) = true
    · rw [if_pos undefined]
      rw [range.isUndefined] at undefined
      exact .inr ⟨rfl, Scalar.isUndefined_mul (Scalar.isUndefined_div undefined)⟩
    · rw [if_neg undefined]
      exact (above.div range zero).mul (.refl 100)

end Extreme

/-! ## Range functions -/

namespace Library

variable {l : Library Float} {p bar : Nat}

/-- The highest highs of earlier bars agree with the aggregate looked back. -/
theorem same_earlierHigh (defined : Column.Defined (l.prices .high)) (positive : 1 ≤ p)
    (skip : Nat) (inside : bar < l.length) :
    Same (Column.orUndefined (Extreme.earlierHigh p skip l.market.candles)[bar]?)
      (if bar < skip + 1 then Scalar.undefined
        else Aggregate.highest.trailing p (bar - (skip + 1)) (l.prices .high)) :=
  Extreme.same_lag ((Extreme.causal_rollingMax p).length (l.prices .high))
    (fun _ => Extreme.same_rollingMax defined positive) (skip + 1)
    (by rwa [length_prices])

/-- The lowest lows of earlier bars agree with the aggregate looked back. -/
theorem same_earlierLow (defined : Column.Defined (l.prices .low)) (positive : 1 ≤ p)
    (skip : Nat) (inside : bar < l.length) :
    Same (Column.orUndefined (Extreme.earlierLow p skip l.market.candles)[bar]?)
      (if bar < skip + 1 then Scalar.undefined
        else Aggregate.lowest.trailing p (bar - (skip + 1)) (l.prices .low)) :=
  Extreme.same_lag ((Extreme.causal_rollingMin p).length (l.prices .low))
    (fun _ => Extreme.same_rollingMin defined positive) (skip + 1)
    (by rwa [length_prices])

/-- The position of a close in the range of earlier bars is worked out from the
two columns. -/
theorem rangePosition_eq (p skip : Nat) (inside : bar < l.length) :
    Column.orUndefined (Extreme.rangePosition p skip l.market.candles)[bar]? =
      Extreme.position (l.market.price .close bar)
        (Column.orUndefined (Extreme.earlierLow p skip l.market.candles)[bar]?)
        (Column.orUndefined (Extreme.earlierHigh p skip l.market.candles)[bar]?) := by
  have fits : bar < l.market.candles.length := inside
  have low := List.getElem?_eq_getElem
    ((Extreme.causal_earlierLow p skip).length l.market.candles ▸ fits)
  have high := List.getElem?_eq_getElem
    ((Extreme.causal_earlierHigh p skip).length l.market.candles ▸ fits)
  have close : (closes l.market.candles)[bar]? = some l.market.candles[bar].close := by
    unfold closes
    rw [List.getElem?_map, List.getElem?_eq_getElem fits]
    rfl
  have price : l.market.price .close bar = l.market.candles[bar].close := by
    unfold Market.price
    rw [List.getElem?_eq_getElem fits]
    rfl
  have entry : (Extreme.rangePosition p skip l.market.candles)[bar]? = some _ :=
    List.getElem?_zipWith_eq_some.mpr
      ⟨_, (_, _), close, List.getElem?_zip_eq_some.mpr ⟨low, high⟩, rfl⟩
  rw [entry, price, low, high]
  rfl

end Library

/-- Two expressions have the same number as their values at a bar. -/
def Session.AgreeAt (s : Session Float) (bar : Nat) (e e' : Expr Float) : Prop :=
  ∃ x y, (Session.evaluate e bar s).1 = .ok (.number x) ∧
    (Session.evaluate e' bar s).1 = .ok (.number y) ∧ Same x y

theorem Session.AgreeAt.of_values {s : Session Float} {bar : Nat} {e e' : Expr Float} {x y : Float}
    (hx : s.library.evaluate e bar = .ok (.number x))
    (hy : s.library.evaluate e' bar = .ok (.number y)) (same : Same x y) : s.AgreeAt bar e e' :=
  ⟨x, y, ((s.evaluate_eq e bar).1.trans hx), ((s.evaluate_eq e' bar).1.trans hy), same⟩

/-- **Range functions are the shifted aggregates.** On a market whose highs and lows are
defined, and whatever a session has kept, the highest high before a bar and the lowest low
before it are the aggregates looked back one bar, and a position in the range of earlier
bars is its formula over the aggregates looked back: each time the two sides are values,
and the same number or undefined both. -/
theorem Session.range_functions_shifted (s : Session Float) {p bar : Nat} (skip : Nat)
    (defined : ∀ c ∈ s.library.market.candles,
      Scalar.isUndefined c.high = false ∧ Scalar.isUndefined c.low = false)
    (positive : 1 ≤ p) (inside : bar < s.library.length) :
    let high : Expr Float := .aggregate .highest (.price .high) p
    let low : Expr Float := .aggregate .lowest (.price .low) p
    let above : Expr Float := .lookback high (skip + 1)
    let below : Expr Float := .lookback low (skip + 1)
    s.AgreeAt bar (.range (.highOf p)) (.lookback high 1) ∧
    s.AgreeAt bar (.range (.lowOf p)) (.lookback low 1) ∧
    s.AgreeAt bar (.range (.rangePosition p skip))
      (.arithmetic .mul (.arithmetic .div (.arithmetic .sub (.price .close) below)
        (.arithmetic .sub above below)) (.number 100)) := by
  intro high low above below
  have highs : Column.Defined (s.library.prices .high) := by
    intro x hx
    obtain ⟨c, hc, rfl⟩ := List.mem_map.mp hx
    exact (defined c hc).1
  have lows : Column.Defined (s.library.prices .low) := by
    intro x hx
    obtain ⟨c, hc, rfl⟩ := List.mem_map.mp hx
    exact (defined c hc).2
  have planned : decide (p ≠ 0) = true := decide_eq_true (by omega)
  have range {function : RangeFunction} {d : Derived Float} {name reason : String}
      {column : List Float} (plan : Library.planRange bar function =
        (LibraryError.unless name reason (p ≠ 0) >>= fun _ => pure (Library.readNumber d bar)))
      (holds : s.library.derived d = .numbers column.toArray) :=
    s.library.evaluate_range (plan.trans (Library.unless_bind planned _)) holds
  have aboveValue (k : Nat) := s.library.evaluate_earlier .highest .high positive k inside
  have belowValue (k : Nat) := s.library.evaluate_earlier .lowest .low positive k inside
  have aboveSame (skip : Nat) := Library.same_earlierHigh highs positive skip inside
  have belowSame (skip : Nat) := Library.same_earlierLow lows positive skip inside
  refine ⟨.of_values (range rfl rfl) (aboveValue 1) ?_,
    .of_values (range rfl rfl) (belowValue 1) ?_,
    .of_values (range rfl rfl)
      (s.library.evaluate_arithmetic .mul
        (s.library.evaluate_arithmetic .div
          (s.library.evaluate_arithmetic .sub (s.library.evaluate_price .close bar)
            (belowValue (skip + 1)))
          (s.library.evaluate_arithmetic .sub (aboveValue (skip + 1))
            (belowValue (skip + 1)))) rfl) ?_⟩
  · exact aboveSame 0
  · exact belowSame 0
  · have position := Extreme.same_position (s.library.market.price .close bar) (belowSame skip)
      (aboveSame skip)
    rw [← Library.rangePosition_eq p skip inside] at position
    exact position

/-- The last of three bars, on highs of zero with either sign: the queue keeps the later
zero and the samples the earlier one, and the close lies twice the range above the low. -/
theorem Session.range_functions_shifted_zeros :
    let first : Candle Float := { Candle.still (.ofMillis 0) 0 with low := -1 }
    let second : Candle Float := { Candle.still (.ofMillis 60000) (-0) with low := -0.5 }
    let s : Session Float :=
      .new ⟨Market.ofCandles [first, second, .still (.ofMillis 120000) 1], .default⟩
    let high : Expr Float := .lookback (.aggregate .highest (.price .high) 2) 1
    let low : Expr Float := .lookback (.aggregate .lowest (.price .low) 2) 1
    ((∀ c ∈ s.library.market.candles,
        Scalar.isUndefined c.high = false ∧ Scalar.isUndefined c.low = false) ∧
      1 ≤ 2 ∧ 2 < s.library.length) ∧
    s.AgreeAt 2 (.range (.highOf 2)) high ∧ s.AgreeAt 2 (.range (.lowOf 2)) low ∧
    s.AgreeAt 2 (.range (.rangePosition 2 0))
      (.arithmetic .mul (.arithmetic .div (.arithmetic .sub (.price .close) low)
        (.arithmetic .sub high low)) (.number 100)) := by
  intro first second s high low
  have defined : ∀ c ∈ s.library.market.candles,
      Scalar.isUndefined c.high = false ∧ Scalar.isUndefined c.low = false := by
    decide +kernel +revert
  have inside : 2 < s.library.length := by decide
  exact ⟨⟨defined, by decide, inside⟩, s.range_functions_shifted 0 defined (by decide) inside⟩

end MarketConditions
