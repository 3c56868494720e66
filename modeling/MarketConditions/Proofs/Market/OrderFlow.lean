import Mathlib.Data.List.Basic
import MarketConditions.OrderFlow

/-!
# The order flow of a bar

What a bar says of its flow, and what its trades do, in one step of the running total.

- `FlowReading.read`: a field of a bar's order flow; `OrderFlow.readings`: the order
  flow bar by bar.
- `OrderFlow.flowStep_of_sides`, `OrderFlow.barSides_of_reported`: what goes into the
  total, and where trades are not looked at.
- `OrderFlow.stateAfter_reported`: the total over bars that report what was bought.
- `OrderFlow.sides_of_silent`: **a bar that does not report what was bought** shows what
  its trades say.
-/

namespace MarketConditions

variable {α : Type} [Scalar α]

/-- A field of a bar's order flow. Funding is no part of it. -/
def FlowReading.read (r : FlowReading α) : OrderFlowField → α
  | .delta => r.delta
  | .cvd => r.cumulative
  | .buyVolume => r.buys
  | .sellVolume => r.sells
  | .tradeCount => r.trades
  | .fundingRate => Scalar.undefined

namespace OrderFlow

/-- The order flow bar by bar. -/
def readings (m : Market α) : List (FlowReading α) :=
  Column.running (flowStep (!m.trades.isEmpty)) none (m.candles.zip m.buckets)

/-- A bar of which something is known goes into the running total. -/
theorem flowStep_of_sides {known : Bool} {c : Candle α} {trades : List (Trade α)} {buys sells : α}
    (sides : barSides known c trades = some (buys, sells)) (total : Option α) :
    flowStep known total (c, trades) =
      (some (total.getD 0 + buys - sells), ⟨buys, sells, buys - sells, total.getD 0 + buys - sells,
        barTrades known c trades⟩) := by
  simp only [flowStep, sides]

/-- Where a bar reports what was bought, its trades are not looked at. -/
theorem barSides_of_reported {c : Candle α} (reported : c.takerBuys.isSome) :
    ∃ buys, ∀ known trades, barSides known c trades = some (buys, c.volume - buys) := by
  obtain ⟨buys, reported⟩ := Option.isSome_iff_exists.mp reported
  exact ⟨buys, fun known trades => by simp only [barSides, reported]⟩

/-- The number of trades does not depend on what was bought. -/
theorem trades_flowStep (known : Bool) (total : Option α) (c : Candle α)
    (trades : List (Trade α)) :
    (flowStep known total (c, trades)).2.trades = barTrades known c trades := by
  cases sides : barSides known c trades with
  | none => simp only [flowStep, sides]
  | some both => simp only [flowStep, sides]

/-- What was bought does not depend on the bars before. -/
theorem buys_flowStep (known : Bool) (total : Option α) (c : Candle α) (trades : List (Trade α)) :
    (flowStep known total (c, trades)).2.buys =
      Column.orUndefined ((barSides known c trades).map Prod.fst) := by
  cases sides : barSides known c trades with
  | none =>
    simp only [flowStep, sides]
    rfl
  | some both =>
    simp only [flowStep, sides]
    rfl

/-- The running total over bars that report what was bought. -/
theorem stateAfter_reported {bars : List (Candle α × List (Trade α))}
    (reported : ∀ x ∈ bars, x.1.takerBuys.isSome) (known known' : Bool) (total : Option α) :
    Column.stateAfter (flowStep known) total bars =
      Column.stateAfter (flowStep known') total bars := by
  refine List.foldl_ext _ _ total fun total x hx => ?_
  obtain ⟨buys, sides⟩ := barSides_of_reported (reported x hx)
  rw [flowStep_of_sides (sides known x.2), flowStep_of_sides (sides known' x.2)]

/-- A bar that does not report what was bought, in a market with trades, shows what its
own trades say. -/
theorem sides_of_silent {m : Market α} {bar : Nat} {c : Candle α} {trades : List (Trade α)}
    (stands : m.candles[bar]? = some c) (bucket : m.buckets[bar]? = some trades)
    (silent : c.takerBuys = none) (known : m.trades ≠ []) :
    (orderFlow m).buys[bar]? = some (sides trades).1 ∧
      (orderFlow m).sells[bar]? = some (sides trades).2 := by
  have found : (m.candles.zip m.buckets)[bar]? = some (c, trades) :=
    List.getElem?_zip_eq_some.mpr ⟨stands, bucket⟩
  have told : barSides (!m.trades.isEmpty) c trades = some (sides trades) := by
    have some_trade : (!m.trades.isEmpty) = true := by simpa using known
    unfold barSides
    rw [silent, some_trade]
    rfl
  show ((readings m).map FlowReading.buys)[bar]? = _ ∧
    ((readings m).map FlowReading.sells)[bar]? = _
  unfold readings
  rw [List.getElem?_map, List.getElem?_map, Column.getElem?_running, found, Option.map_some,
    flowStep_of_sides told]
  exact ⟨rfl, rfl⟩

end OrderFlow

end MarketConditions
