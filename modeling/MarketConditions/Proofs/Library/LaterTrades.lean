import MarketConditions.Proofs.Library.LookAhead
import MarketConditions.Proofs.Market.Buckets
import MarketConditions.Proofs.Market.OrderFlow

/-!
# Trades that come later

A cursor over the trades hands each bar those before its close, so trades at or after the
close of a bar change neither its bucket nor an earlier one. What is made bar by bar of
the buckets does not change either. The order flow looks at one thing more: whether there
are any trades at all. Bars that do not report their flow are undefined as long as there
are none, and count as bars without a trade as soon as there is one.

- `Market.SameBefore`: a market and other trades that are the same before the
  close of a bar.
- `SameBefore.footprints`, `SameBefore.readings`, `SameBefore.read`: what is then the same.
- `Market.Reports`: a bar reports what a number of its order flow is made of.
- `Library.later_trades_unseen`: **what later trades leave as it is**, and where the
  first trade shows.
- `Library.first_trade_seen`: a bar that reads otherwise because of a trade after its close.
-/

namespace MarketConditions

variable {α : Type}

namespace Market

/-! ## Markets that differ in later trades -/

/-- The market with other trades. -/
def withTrades (m : Market α) (trades : List (Trade α)) : Market α := { m with trades }

/-- Other trades, in order of time as those of the market, that are the same before the
close of a bar. -/
structure SameBefore (m : Market α) (last : Nat) (trades : List (Trade α)) : Prop where
  ordered : Ordered m.candles
  inTime : InTime m.trades
  inTime' : InTime trades
  closed : ∃ c, m.candles[last]? = some c ∧
    tradesBefore (c.time.plus m.timeframe.nanos) m.trades =
      tradesBefore (c.time.plus m.timeframe.nanos) trades

variable {m : Market α} {last : Nat} {trades : List (Trade α)}

/-- The buckets are the same up to the bar. -/
theorem SameBefore.buckets (same : m.SameBefore last trades) {n : Nat} (upto : n ≤ last + 1) :
    m.buckets.take n = (m.withTrades trades).buckets.take n := by
  obtain ⟨c, here, before⟩ := same.closed
  have closed : ∀ d ∈ m.candles.take n,
      d.time.plus m.timeframe.nanos ≤ c.time.plus m.timeframe.nanos := fun d hd =>
    same.ordered.closed here _ d (List.take_subset_take_left _ upto hd)
  rw [buckets_take same.inTime closed, before]
  exact (buckets_take (m := m.withTrades trades) same.inTime' closed).symm

/-- The bars beside their trades are the same up to the bar. -/
theorem SameBefore.bars (same : m.SameBefore last trades) {n : Nat} (upto : n ≤ last + 1) :
    (m.candles.zip m.buckets).take n =
      (m.candles.zip (m.withTrades trades).buckets).take n := by
  unfold List.zip
  rw [List.take_zipWith, List.take_zipWith, same.buckets upto]

/-- The bucket of a bar is the same. -/
theorem SameBefore.bucket (same : m.SameBefore last trades) {bar : Nat} (here : bar ≤ last) :
    m.buckets[bar]? = (m.withTrades trades).buckets[bar]? :=
  Column.entry_of_take (same.buckets (Nat.succ_le_succ here))

variable [Scalar α]

/-- A footprint is that of a bar's bucket. -/
theorem SameBefore.footprints (same : m.SameBefore last trades) (tick share : α) {bar : Nat}
    (here : bar ≤ last) : (MarketConditions.footprints tick share m)[bar]? =
      (MarketConditions.footprints tick share (m.withTrades trades))[bar]? := by
  unfold MarketConditions.footprints
  rw [List.getElem?_zipWith, List.getElem?_zipWith, same.bucket here]
  rfl

end Market

/-! ## Order flow -/

variable [Scalar α]

namespace Market

/-- At a bar the market reports what a field of the order flow is made of, so that trades
need not be looked at. -/
def Reports (m : Market α) (bar : Nat) : OrderFlowField → Prop
  | .delta | .buyVolume | .sellVolume => ∀ c ∈ m.candles[bar]?, c.takerBuys.isSome
  | .cvd => ∀ c ∈ m.candles.take (bar + 1), c.takerBuys.isSome
  | .tradeCount => ∀ c ∈ m.candles[bar]?, c.tradeCount.isSome
  | .fundingRate => True

variable {m : Market α} {last : Nat} {trades : List (Trade α)}

open OrderFlow

/-- The order flow is the same if there are any trades in both cases, or in none. -/
theorem SameBefore.readings (same : m.SameBefore last trades)
    (known : m.trades = [] ↔ trades = []) {bar : Nat} (here : bar ≤ last) :
    (OrderFlow.readings m)[bar]? = (OrderFlow.readings (m.withTrades trades))[bar]? := by
  have known : m.trades.isEmpty = (m.withTrades trades).trades.isEmpty := by
    rw [Bool.eq_iff_iff, List.isEmpty_iff, List.isEmpty_iff]
    exact known
  refine Column.entry_of_take ?_
  unfold OrderFlow.readings
  rw [Column.take_running, Column.take_running, same.bars (Nat.succ_le_succ here), known]
  rfl

omit [Scalar α] in
/-- Where the running total is reported, so is what was bought at the bar. -/
theorem Reports.bought {bar : Nat} (reports : m.Reports bar .cvd) : m.Reports bar .buyVolume := by
  intro c hc
  refine reports c (List.mem_of_getElem? (i := bar) ?_)
  rw [List.getElem?_take, if_pos (Nat.lt_succ_self bar)]
  exact hc

/-- The running total before a bar is the same in any case, if all bars up to it
are reported. -/
theorem SameBefore.total (same : m.SameBefore last trades) {bar : Nat} (here : bar ≤ last)
    (reports : m.Reports bar .cvd) :
    Column.stateAfter (flowStep (!m.trades.isEmpty)) none ((m.candles.zip m.buckets).take bar) =
      Column.stateAfter (flowStep (!(m.withTrades trades).trades.isEmpty)) none
        ((m.candles.zip (m.withTrades trades).buckets).take bar) := by
  have reported : ∀ x ∈ (m.candles.zip m.buckets).take bar, x.1.takerBuys.isSome := by
    intro x hx
    unfold List.zip at hx
    rw [List.take_zipWith] at hx
    exact reports x.1 (List.take_subset_take_left _ (Nat.le_succ bar) (List.of_mem_zip hx).1)
  rw [← same.bars (Nat.le_succ_of_le here)]
  exact stateAfter_reported reported _ _ none

/-- A field that is reported is the same in any case. -/
theorem SameBefore.read (same : m.SameBefore last trades) {bar : Nat} (here : bar ≤ last)
    {field : OrderFlowField} (reports : m.Reports bar field) :
    (OrderFlow.readings m)[bar]?.map (FlowReading.read · field) =
      (OrderFlow.readings (m.withTrades trades))[bar]?.map (FlowReading.read · field) := by
  have bars := Column.entry_of_take (same.bars (Nat.succ_le_succ here))
  unfold OrderFlow.readings
  rw [Column.getElem?_running, Column.getElem?_running]
  show _ = Option.map _ (Option.map _ (m.candles.zip (m.withTrades trades).buckets)[bar]?)
  rw [← bars]
  cases found : (m.candles.zip m.buckets)[bar]? with
  | none => rfl
  | some x =>
    obtain ⟨c, bucket⟩ := x
    have stands : m.candles[bar]? = some c := (List.getElem?_zip_eq_some.mp found).1
    rw [Option.map_some, Option.map_some, Option.map_some, Option.map_some]
    congr 1
    cases field with
    | delta | buyVolume | sellVolume =>
      obtain ⟨buys, sides⟩ := barSides_of_reported (reports c stands)
      rw [flowStep_of_sides (sides _ _), flowStep_of_sides (sides _ _)]
      rfl
    | cvd =>
      obtain ⟨buys, sides⟩ := barSides_of_reported (reports.bought c stands)
      rw [flowStep_of_sides (sides _ _), flowStep_of_sides (sides _ _)]
      exact congrArg (·.getD 0 + buys - (c.volume - buys)) (same.total here reports)
    | tradeCount =>
      obtain ⟨n, counted⟩ := Option.isSome_iff_exists.mp (reports c stands)
      show (flowStep _ _ (c, bucket)).2.trades = (flowStep _ _ (c, bucket)).2.trades
      rw [trades_flowStep, trades_flowStep]
      unfold barTrades
      rw [counted]
    | fundingRate => rfl

/-- A bar that does not report what was bought, in a market of which no trade comes
before the close of the bar: it is undefined if there are no trades at all, and
zero otherwise. -/
theorem buys_of_silent {c : Candle α} {bar : Nat} (stands : m.candles[bar]? = some c)
    (silent : c.takerBuys = none) (empty : m.buckets[bar]? = some []) :
    (OrderFlow.readings m)[bar]?.map (FlowReading.read · .buyVolume) =
      some (if m.trades = [] then Scalar.undefined else 0) := by
  have found : (m.candles.zip m.buckets)[bar]? = some (c, []) :=
    List.getElem?_zip_eq_some.mpr ⟨stands, empty⟩
  unfold OrderFlow.readings
  rw [Column.getElem?_running, found, Option.map_some, Option.map_some]
  refine congrArg some ((buys_flowStep _ _ c []).trans ?_)
  unfold barSides
  rw [silent]
  cases m.trades <;> rfl

end Market

/-! ## What is read of a library -/

namespace Library

open OrderFlow

/-- A number of the order flow is read off the bar's reading. -/
theorem answer_orderFlow (m : Market α) (settings : Settings α) {field : OrderFlowField}
    (flow : field ≠ .fundingRate) (bar : Nat) :
    (Library.mk m settings).answer (.orderFlow field bar) =
      .ok (Column.orUndefined ((readings m)[bar]?.map (FlowReading.read · field))) := by
  have column : ∀ f : FlowReading α → α,
      (Cells.numbers ((readings m).map f).toArray).numberAt bar =
        Column.orUndefined ((readings m)[bar]?.map f) := by
    intro f
    rw [← List.getElem?_map, ← List.getElem?_toArray]
    rfl
  refine congrArg Except.ok ?_
  cases field with
  | fundingRate => exact absurd rfl flow
  | _ => exact column _

variable {m : Market α} {last : Nat} {trades : List (Trade α)}

/-- **What later trades leave as it is.** Let the trades of a market be changed at or
after the close of a bar, and look at the bar or an earlier one. Its footprint is the
same, in levels and imbalances. So is its order flow, if there are any trades in both
cases, or in none, and in any case what is reported without them. In a bar that does not
report what was bought, that is undefined as long as there are no trades at all, and zero
as soon as there is a later one. -/
theorem later_trades_unseen (same : m.SameBefore last trades) (settings : Settings α) {bar : Nat}
    (here : bar ≤ last) :
    let l := Library.mk m settings
    let l' := Library.mk (m.withTrades trades) settings
    (∀ level, l.answer (.footprintLevel level bar) = l'.answer (.footprintLevel level bar)) ∧
    (∀ level ratio, l.answer (.imbalance level ratio bar) =
      l'.answer (.imbalance level ratio bar)) ∧
    (∀ field, (m.trades = [] ↔ trades = []) ∨ m.Reports bar field →
      l.answer (.orderFlow field bar) = l'.answer (.orderFlow field bar)) ∧
    (m.trades = [] → trades ≠ [] → ¬ m.Reports bar .buyVolume →
      l.answer (.orderFlow .buyVolume bar) = .ok Scalar.undefined ∧
        l'.answer (.orderFlow .buyVolume bar) = .ok 0) := by
  intro l l'
  have levels : ∀ level, levelAt (l.content .footprints) level bar =
      levelAt (l'.content .footprints) level bar := by
    intro level
    have footprint := same.footprints settings.footprintTick settings.valueAreaShare here
    show ((MarketConditions.footprints _ _ m).toArray[bar]?.join).bind _ =
      ((MarketConditions.footprints _ _ (m.withTrades trades)).toArray[bar]?.join).bind _
    rw [List.getElem?_toArray, List.getElem?_toArray, footprint]
  refine ⟨fun level => ?_, fun level ratio => ?_, fun field told => ?_,
    fun without first silent => ?_⟩
  · show Except.ok (Column.orUndefined ((levelAt _ level bar).map _)) =
      Except.ok (Column.orUndefined ((levelAt _ level bar).map _))
    rw [levels level]
  · refine check_congr (congrArg Except.ok ?_)
    show (levelAt _ level bar).any _ = (levelAt _ level bar).any _
    rw [levels level]
  · by_cases flow : field = .fundingRate
    · rw [flow]
      rfl
    · rw [answer_orderFlow m settings flow, answer_orderFlow (m.withTrades trades) settings flow]
      rcases told with known | reports
      · rw [same.readings known here]
      · rw [same.read here reports]
  · simp only [Market.Reports, not_forall, Bool.not_eq_true, Option.isSome_eq_false_iff,
      Option.isNone_iff_eq_none] at silent
    obtain ⟨c, stands, silent⟩ := silent
    have empty : m.buckets[bar]? = some [] := by
      unfold Market.buckets
      rw [without, Market.running_bucket_nil, List.getElem?_map, stands]
      rfl
    have bought := (Market.buys_of_silent stands silent empty).trans
      (congrArg some (if_pos without))
    have bought' := (Market.buys_of_silent (m := m.withTrades trades) stands silent
      ((same.bucket here).symm.trans empty)).trans (congrArg some (if_neg first))
    rw [answer_orderFlow m settings (by decide), answer_orderFlow (m.withTrades trades) settings
      (by decide), bought, bought']
    exact ⟨rfl, rfl⟩

/-- A bar and its trade, and another trade at the close of the bar. Neither the levels nor
the difference of the bar know of the other trade. -/
theorem later_trades_unseen_at_close :
    let bar : Candle Float := .still (.ofMillis 0) 1
    let trade : Trade Float := ⟨.ofMillis 1, 1, 2, .buy⟩
    let later : Trade Float := ⟨.ofMillis 60000, 3, 4, .sell⟩
    let m : Market Float := (Market.ofCandles [bar]).withTrades [trade]
    m.SameBefore 0 [trade, later] ∧
      (Library.mk m .default).answer (.footprintLevel .poc 0) =
        (Library.mk (m.withTrades [trade, later]) .default).answer (.footprintLevel .poc 0) ∧
      (Library.mk m .default).answer (.orderFlow .delta 0) =
        (Library.mk (m.withTrades [trade, later]) .default).answer (.orderFlow .delta 0) := by
  intro bar trade later m
  have same : m.SameBefore 0 [trade, later] :=
    { ordered := List.pairwise_singleton _ _
      inTime := List.pairwise_singleton _ _
      inTime' := List.pairwise_pair.mpr (by decide)
      closed := ⟨bar, rfl, (@Market.tradesBefore_append _ _ [trade] _ (by simp; decide)).symm⟩ }
  obtain ⟨levels, -, flow, -⟩ := later_trades_unseen same .default (Nat.le_refl 0)
  exact ⟨same, levels .poc, flow .delta (.inl (by simp [m, Market.withTrades]))⟩

/-- A bar that does not report what was bought, in a market without trades. A trade at its
close makes what was bought in it defined. -/
theorem first_trade_seen :
    let m : Market Float := .ofCandles [.still (.ofMillis 0) 1]
    let later : Trade Float := ⟨.ofMillis 60000, 1, 1, .buy⟩
    let undefined := fun m : Market Float =>
      ((Library.mk m .default).answer (.orderFlow .buyVolume 0)).map Scalar.isUndefined
    m.SameBefore 0 [later] ∧ undefined m = .ok true ∧
      undefined (m.withTrades [later]) = .ok false := by
  refine ⟨?_, rfl, rfl⟩
  exact
    { ordered := List.pairwise_singleton _ _
      inTime := List.Pairwise.nil
      inTime' := List.pairwise_singleton _ _
      closed := ⟨_, rfl, rfl⟩ }

end Library

end MarketConditions
