import MarketConditions.Market.Buckets

/-!
# Order flow

Volume by the side that started the trade. It is taken from the bar where the exchange
reports it, and from the bar's trades otherwise.

- `orderFlow` — bought, sold, their difference and its running total, and the
  number of trades
- `fundingRates` — the funding rate at each bar
- `exchangeDelta`, `combinedDelta` — what one or all exchanges bought less what they sold
- `deltaDivergence` — whether exchanges push in opposite directions
-/

namespace MarketConditions

variable {α : Type} [Scalar α]

/-- The numbers a condition can read off the order flow. -/
inductive OrderFlowField where
  | delta
  | cvd
  | buyVolume
  | sellVolume
  | tradeCount
  | fundingRate
deriving DecidableEq, Repr

/-- One bar's order flow. -/
structure FlowReading (α : Type) where
  buys : α
  sells : α
  delta : α
  /-- Running total of the differences. -/
  cumulative : α
  trades : α

/-- Order flow as columns. -/
structure FlowSeries (α : Type) where
  buys : List α
  sells : List α
  delta : List α
  cumulative : List α
  trades : List α

namespace OrderFlow

/-- The sizes bought and sold in some trades. -/
def sides (trades : List (Trade α)) : α × α :=
  trades.foldl (fun (buys, sells) t => match t.side with
    | .buy => (buys + t.size, sells)
    | .sell => (buys, sells + t.size)) (0, 0)

/-- What was bought and sold in a bar, where anything is known of it. -/
def barSides (tradesKnown : Bool) (c : Candle α) (trades : List (Trade α)) : Option (α × α) :=
  match c.takerBuys with
  | some buys => some (buys, c.volume - buys)
  | none => if tradesKnown then some (sides trades) else none

/-- The number of trades in a bar, where it is known. -/
def barTrades (tradesKnown : Bool) (c : Candle α) (trades : List (Trade α)) : α :=
  match c.tradeCount with
  | some n => Scalar.ofNat n
  | none => if tradesKnown then Scalar.ofNat trades.length else Scalar.undefined

/-- A bar of which nothing is known leaves the running total as it is. -/
def flowStep (tradesKnown : Bool) (total : Option α) :
    Candle α × List (Trade α) → Option α × FlowReading α
  | (c, trades) =>
    let count := barTrades tradesKnown c trades
    match barSides tradesKnown c trades with
    | some (buys, sells) =>
      let total := total.getD 0 + buys - sells
      (some total, ⟨buys, sells, buys - sells, total, count⟩)
    | none =>
      let missing : α := Scalar.undefined
      (total, ⟨missing, missing, missing, Column.orUndefined total, count⟩)

end OrderFlow

/-- The order flow of every bar. -/
def orderFlow (m : Market α) : FlowSeries α :=
  let readings := Column.running (OrderFlow.flowStep (!m.trades.isEmpty)) none
    (m.candles.zip m.buckets)
  { buys := readings.map FlowReading.buys
    sells := readings.map FlowReading.sells
    delta := readings.map FlowReading.delta
    cumulative := readings.map FlowReading.cumulative
    trades := readings.map FlowReading.trades }

/-- One number per bar. -/
def Market.perBar {β : Type} (m : Market α) (f : Nat → β) : List β := (List.range m.length).map f

/-- The funding rate of every bar. -/
def fundingRates (m : Market α) : List α :=
  m.perBar fun bar => Column.orUndefined (m.funding.bind (·[bar]?))

/-! ## Exchanges -/

/-- What one exchange bought less what it sold; undefined for an unknown exchange. -/
def exchangeDelta (m : Market α) (name : String) : List α :=
  match m.exchange? name with
  | some flow => m.perBar flow.deltaAt
  | none => m.perBar fun _ => Scalar.undefined

/-- The same over all exchanges that have it for the bar; undefined when none has. -/
def combinedDelta (m : Market α) : List α :=
  m.perBar fun bar =>
    match (m.exchanges.map (·.deltaAt bar)).filter (!Scalar.isUndefined ·) with
    | [] => Scalar.undefined
    | deltas => Scalar.sum deltas

/-- Whether an exchange's difference is defined and at least a share of what it traded. -/
def ExchangeFlow.counts (f : ExchangeFlow α) (threshold : α) (bar : Nat) : Bool :=
  let delta := f.deltaAt bar
  let total := f.totalAt bar
  !(Scalar.isUndefined delta || total ≤ 0 || Scalar.abs delta / total < threshold)

/-- Whether, among the exchanges that count, one buys and another sells. -/
def deltaDivergence (m : Market α) (threshold : α) : List Bool :=
  m.perBar fun bar =>
    let pushing := m.exchanges.filter (·.counts threshold bar)
    pushing.any (fun f => f.deltaAt bar > 0) && pushing.any (fun f => f.deltaAt bar < 0)

end MarketConditions
