import MarketConditions.Library.Query
import MarketConditions.Market.Store
import MarketConditions.Page.Basic
import MarketConditions.Page.Key

/-!
# Page data from stored markets

- `PageData.ofCandles` — a page of candles
- `PageData.ofIndicator` — a page of an indicator. It is worked out over every bar up
  to the end of the span, and only then cut to the span, so its values are those of
  the whole market
- `Store.pageData` — the data of any page
-/

namespace MarketConditions

variable {α : Type} [Scalar α]

namespace PageData

/-- The candles of a market. -/
def ofCandles (m : Market α) : PageData α :=
  ⟨m.candles.map Candle.time,
    [("open", m.candles.map Candle.opening), ("high", m.candles.map Candle.high),
      ("low", m.candles.map Candle.low), ("close", m.candles.map Candle.close),
      ("volume", m.candles.map Candle.volume)]⟩

/-- An indicator over a library's market, from the first bar that does not begin before
`start`. -/
def ofIndicator (l : Library α) (i : Indicator) (start : Instant) :
    Except PageError (PageData α) :=
  let first := Market.barAt l.market.candles start
  match l.answer (.series i) with
  | .error e => .error (.ofLibrary e)
  | .ok study =>
    .ok ⟨(l.market.candles.drop first).map Candle.time,
      study.columns.map fun (name, values) => (name, values.drop first)⟩

end PageData

/-- The data of a page. -/
def Store.pageData (s : Store α) (settings : Settings α) (k : PageKey) :
    Except PageError (PageData α) :=
  match k.kind with
  | .candles =>
    (s.load k.symbol k.timeframe k.range.start k.range.stop).map PageData.ofCandles
  | .indicator i => do
    let m ← s.load k.symbol k.timeframe Instant.earliest k.range.stop
    PageData.ofIndicator ⟨m, settings⟩ i k.range.start

end MarketConditions
