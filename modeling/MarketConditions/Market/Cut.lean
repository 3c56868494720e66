import MarketConditions.Market.Basic
import MarketConditions.Bisect

/-!
# Cutting a market to a span of time

- `Market.between` — the bars of a half-open span, with trades, flows and funding cut
  alike, so that every column still belongs to the bars it belonged to
-/

namespace MarketConditions.Market

variable {α : Type}

/-- The entries from `first` up to, and not including, `last`. -/
def slice (first last : Nat) (xs : List α) : List α := (xs.drop first).take (last - first)

/-- The first bar that does not begin before an instant. -/
def barAt (candles : List (Candle α)) (t : Instant) : Nat :=
  Bisect.boundary (fun c => decide (c.time < t)) candles

/-- The market from `start` up to, and not including, `stop`. -/
def between (m : Market α) (start stop : Instant) : Market α :=
  let first := barAt m.candles start
  let last := Nat.max (barAt m.candles stop) first
  { m with
    candles := slice first last m.candles
    trades := m.trades.filter fun t => decide (start ≤ t.time) && decide (t.time < stop)
    exchanges := m.exchanges.map fun f =>
      { f with buys := slice first last f.buys, sells := slice first last f.sells }
    funding := m.funding.map (slice first last) }

end MarketConditions.Market
