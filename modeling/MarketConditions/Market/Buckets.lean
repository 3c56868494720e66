import MarketConditions.Market.Basic
import MarketConditions.Column

/-!
# Trades by bar

- `Market.bucket` — one step of a cursor over the trades: those inside a bar's interval,
  and those left for later bars
- `Market.buckets` — the trades of each bar
-/

namespace MarketConditions.Market

variable {α : Type}

/-- Passes over the trades before the bar, takes those before its end, and
leaves the rest. -/
def bucket (span : Int) (left : List (Trade α)) (c : Candle α) : List (Trade α) × List (Trade α) :=
  let due := left.dropWhile fun t => decide (t.time < c.time)
  let inside := fun t : Trade α => decide (t.time < c.time.plus span)
  (due.dropWhile inside, due.takeWhile inside)

/-- The trades of each bar: those from its beginning up to, and not including, its end. A
trade that falls into no bar's interval is in no bucket. -/
def buckets (m : Market α) : List (List (Trade α)) :=
  Column.running (bucket m.timeframe.nanos) m.trades m.candles

@[simp] theorem length_buckets (m : Market α) : m.buckets.length = m.candles.length := by
  simp [buckets]

end MarketConditions.Market
