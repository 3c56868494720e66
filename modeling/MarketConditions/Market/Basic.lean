import MarketConditions.Instant

/-!
# Market data

- `Timeframe` — how long a bar lasts
- `Candle` — one bar of prices and volume
- `Trade` — one execution, with the side that started it
- `ExchangeFlow` — what was bought and sold on one exchange, a number per bar
- `Market` — one symbol at one timeframe with everything known of it
- `PriceField` — the prices a condition can read off a bar
-/

namespace MarketConditions

/-- How long a bar lasts. -/
inductive Timeframe where
  | m1
  | m5
  | m15
  | m30
  | h1
  | h4
  | d1
  | w1
deriving DecidableEq, Repr

namespace Timeframe

/-- Length in minutes. -/
def minutes : Timeframe → Nat
  | m1 => 1
  | m5 => 5
  | m15 => 15
  | m30 => 30
  | h1 => 60
  | h4 => 240
  | d1 => 1440
  | w1 => 10080

/-- Length in milliseconds. -/
def millis (t : Timeframe) : Int := t.minutes * 60000

/-- Length in nanoseconds. -/
def nanos (t : Timeframe) : Int := t.millis * 1000000

/-- The short name, a number and a unit. -/
def text : Timeframe → String
  | m1 => "1m"
  | m5 => "5m"
  | m15 => "15m"
  | m30 => "30m"
  | h1 => "1h"
  | h4 => "4h"
  | d1 => "1d"
  | w1 => "1w"

end Timeframe

/-- One bar. -/
structure Candle (α : Type) where
  time : Instant
  opening : α
  high : α
  low : α
  close : α
  volume : α
  /-- How many trades made the bar, where the exchange reports it. -/
  tradeCount : Option Nat
  /-- The part of the volume bought by the side that started the trade, where reported. -/
  takerBuys : Option α

/-- The side that started a trade. -/
inductive Side where
  | buy
  | sell
deriving DecidableEq, Repr

/-- One execution. -/
structure Trade (α : Type) where
  time : Instant
  price : α
  size : α
  side : Side

/-- What was bought and sold on one exchange. Entry `i` belongs to bar `i`; either column
may end before the last bar. -/
structure ExchangeFlow (α : Type) where
  exchange : String
  buys : List α
  sells : List α

/-- One symbol at one timeframe. -/
structure Market (α : Type) where
  symbol : String
  timeframe : Timeframe
  candles : List (Candle α)
  /-- In order of time; empty where executions are unknown. -/
  trades : List (Trade α)
  exchanges : List (ExchangeFlow α)
  /-- Funding rate per bar, where known; the column may end before the last bar. -/
  funding : Option (List α)

/-- The prices of a bar. -/
inductive PriceField where
  | opening
  | high
  | low
  | close
  | volume
  /-- Mean of high and low. -/
  | hl2
  /-- Mean of high, low and close. -/
  | hlc3
  /-- Mean of open, high, low and close. -/
  | ohlc4
deriving DecidableEq, Repr

variable {α : Type} [Scalar α]

namespace Candle

/-- Mean of high, low and close. -/
def typicalPrice (c : Candle α) : α := (c.high + c.low + c.close) / 3

/-- The widest of the bar's range and its two gaps from the close before. -/
def trueRange (c : Candle α) (previousClose : α) : α :=
  Scalar.max (Scalar.max (c.high - c.low) (Scalar.abs (c.high - previousClose)))
    (Scalar.abs (c.low - previousClose))

/-- One of the bar's prices. -/
def price (c : Candle α) : PriceField → α
  | .opening => c.opening
  | .high => c.high
  | .low => c.low
  | .close => c.close
  | .volume => c.volume
  | .hl2 => (c.high + c.low) / 2
  | .hlc3 => c.typicalPrice
  | .ohlc4 => (c.opening + c.high + c.low + c.close) / 4

end Candle

namespace ExchangeFlow

/-- Combines what was bought and sold at a bar; undefined where either is missing. -/
def combinedAt (f : ExchangeFlow α) (combine : α → α → α) (bar : Nat) : α :=
  match f.buys[bar]?, f.sells[bar]? with
  | some b, some s => combine b s
  | _, _ => Scalar.undefined

/-- Bought less sold. -/
def deltaAt (f : ExchangeFlow α) (bar : Nat) : α := f.combinedAt (· - ·) bar

/-- Bought and sold together. -/
def totalAt (f : ExchangeFlow α) (bar : Nat) : α := f.combinedAt (· + ·) bar

end ExchangeFlow

namespace Market

/-- Number of bars. -/
def length (m : Market α) : Nat := m.candles.length

/-- Exchange names are one name up to the case of ASCII letters. -/
def sameExchange (a b : String) : Bool := a.toList.map Char.toLower == b.toList.map Char.toLower

/-- The first exchange of that name. -/
def exchange? (m : Market α) (name : String) : Option (ExchangeFlow α) :=
  m.exchanges.find? fun f => sameExchange f.exchange name

/-- One of a bar's prices; undefined past the last bar. -/
def price (m : Market α) (field : PriceField) (bar : Nat) : α :=
  match m.candles[bar]? with
  | some c => c.price field
  | none => Scalar.undefined

/-- When a bar begins. -/
def time? (m : Market α) (bar : Nat) : Option Instant := m.candles[bar]?.map Candle.time

end Market

end MarketConditions
