import MarketConditions.Auction.ValueArea
import MarketConditions.Market.Buckets

/-!
# Footprints

What was bought and sold at each price of a bar.

- `LevelVolume` — bought and sold at one price, and when one side outweighs the other
- `FootprintBar` — the levels of a bar, one per tick, with point of control and value area
- `Footprint.ofTrades` — the footprint of a bar's trades
- `footprints` — the footprint of every bar of a market
-/

namespace MarketConditions

variable {α : Type} [Scalar α]

/-- What was traded at one price. -/
structure LevelVolume (α : Type) where
  price : α
  buy : α
  sell : α

namespace LevelVolume

/-- Bought and sold together. -/
def total (l : LevelVolume α) : α := l.buy + l.sell

/-- Whether the stronger side is at least `ratio` times the weaker. -/
def isImbalanced (l : LevelVolume α) (ratio : α) : Bool :=
  let (strong, weak) := if l.sell ≤ l.buy then (l.buy, l.sell) else (l.sell, l.buy)
  strong > 0 && ratio * weak ≤ strong

end LevelVolume

/-- The levels a condition can name. -/
inductive FootprintLevel where
  | poc
  | vah
  | val
deriving DecidableEq, Repr

/-- The levels of a bar by rising price, one per tick, and the places of the named ones. -/
structure FootprintBar (α : Type) where
  levels : List (LevelVolume α)
  poc : Nat
  vah : Nat
  val : Nat

namespace FootprintBar

/-- The place of a named level. -/
def place (b : FootprintBar α) : FootprintLevel → Nat
  | .poc => b.poc
  | .vah => b.vah
  | .val => b.val

/-- A named level. -/
def level? (b : FootprintBar α) (l : FootprintLevel) : Option (LevelVolume α) :=
  b.levels[b.place l]?

end FootprintBar

namespace Footprint

/-- The price step: the configured one, or a ten-thousandth of the close when none is. -/
def tick (configured : α) (c : Candle α) : α :=
  if configured > 0 then configured else Scalar.abs c.close * 1e-4

/-- The tick that a price is nearest to. -/
def slot (tick price : α) : Int := Scalar.nearest (price / tick)

/-- The size traded on one side at one tick. -/
def traded (tick : α) (trades : List (Trade α)) (side : Side) (s : Int) : α :=
  trades.foldl (fun held t =>
    if t.side = side ∧ slot tick t.price = s then held + t.size else held) 0

/-- What was traded at one tick. -/
def levelAt (tick : α) (trades : List (Trade α)) (s : Int) : LevelVolume α :=
  ⟨Scalar.ofInt s * tick, traded tick trades .buy s, traded tick trades .sell s⟩

/-- The ticks from the lowest to the highest. -/
def ticksBetween (lowest highest : Int) : List Int :=
  (List.range (highest - lowest + 1).toNat).map fun i => lowest + Int.ofNat i

/-- The footprint of some trades at a positive tick; none where nothing of any size
was traded. -/
def ofTrades (share tick : α) (trades : List (Trade α)) : Option (FootprintBar α) :=
  match trades.map fun t => slot tick t.price with
  | [] => none
  | s :: rest =>
    let levels := (ticksBetween (rest.foldl min s) (rest.foldl max s)).map (levelAt tick trades)
    let totals := levels.map LevelVolume.total
    (ValueArea.pointOfControl totals).map fun poc =>
      let (val, vah) := ValueArea.valueArea totals poc share
      ⟨levels, poc, vah, val⟩

/-- The footprint of a bar with its trades. There is none without a positive tick. -/
def ofBar (configuredTick share : α) (c : Candle α) (trades : List (Trade α)) :
    Option (FootprintBar α) :=
  let tick := tick configuredTick c
  if tick > 0 then ofTrades share tick trades else none

end Footprint

/-- The footprint of every bar. -/
def footprints (configuredTick share : α) (m : Market α) : List (Option (FootprintBar α)) :=
  List.zipWith (Footprint.ofBar configuredTick share) m.candles m.buckets

end MarketConditions
