import MarketConditions.Auction.ValueArea
import MarketConditions.Column
import MarketConditions.Market.Basic

/-!
# Volume profiles

The volume of a session by price. Each bar's volume is spread evenly over its range and
binned between the session's lowest low and highest high.

- `ProfileSession` — the last `n` bars, or the day so far
- `Profile.sessions` — the bars of the session that ends at each bar
- `Profile.binVolumes` — the volume of each bin
- `Profile.levels` — point of control and value area of one session
- `volumeProfile` — the same at each bar
-/

namespace MarketConditions

variable {α : Type} [Scalar α]

/-- What a profile accumulates over. -/
inductive ProfileSession where
  /-- The last `n` bars, the current one included. -/
  | rolling (n : Nat)
  /-- All bars since midnight. -/
  | daily
deriving DecidableEq, Repr

/-- The point of control and the edges of the value area, as prices. -/
structure ProfileLevels (α : Type) where
  poc : α
  vah : α
  val : α

namespace Profile

/-! ## Bins -/

/-- Bins of one width from a lowest price up. -/
structure Grid (α : Type) where
  low : α
  width : α
  bins : Nat

namespace Grid

/-- The bin a price falls into; the highest price falls into the last. -/
def slot (g : Grid α) (price : α) : Nat :=
  Nat.min (Scalar.wholePart ((price - g.low) / g.width)) (g.bins - 1)

/-- The lower edge of a bin. -/
def edge (g : Grid α) (bin : Nat) : α := g.low + Scalar.ofNat bin * g.width

/-- The part of a bar's range inside a bin. -/
def overlap (g : Grid α) (c : Candle α) (bin : Nat) : α :=
  let bottom := g.edge bin
  Scalar.max (Scalar.min c.high (bottom + g.width) - Scalar.max c.low bottom) 0

end Grid

/-- How a bar's volume lands in the bins. -/
inductive Spread (α : Type) where
  | nowhere
  /-- A bar without range puts all its volume into one bin. -/
  | point (bin : Nat) (volume : α)
  /-- A bar with a range shares its volume among the bins from `first` to `last`. -/
  | range (first last : Nat) (candle : Candle α)

/-- How a bar lands on a grid. -/
def spread (g : Grid α) (c : Candle α) : Spread α :=
  if c.volume ≤ 0 then .nowhere
  else if c.high - c.low ≤ 0 then .point (g.slot c.close) c.volume
  else .range (g.slot c.low) (g.slot c.high) c

/-- What a bin holds after a bar has been spread. -/
def addTo (g : Grid α) (bin : Nat) (held : α) : Spread α → α
  | .nowhere => held
  | .point b volume => if b = bin then held + volume else held
  | .range first last c =>
    if first ≤ bin ∧ bin ≤ last then
      held + c.volume * g.overlap c bin / (c.high - c.low)
    else held

/-- The volume of each bin. -/
def binVolumes (g : Grid α) (candles : List (Candle α)) : List α :=
  let spreads := candles.map (spread g)
  (List.range g.bins).map fun bin => spreads.foldl (addTo g bin) 0

/-! ## Levels of a session -/

/-- Levels of a session with `bins` bins and a value area that encloses `share` of its
volume. None without bins, without finite prices or without volume; a single price is all
three levels. -/
def levels (bins : Nat) (share : α) (candles : List (Candle α)) : Option (ProfileLevels α) :=
  let low := Scalar.least (candles.map Candle.low)
  let high := Scalar.greatest (candles.map Candle.high)
  if bins = 0 then none
  else if !Scalar.isFinite low || !Scalar.isFinite high then none
  else if Scalar.sum (candles.map Candle.volume) ≤ 0 then none
  else if high ≤ low then some ⟨low, low, low⟩
  else
    let g : Grid α := ⟨low, (high - low) / Scalar.ofNat bins, bins⟩
    let volumes := binVolumes g candles
    (ValueArea.pointOfControl volumes).map fun poc =>
      let (first, last) := ValueArea.valueArea volumes poc share
      { poc := low + (Scalar.ofNat poc + 0.5) * g.width
        vah := g.edge (last + 1)
        val := g.edge first }

/-! ## Sessions -/

/-- The bars of the session that ends at each bar, or nothing while it is incomplete. A
day goes back as far as the bars before fall on the same day. -/
def sessions (session : ProfileSession) (candles : List (Candle α)) :
    List (Option (List (Candle α))) :=
  match session with
  | .rolling n => (Column.trailing n candles).map fun window =>
      if n ≠ 0 ∧ window.length = n then some window else none
  | .daily => Column.running (fun held c =>
      let sameDay := (held.getLast?).any fun previous => previous.time.day = c.time.day
      let bars := (if sameDay then held else []) ++ [c]
      (bars, some bars)) [] candles

end Profile

/-- Levels as columns. -/
structure ProfileSeries (α : Type) where
  poc : List α
  vah : List α
  val : List α

/-- Levels of the session that ends at each bar. -/
def volumeProfile (session : ProfileSession) (bins : Nat) (share : α)
    (candles : List (Candle α)) : ProfileSeries α :=
  let found := (Profile.sessions session candles).map (·.bind (Profile.levels bins share))
  let column (f : ProfileLevels α → α) := found.map fun l => Column.orUndefined (l.map f)
  ⟨column ProfileLevels.poc, column ProfileLevels.vah, column ProfileLevels.val⟩

end MarketConditions
