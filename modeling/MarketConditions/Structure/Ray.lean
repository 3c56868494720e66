import MarketConditions.Structure.Swing

/-!
# Rays

Trendlines that turn from peak to peak. At a bar the window is the last `lookback` bars
without the `skip` newest; its peaks are the swings of the ray's side inside it that
were confirmed by its last bar. The chain starts at the outermost peak and steps each
time to the later peak that a line turning away from the price would touch first, until
the last peak.

- `RayKind` — resistance along swing highs, support along swing lows
- `anchor` — the outermost peak and the peaks after it
- `chainFrom` — the segments from a peak on, oldest first
- `RayChain` — the segments newest first, the first of which is carried forward
- `rays` — the carried line at every bar
-/

namespace MarketConditions

variable {α : Type} [Scalar α]

/-- The side a ray runs along. -/
inductive RayKind where
  | resistance
  | support
deriving DecidableEq, Repr

namespace RayKind

/-- The swings a ray touches. -/
def side : RayKind → Extremity
  | resistance => .high
  | support => .low

end RayKind

/-- A peak of a chain. -/
structure Pivot (α : Type) where
  index : Nat
  price : α

/-- One leg of a chain between two peaks. -/
structure Segment (α : Type) where
  newer : Pivot α
  older : Pivot α
  /-- Change of price per bar. -/
  slope : α

/-- The legs from the outermost peak to the last, newest first. -/
structure RayChain (α : Type) where
  anchor : Pivot α
  segments : List (Segment α)

namespace RayChain

/-- The slope carried past the last peak; a lone anchor is carried flat. -/
def slope (c : RayChain α) : α :=
  match c.segments with
  | [] => 0
  | s :: _ => s.slope

/-- The carried line's price at a bar. -/
def projection (c : RayChain α) (bar : Nat) : α :=
  match c.segments with
  | [] => c.anchor.price
  | s :: _ => s.newer.price + s.slope * (Scalar.ofNat bar - Scalar.ofNat s.newer.index)

end RayChain

namespace Swing

/-- The swing as a peak. -/
def pivot (s : Swing α) : Pivot α := ⟨s.index, s.price⟩

end Swing

namespace Ray

/-! ## Peaks of a window -/

/-- Swings of one side from bar `first` on that were confirmed by bar `last`. -/
def windowPeaks (side : Extremity) (first last : Nat) (swings : List (Swing α)) :
    List (Swing α) :=
  swings.filter fun s =>
    decide (s.side = side) && decide (first ≤ s.index) && decide (s.confirmedAt ≤ last) &&
      !Scalar.isUndefined s.price

/-- Whether a peak replaces the outermost one so far: further out, or as far and more
dominant as known at the bar. -/
def outranks (side : Extremity) (bar : Nat) (peak best : Swing α) : Bool :=
  side.beyond peak.price best.price ||
    (peak.price == best.price && decide (best.dominanceAt bar < peak.dominanceAt bar))

/-- The outermost peak and the peaks after it, where `best` is the outermost so far and
`later` are the peaks after that one. -/
def anchorFrom (side : Extremity) (bar : Nat) (best : Swing α) (later : List (Swing α)) :
    List (Swing α) → Swing α × List (Swing α)
  | [] => (best, later)
  | peak :: rest =>
    if outranks side bar peak best then anchorFrom side bar peak rest rest
    else anchorFrom side bar best later rest

/-- The outermost peak and the peaks after it. -/
def anchor (side : Extremity) (bar : Nat) : List (Swing α) → Option (Swing α × List (Swing α))
  | [] => none
  | peak :: rest => some (anchorFrom side bar peak rest rest)

/-! ## Steps from peak to peak -/

/-- Change of price per bar from one peak to a later one. -/
def slopeTo (older newer : Pivot α) : α :=
  (newer.price - older.price) / Scalar.ofNat (newer.index - older.index)

/-- A step of a chain: the leg, and the peaks after its newer end. -/
structure Step (α : Type) where
  leg : Segment α
  later : List (Pivot α)

/-- The step with the outermost slope, `best` being the best so far. The nearest peak wins a
tie. -/
def steepestFrom (side : Extremity) (origin : Pivot α) (best : Step α) :
    List (Pivot α) → Step α
  | [] => best
  | peak :: rest =>
    let slope := slopeTo origin peak
    if side.beyond slope best.leg.slope then
      steepestFrom side origin ⟨⟨peak, origin, slope⟩, rest⟩ rest
    else steepestFrom side origin best rest

/-- The step from a peak with the outermost slope, if any peak comes after it. -/
def steepest (side : Extremity) (origin : Pivot α) : List (Pivot α) → Option (Step α)
  | [] => none
  | peak :: rest =>
    some (steepestFrom side origin ⟨⟨peak, origin, slopeTo origin peak⟩, rest⟩ rest)

/-- The legs from a peak to the last one, oldest first. Each step leaves fewer peaks, so
as many steps as there are peaks are enough. -/
def chainFrom (side : Extremity) : Nat → Pivot α → List (Pivot α) → List (Segment α)
  | 0, _, _ => []
  | steps + 1, origin, later =>
    match steepest side origin later with
    | none => []
    | some s => s.leg :: chainFrom side steps s.leg.newer s.later

/-- The first bar of the window that ends at a bar. -/
def windowStart (lookback bar : Nat) : Nat := bar + 1 - lookback

/-- The chain seen at a bar; none when the window is empty or holds no peak. -/
def chainAt (kind : RayKind) (lookback skip bars : Nat) (swings : List (Swing α)) (bar : Nat) :
    Option (RayChain α) :=
  if lookback = 0 ∨ bars ≤ bar ∨ bar < skip ∨ bar - skip < windowStart lookback bar then none
  else
    (anchor kind.side bar
      (windowPeaks kind.side (windowStart lookback bar) (bar - skip) swings)).map
      fun (first, later) =>
        ⟨first.pivot,
          (chainFrom kind.side later.length first.pivot (later.map Swing.pivot)).reverse⟩

end Ray

/-! ## Rays at every bar -/

/-- The carried line at every bar: its price, its slope, and whether the close
is beyond it. -/
structure RaySeries (α : Type) where
  price : List α
  slope : List α
  broken : List Bool

/-- The ray of one kind at every bar; where there is no chain it has no price and is
not broken. -/
def rays (kind : RayKind) (lookback skip : Nat) (candles : List (Candle α))
    (swings : List (Swing α)) : RaySeries α :=
  let seen := (Column.numbered candles).map fun (bar, c) =>
    (bar, c, Ray.chainAt kind lookback skip candles.length swings bar)
  { price := seen.map fun (bar, _, chain) => Column.orUndefined (chain.map (·.projection bar))
    slope := seen.map fun (_, _, chain) => Column.orUndefined (chain.map RayChain.slope)
    broken := seen.map fun (bar, c, chain) =>
      match chain with
      | some chain => kind.side.beyond c.close (chain.projection bar)
      | none => false }

end MarketConditions
