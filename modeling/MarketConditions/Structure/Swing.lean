import MarketConditions.Column
import MarketConditions.Market.Basic

/-!
# Swing points

A swing high of strength `s` is a bar whose high is above the highs of the `s` bars before
it and at least as high as those of the `s` bars after it; swing lows are the same upside
down. It is confirmed when those later bars are complete. Its dominance is the number of
later bars that did not exceed it.

- `Extremity` — the side, high or low, that a swing is on
- `Extremity.pivots` — the bars where swings of one side form
- `Extremity.breaks` — the bars that end them, found in one pass that holds the
  unbroken swings on a stack. A bar can only break the least extreme of them, so it
  works from the top.
- `detectSwings` — all swings in bar order
- `swingSeries` — the latest confirmed swing at each bar
-/

namespace MarketConditions

variable {α : Type} [Scalar α]

/-- The side of a swing. -/
inductive Extremity where
  | high
  | low
deriving DecidableEq, Repr

namespace Extremity

/-- A bar's extreme on this side. -/
def price : Extremity → Candle α → α
  | high => Candle.high
  | low => Candle.low

/-- Further out on this side: above for highs, below for lows. -/
def beyond (e : Extremity) (x y : α) : Bool :=
  match e with
  | high => y < x
  | low => x < y

/-- At least as far out on this side. -/
def atLeast (e : Extremity) (x y : α) : Bool :=
  match e with
  | high => y ≤ x
  | low => x ≤ y

/-- Whether the bar after `before`, with extreme `x`, stands out from `s` bars on
either side. -/
def standsOut (e : Extremity) (s : Nat) (before : List α) (x : α) (after : List α) : Bool :=
  decide (s ≤ before.length) && decide (s ≤ after.length) &&
    (before.drop (before.length - s)).all (e.beyond x ·) && (after.take s).all (e.atLeast x ·)

/-- Whether a swing of strength `s` forms at a bar. -/
def isPivot (e : Extremity) (s : Nat) (xs : List α) (bar : Nat) : Bool :=
  match xs.drop bar with
  | [] => false
  | x :: after => e.standsOut s (xs.take bar) x after

/-- Bars with their extremes, the newest first: swings that no bar has exceeded yet. -/
abbrev Pending (α : Type) := List (Nat × α)

/-- A bar breaks the pending swings it exceeds, from the top of the stack down. Behind it
the swing that it confirms, if any, goes on top. Gives the broken bars. -/
def breakStep (e : Extremity) (pending : Pending α) :
    α × Option (Nat × α) → Pending α × List Nat
  | (x, confirmed) =>
    let exceeded := fun p : Nat × α => e.beyond x p.2
    (confirmed.toList ++ pending.dropWhile exceeded, (pending.takeWhile exceeded).map Prod.fst)

/-- The pivots of strength `s`, each beside its extreme, or nothing, bar by bar. -/
def pivots (e : Extremity) (s : Nat) (xs : List α) : List (Option (Nat × α)) :=
  (Column.numbered xs).map fun (bar, x) => if e.isPivot s xs bar then some (bar, x) else none

/-- The bars of swings together with the bar that breaks each of them. -/
def breaks (e : Extremity) (s : Nat) (xs : List α) : List (Nat × Nat) :=
  let confirmed := Column.lag s none (e.pivots s xs)
  let broken := Column.running e.breakStep [] (xs.zip confirmed)
  (Column.numbered broken).flatMap fun (bar, swings) => swings.map fun swing => (swing, bar)

end Extremity

/-- A swing high or low. -/
structure Swing (α : Type) where
  index : Nat
  time : Instant
  price : α
  side : Extremity
  /-- The bar at which the later bars are complete. -/
  confirmedAt : Nat
  /-- Bars after the swing that did not exceed it; up to the last bar if none did. -/
  dominance : Nat
  /-- The first bar that exceeded it. -/
  brokenAt : Option Nat

namespace Swing

/-- The dominance as known at a bar, later bars not read. -/
def dominanceAt (s : Swing α) (bar : Nat) : Nat :=
  match s.brokenAt with
  | some broken => if broken ≤ bar then s.dominance else bar - s.index
  | none => bar - s.index

/-- The swing at a bar, which a later bar may have broken. -/
def ofPivot (side : Extremity) (strength bars : Nat) (brokenAt : Option Nat) (index : Nat)
    (c : Candle α) : Swing α :=
  { index, time := c.time, price := side.price c, side, confirmedAt := index + strength, brokenAt
    dominance := match brokenAt with
      | some broken => broken - index - 1
      | none => bars - 1 - index }

end Swing

/-- The swings of one side, or nothing, bar by bar. -/
def Extremity.swings (e : Extremity) (s : Nat) (candles : List (Candle α)) :
    List (Option (Swing α)) :=
  let xs := candles.map e.price
  let breaks := e.breaks s xs
  List.zipWith (fun pivot c => pivot.map fun (bar, _) =>
    Swing.ofPivot e s candles.length (breaks.lookup bar) bar c) (e.pivots s xs) candles

/-- All swings of strength `s` in bar order, a high before a low of the same bar. The
strength is an exact number; in words of 64 bits this asks for `2 * s < 2 ^ 64`. -/
def detectSwings (s : Nat) (candles : List (Candle α)) : List (Swing α) :=
  (List.zipWith (fun (high low : Option (Swing α)) => high.toList ++ low.toList)
    (Extremity.high.swings s candles) (Extremity.low.swings s candles)).flatten

/-! ## The latest swing -/

/-- What is read of a swing at a bar. -/
structure SwingReading (α : Type) where
  price : α
  dominance : α
  barsSince : α

/-- Columns of the latest confirmed swing. -/
structure SwingSeries (α : Type) where
  price : List α
  dominance : List α
  barsSince : List α

/-- A swing as seen from a bar. -/
def Swing.readAt (s : Swing α) (bar : Nat) : SwingReading α :=
  ⟨s.price, Scalar.ofNat (s.dominanceAt bar), Scalar.ofNat (bar - s.index)⟩

/-- The latest swing so far and those to come. Swings confirmed by the bar are passed. -/
def latestStep (held : Option (Swing α) × List (Swing α)) (bar : Nat) :
    (Option (Swing α) × List (Swing α)) × Option (SwingReading α) :=
  let due := fun s : Swing α => decide (s.confirmedAt ≤ bar)
  let latest := (held.2.takeWhile due).getLast?.or held.1
  ((latest, held.2.dropWhile due), latest.map (·.readAt bar))

/-- The latest confirmed swing of one side at each of `bars` bars; undefined
before the first. -/
def swingSeries (bars : Nat) (side : Extremity) (swings : List (Swing α)) : SwingSeries α :=
  let readings := Column.running latestStep (none, swings.filter fun s => s.side = side)
    (List.range bars)
  let column (f : SwingReading α → α) := readings.map fun r => Column.orUndefined (r.map f)
  ⟨column SwingReading.price, column SwingReading.dominance, column SwingReading.barsSince⟩

end MarketConditions
