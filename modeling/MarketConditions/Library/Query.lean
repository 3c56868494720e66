import MarketConditions.Library.Basic

/-!
# Questions to a library

- `Query` — the questions, each with the type of its answer
- `Library.plan` — how a question is answered: at once, or by reading one entry
- `Library.answer` — the answer
-/

namespace MarketConditions

/-- A question to a library, of the type of its answer. -/
inductive Query (α : Type) : Type → Type where
  | price (field : PriceField) (bar : Nat) : Query α α
  | time (bar : Nat) : Query α (Option Instant)
  | timeField (field : TimeField) (bar : Nat) : Query α α
  | moonField (field : MoonField) (bar : Nat) : Query α α
  | series (i : Indicator) : Query α (Study α)
  | reading (i : Indicator) (bar : Nat) : Query α (Reading α)
  | swingPoints (strength : Nat) : Query α (List (Swing α))
  | range (function : RangeFunction) (bar : Nat) : Query α α
  | orderFlow (field : OrderFlowField) (bar : Nat) : Query α α
  | footprintLevel (level : FootprintLevel) (bar : Nat) : Query α α
  | imbalance (level : FootprintLevel) (ratio : Option α) (bar : Nat) : Query α Bool
  | absorption (volumeRatio movePercent : Option α) (bar : Nat) : Query α Bool
  | exchangeDelta (exchange : String) (bar : Nat) : Query α α
  | combinedDelta (bar : Nat) : Query α α
  | divergence (threshold : Option α) (bar : Nat) : Query α Bool

variable {α β : Type} [Scalar α]

/-- The way to an answer. -/
inductive Plan (α β : Type) where
  | now (answer : β)
  | read (e : Entry α) (use : e.Content → β)

/-- Refuses a request unless a condition holds. -/
def LibraryError.unless (function reason : String) (holds : Bool) : Except LibraryError Unit :=
  if holds then .ok () else .error (.invalidParameter function reason)

namespace Library

/-- Reads a number of a derived column. -/
def readNumber (d : Derived α) (bar : Nat) : Plan α α := .read (.derived d) (·.numberAt bar)

/-- Reads a truth value of a derived column. -/
def readFlag (d : Derived α) (bar : Nat) : Plan α Bool := .read (.derived d) (·.flagAt bar)

/-- A function of earlier bars needs a period of at least 1. -/
def planRange (bar : Nat) : RangeFunction → Except LibraryError (Plan α α)
  | .highOf p => do
    LibraryError.unless "HIGH_OF" "period must be at least 1" (p ≠ 0)
    return readNumber (.highOf p) bar
  | .lowOf p => do
    LibraryError.unless "LOW_OF" "period must be at least 1" (p ≠ 0)
    return readNumber (.lowOf p) bar
  | .rangePosition p skip => do
    LibraryError.unless "RANGE_POSITION" "period must be at least 1" (p ≠ 0)
    return readNumber (.rangePosition p skip) bar

/-- Funding is a column of its own; all else is part of the order flow. -/
def planOrderFlow (bar : Nat) : OrderFlowField → Plan α α
  | .delta => .read .orderFlow (·.delta.numberAt bar)
  | .cvd => .read .orderFlow (·.cumulative.numberAt bar)
  | .buyVolume => .read .orderFlow (·.buys.numberAt bar)
  | .sellVolume => .read .orderFlow (·.sells.numberAt bar)
  | .tradeCount => .read .orderFlow (·.trades.numberAt bar)
  | .fundingRate => readNumber .funding bar

/-- A named level of a bar's footprint. -/
def levelAt (bars : Array (Option (FootprintBar α))) (level : FootprintLevel) (bar : Nat) :
    Option (LevelVolume α) :=
  (bars[bar]?.join).bind (·.level? level)

/-- How a question is answered, or why it is refused. Parameters are checked, and missing
ones taken from the settings, before anything is read. -/
def plan (l : Library α) : {β : Type} → Query α β → Except LibraryError (Plan α β)
  | _, .price field bar => return .now (l.market.price field bar)
  | _, .time bar => return .now (l.market.time? bar)
  | _, .timeField field bar =>
    return .now (Column.orUndefined ((l.market.time? bar).map (·.timeField field)))
  | _, .moonField field bar =>
    return .now (Column.orUndefined ((l.market.time? bar).map (·.moonField field)))
  | _, .series i => do
    i.validate
    return .read (.study i) id
  | _, .reading i bar => do
    i.validate
    return .read (.study i) (·.readAt bar)
  | _, .swingPoints s => do
    LibraryError.unless "SWING" "strength must be at least 1" (s ≠ 0)
    return .read (.swings s) id
  | _, .range function bar => planRange bar function
  | _, .orderFlow field bar => return planOrderFlow bar field
  | _, .footprintLevel level bar =>
    return .read .footprints fun bars =>
      Column.orUndefined ((levelAt bars level bar).map LevelVolume.price)
  | _, .imbalance level ratio bar => do
    let ratio := ratio.getD l.settings.imbalanceRatio
    LibraryError.unless "IMBALANCE" "ratio must be at least 1" (1 ≤ ratio)
    return .read .footprints fun bars => (levelAt bars level bar).any (·.isImbalanced ratio)
  | _, .absorption ratio percent bar => do
    let ratio := ratio.getD l.settings.absorptionVolumeRatio
    let percent := percent.getD l.settings.absorptionMovePercent
    LibraryError.unless "ABSORPTION" "volume ratio must be positive" (0 < ratio)
    LibraryError.unless "ABSORPTION" "move percent must be non-negative" (0 ≤ percent)
    return readFlag (.absorption ratio percent) bar
  | _, .exchangeDelta name bar =>
    return readNumber (.exchangeDelta (String.ofList (name.toList.map Char.toLower))) bar
  | _, .combinedDelta bar => return readNumber .combinedDelta bar
  | _, .divergence threshold bar => do
    let threshold := threshold.getD l.settings.divergenceThreshold
    LibraryError.unless "DELTA_DIVERGENCE" "threshold must be non-negative" (0 ≤ threshold)
    return readFlag (.divergence threshold) bar

/-- Carries a plan out. -/
def carryOut (l : Library α) : Plan α β → β
  | .now answer => answer
  | .read e use => use (l.content e)

/-- The answer to a question. -/
def answer (l : Library α) (q : Query α β) : Except LibraryError β := (l.plan q).map l.carryOut

end Library

end MarketConditions
