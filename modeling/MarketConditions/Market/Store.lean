import MarketConditions.Error
import MarketConditions.Market.Cut

/-!
# Stored markets

A store keeps one market for each symbol and timeframe. Bars are appended in order of
time, so a market stored in order stays in order.

- `Store.find?` — the view of a store: what it keeps of a symbol at a timeframe
- `Store.insert`, `Store.append` — put a market in place of another, or lengthen it
- `Store.load` — the part of a stored market that lies in a span of time
-/

namespace MarketConditions

/-- Markets by symbol and timeframe. -/
structure Store (α : Type) where
  markets : List (Market α)

namespace Store

variable {α : Type}

/-- A store of nothing. -/
def empty : Store α := ⟨[]⟩

/-- Whether a market is that of a symbol at a timeframe. -/
def isOf (symbol : String) (timeframe : Timeframe) (m : Market α) : Bool :=
  m.symbol == symbol && m.timeframe == timeframe

/-- What is stored of a symbol at a timeframe. -/
def find? (s : Store α) (symbol : String) (timeframe : Timeframe) : Option (Market α) :=
  s.markets.find? (isOf symbol timeframe)

/-- Puts a market in the place of the one stored of its symbol and timeframe. -/
def insert (s : Store α) (m : Market α) : Store α :=
  ⟨m :: s.markets.filter fun other => !isOf m.symbol m.timeframe other⟩

/-- Nothing is stored of a symbol at a timeframe. -/
def missing (symbol : String) (timeframe : Timeframe) : PageError :=
  .series s!"no series for {symbol} {timeframe.text}"

/-- What is stored of a symbol at a timeframe, or that nothing is. -/
def get (s : Store α) (symbol : String) (timeframe : Timeframe) : Except PageError (Market α) :=
  match s.find? symbol timeframe with
  | some m => .ok m
  | none => .error (missing symbol timeframe)

/-- Checks that new bars begin after the last stored one. Only the first of them
is looked at. -/
def checkFollows (stored new : List (Candle α)) : Except PageError Unit :=
  match stored.getLast?, new.head? with
  | some last, some first =>
    if first.time ≤ last.time then
      .error (.series s!"appended bar at {first.time.text} does not follow {last.time.text}")
    else .ok ()
  | _, _ => .ok ()

/-- Lengthens a stored market by new bars, and tells its new length. Flows and funding
stay as they are and are therefore missing at the new bars. -/
def append (s : Store α) (symbol : String) (timeframe : Timeframe) (new : List (Candle α)) :
    Except PageError (Nat × Store α) := do
  let m ← s.get symbol timeframe
  checkFollows m.candles new
  let longer := { m with candles := m.candles ++ new }
  return (longer.length, s.insert longer)

/-- The part of a stored market from `start` up to, and not including, `stop`. -/
def load (s : Store α) (symbol : String) (timeframe : Timeframe) (start stop : Instant) :
    Except PageError (Market α) := do
  let m ← s.get symbol timeframe
  return m.between start stop

/-- Every symbol stored, each once and in order. -/
def symbols (s : Store α) : List String :=
  (s.markets.map Market.symbol).eraseDups.mergeSort fun a b => !decide (b < a)

/-! ## What is stored -/

/-- A market that was inserted is found under its symbol and timeframe. -/
@[simp] theorem find?_insert_self (s : Store α) (m : Market α) :
    (s.insert m).find? m.symbol m.timeframe = some m := by
  simp [find?, insert, isOf]

/-- Inserting a market changes nothing of other symbols and timeframes. -/
theorem find?_insert_of_ne (s : Store α) (m : Market α) {symbol : String} {timeframe : Timeframe}
    (h : isOf symbol timeframe m = false) :
    (s.insert m).find? symbol timeframe = s.find? symbol timeframe := by
  have agree : ∀ a : Market α, isOf symbol timeframe a = true →
      isOf m.symbol m.timeframe a = false := by
    intro a ha
    simp only [isOf, Bool.and_eq_true, beq_iff_eq] at ha
    simp only [isOf, ha.1, ha.2]
    rw [BEq.comm, BEq.comm (a := timeframe)]
    exact h
  simp only [find?, insert, List.find?_cons, h, List.find?_filter]
  congr 1
  funext a
  cases ha : isOf symbol timeframe a with
  | false => simp
  | true => simp [agree a ha]

end Store

end MarketConditions
