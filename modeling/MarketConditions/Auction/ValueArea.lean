import MarketConditions.Scalar

/-!
# Point of control and value area

Volumes by slot, lowest price first.

- `pointOfControl` — the fullest slot
- `valueArea` — the slots around it that hold a share of the whole, grown one slot to each
  side at a time
-/

namespace MarketConditions.ValueArea

variable {α : Type} [Scalar α]

/-- The fullest slot so far with its volume, while slot `i` is looked at. -/
def fuller (best : Option (Nat × α)) (slot : Nat × α) : Option (Nat × α) :=
  match best with
  | none => if slot.2 > 0 then some slot else none
  | some b => if slot.2 > 0 && slot.2 > b.2 then some slot else best

/-- The fullest slot, the lowest of several; none when every slot is empty. -/
def pointOfControl (volumes : List α) : Option Nat :=
  (((List.range volumes.length).zip volumes).foldl fuller none).map Prod.fst

/-- What each step of growth takes in: the next slot below and the next above, as far as
there are any. -/
def rings : List α → List α → List (List α)
  | [], above => above.map fun v => [v]
  | b :: below, [] => [b] :: rings below []
  | b :: below, a :: above => [b, a] :: rings below above

/-- Steps of growth until the enclosed volume reaches the target or nothing is left. -/
def steps (target : α) : α → List (List α) → Nat
  | _, [] => 0
  | enclosed, ring :: outer =>
    if enclosed < target then steps target (ring.foldl (· + ·) enclosed) outer + 1 else 0

/-- The lowest and the highest slot of the value area around slot `poc`, which encloses a
share of the whole volume. -/
def valueArea (volumes : List α) (poc : Nat) (share : α) : Nat × Nat :=
  let target := Scalar.sum volumes * share
  let centre := (volumes[poc]?).getD 0
  let k := steps target centre (rings (volumes.take poc).reverse (volumes.drop (poc + 1)))
  (poc - k, Nat.min (poc + k) (volumes.length - 1))

end MarketConditions.ValueArea
