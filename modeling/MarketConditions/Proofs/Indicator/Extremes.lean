import MarketConditions.Proofs.Scalar.Order
import MarketConditions.Proofs.Indicator.Causal
import MarketConditions.Proofs.Indicator.Windows

/-!
# Rolling extremes of numbers

Of defined numbers the greater one dominates for a rolling maximum, and the lesser one for
a minimum. So the queue finds a greatest and a least entry of every full window.

- `Column.Defined`: every number of a column is defined.
- `Extreme.Ranks`: numbers of which one dominates the other, if both are defined.
- `Extreme.ranks_greatest`, `Extreme.ranks_least`: what dominates.
- `Extreme.Rolls`: **what a rolling extreme shows**, at every bar.
- `Extreme.rolling_rolls`: the queue shows it; `Extreme.rolling_extremes`:
  **both extremes**.
-/

namespace MarketConditions

/-- Every number of a column is defined. -/
def Column.Defined {α : Type} [Scalar α] (xs : List α) : Prop :=
  ∀ x ∈ xs, Scalar.isUndefined x = false

namespace Extreme

/-! ## What dominates -/

/-- Of two defined numbers one dominates the other, and dominance is handed on. Undefined
ones do not take part. -/
structure Ranks {α : Type} [Scalar α] (dominates : α → α → Bool) : Prop where
  defined : ∀ x y, dominates x y = true →
    Scalar.isUndefined x = false ∧ Scalar.isUndefined y = false
  total : ∀ x y, Scalar.isUndefined x = false → Scalar.isUndefined y = false →
    dominates x y = true ∨ dominates y x = true
  trans : ∀ x y z, dominates x y = true → dominates y z = true → dominates x z = true

theorem Ranks.dominance {α : Type} [Scalar α] {dominates : α → α → Bool} (ranks : Ranks dominates)
    {xs : List α} (defined : Column.Defined xs) : Dominance dominates xs where
  total x hx y hy := ranks.total x y (defined x hx) (defined y hy)
  trans := ranks.trans

theorem ranks_greatest : Ranks fun x held : Float => decide (held ≤ x) where
  defined x y hxy := (Scalar.defined_of_le (of_decide_eq_true hxy)).symm
  total x y hx hy := by
    rw [decide_eq_true_iff, decide_eq_true_iff]
    exact Scalar.le_or_le hy hx
  trans x y z hxy hyz := by
    rw [decide_eq_true_iff] at hxy hyz ⊢
    exact Scalar.le_of_le_of_le hyz hxy

theorem ranks_least : Ranks fun x held : Float => decide (x ≤ held) where
  defined x y hxy := Scalar.defined_of_le (of_decide_eq_true hxy)
  total x y hx hy := by
    rw [decide_eq_true_iff, decide_eq_true_iff]
    exact Scalar.le_or_le hx hy
  trans x y z hxy hyz := by
    rw [decide_eq_true_iff] at hxy hyz ⊢
    exact Scalar.le_of_le_of_le hxy hyz

variable {xs : List Float} {p : Nat}

theorem dominance_greatest (defined : Column.Defined xs) :
    Dominance (fun x held => decide (held ≤ x)) xs := ranks_greatest.dominance defined

theorem dominance_least (defined : Column.Defined xs) :
    Dominance (fun x held => decide (x ≤ held)) xs := ranks_least.dominance defined

/-! ## Rolling extremes -/

/-- A column that shows nothing at a bar until the last `p` entries are there, and from
then on one of them that bounds them all. -/
structure Rolls {α : Type} [Scalar α] (bounds : α → α → Prop) (p : Nat)
    (xs column : List α) : Prop where
  length : column.length = xs.length
  early : ∀ bar < xs.length, bar + 1 < p → column[bar]? = some Scalar.undefined
  full : ∀ bar < xs.length, p ≤ bar + 1 →
    ∃ x ∈ windowAt p bar xs, column[bar]? = some x ∧ ∀ y ∈ windowAt p bar xs, bounds x y

/-- **A rolling extreme** is read off the queue. -/
theorem rolling_rolls {α : Type} [Scalar α] {xs : List α} {dominates : α → α → Bool}
    (ranks : Dominance dominates xs) (positive : 1 ≤ p) :
    Rolls (fun x y => dominates x y = true) p xs (rolling dominates p xs) where
  length := (causal_rolling dominates p).length xs
  early _ inside few := getElem?_rolling_early positive inside few
  full bar inside enough := by
    obtain ⟨x, shown, here, bounds⟩ := getElem?_rolling_full ranks positive inside enough
    exact ⟨x, here, shown, bounds⟩

theorem Rolls.imp {α : Type} [Scalar α] {xs column : List α} {bounds bounds' : α → α → Prop}
    (rolls : Rolls bounds p xs column) (weaker : ∀ x y, bounds x y → bounds' x y) :
    Rolls bounds' p xs column where
  length := rolls.length
  early := rolls.early
  full bar inside enough := by
    obtain ⟨x, here, shown, all⟩ := rolls.full bar inside enough
    exact ⟨x, here, shown, fun y hy => weaker x y (all y hy)⟩

/-- **Both extremes.** On defined numbers a rolling maximum shows an entry of the window
that is at least every other, and a rolling minimum one that is at most every other. -/
theorem rolling_extremes (p : Nat) (positive : 1 ≤ p) (xs : List Float)
    (defined : Column.Defined xs) :
    Rolls (fun x y => y ≤ x) p xs (rollingMax p xs) ∧
    Rolls (fun x y => x ≤ y) p xs (rollingMin p xs) :=
  ⟨(rolling_rolls (dominance_greatest defined) positive).imp fun _ _ => of_decide_eq_true,
    (rolling_rolls (dominance_least defined) positive).imp fun _ _ => of_decide_eq_true⟩

/-- Windows of three over a peak that is passed and two zeros. -/
theorem rolling_extremes_peak :
    let xs : List Float := [1, 3, 2, 5, 4, -0, 0]
    (1 ≤ 3 ∧ Column.Defined xs) ∧
    ((rollingMax 3 xs).drop 2 == [3, 5, 5, 5, 4]) = true ∧
    ((rollingMin 3 xs).drop 2 == [1, 2, 2, 0, 0]) = true ∧
    Rolls (fun x y => y ≤ x) 3 xs (rollingMax 3 xs) ∧
    Rolls (fun x y => x ≤ y) 3 xs (rollingMin 3 xs) := by
  intro xs
  have defined : Column.Defined xs := by
    unfold Column.Defined
    decide +kernel
  exact ⟨⟨by decide, defined⟩, by decide +kernel, by decide +kernel,
    rolling_extremes 3 (by decide) xs defined⟩

end Extreme

end MarketConditions
