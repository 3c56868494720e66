import Mathlib.Algebra.Order.BigOperators.Group.List
import MarketConditions.Proofs.Scalar.Exact

/-!
# Totals and extremes of real numbers

What is added up and compared in exact arithmetic is added up and compared as real numbers.

- `Exact.real`: the real number; `Exact.map_real`: a list of numbers is one of real numbers.
- `Exact.sum_eq`: **a total is that of the real numbers**; `Exact.sum_by_key`: the totals
  by keys add up to the total; `Exact.sum_pos_iff`: where a total is above zero.
- `Exact.number_max`, `Exact.number_min`: the greater and the smaller of two are those of
  the real numbers.
- `Exact.isLeast_least`, `Exact.isGreatest_greatest`: **the least and the greatest** of
  some numbers are found by comparing one by one.
-/

namespace MarketConditions

namespace Exact

/-- The real number. What is none counts as zero. -/
def real : Exact → ℝ
  | number x => x
  | _ => 0

@[simp] theorem real_number (x : ℝ) : (number x).real = x := rfl

theorem IsNumber.number_real {x : Exact} (hx : IsNumber x) : number x.real = x := by
  obtain ⟨r, rfl⟩ := hx
  rfl

theorem IsNonneg.real_nonneg {x : Exact} (hx : IsNonneg x) : 0 ≤ x.real := by
  obtain ⟨r, nonneg, rfl⟩ := hx
  exact nonneg

/-- A list of numbers is one of real numbers. -/
theorem map_real {xs : List Exact} (numbers : ∀ x ∈ xs, IsNumber x) :
    (xs.map real).map number = xs := by
  rw [List.map_map]
  exact (List.map_congr_left fun x hx => (numbers x hx).number_real).trans (List.map_id xs)

/-- What is above another is not at most the other. -/
protected theorem not_le_of_lt {x y : Exact} (less : x < y) : ¬ y ≤ x := by
  change Exact.lt x y at less
  change ¬ Exact.le y x
  rcases x with _ | (_ | _) | a <;> rcases y with _ | (_ | _) | b <;>
    simp_all [Exact.lt, Exact.le]

/-- What is above zero and at most a number is a number. -/
theorem isNumber_of_pos_of_le {x : Exact} {bound : ℝ} (positive : 0 < x)
    (atMost : x ≤ number bound) : IsNumber x := by
  cases x with
  | undefined => exact positive.elim
  | infinite negative =>
    cases negative with
    | true => exact positive.elim
    | false => exact atMost.elim
  | number x => exact ⟨x, rfl⟩

/-! ## Totals -/

/-- Zero has no sign. -/
protected theorem neg_zero : (-0 : Exact) = 0 := by simp

protected theorem zero_add (x : Exact) : 0 + x = x := by
  rw [ofNat_eq, Nat.cast_zero]
  cases x with
  | undefined | infinite => rfl
  | number r => rw [number_add, zero_add]

theorem foldl_add (rs : List ℝ) (total : ℝ) :
    (rs.map number).foldl (· + ·) (number total) = number (total + rs.sum) := by
  induction rs generalizing total with
  | nil => simp
  | cons r rs ih => rw [List.map_cons, List.foldl_cons, number_add, ih, List.sum_cons, add_assoc]

theorem sum_number (rs : List ℝ) : Scalar.sum (rs.map number) = number rs.sum := by
  show (rs.map number).foldl (· + ·) (-0) = _
  rw [Exact.neg_zero, ofNat_eq, Nat.cast_zero, foldl_add, zero_add]

/-- **A total** of numbers is that of the real numbers. -/
theorem sum_eq {xs : List Exact} (numbers : ∀ x ∈ xs, IsNumber x) :
    Scalar.sum xs = number (xs.map real).sum := by
  rw [← sum_number, map_real numbers]

/-- **A total by keys** is the total, where each entry has one of the keys. -/
theorem sum_filter_key {β κ : Type} [DecidableEq κ] {keys : List κ} (once : keys.Nodup)
    (key : β → κ) (weight : β → ℝ) {xs : List β} (inside : ∀ x ∈ xs, key x ∈ keys) :
    (keys.map fun k => ((xs.filter fun x => key x = k).map weight).sum).sum =
      (xs.map weight).sum := by
  induction xs with
  | nil => simp
  | cons x xs ih =>
    obtain ⟨first, rest⟩ := List.forall_mem_cons.mp inside
    have entry : ∀ k ∈ keys, (((x :: xs).filter fun x => key x = k).map weight).sum =
        (if k = key x then weight x else 0) + ((xs.filter fun x => key x = k).map weight).sum := by
      intro k _
      by_cases own : key x = k
      · rw [List.filter_cons, if_pos (decide_eq_true own), if_pos own.symm, List.map_cons,
          List.sum_cons]
      · rw [List.filter_cons, if_neg (by simpa using own), if_neg (Ne.symm own), zero_add]
    have alone : (keys.map fun k => if k = key x then weight x else 0).sum = weight x := by
      rw [List.sum_map_ite_eq, List.count_eq_one_of_mem once first]
      simp
    rw [List.map_congr_left entry, List.sum_map_add, alone, ih rest, List.map_cons, List.sum_cons]

/-- The same for numbers. -/
theorem sum_by_key {β κ : Type} [DecidableEq κ] {keys : List κ} (once : keys.Nodup) (key : β → κ)
    {value : β → Exact} {xs : List β} (numbers : ∀ x ∈ xs, IsNumber (value x))
    (inside : ∀ x ∈ xs, key x ∈ keys) :
    Scalar.sum (keys.map fun k => Scalar.sum ((xs.filter fun x => key x = k).map value)) =
      Scalar.sum (xs.map value) := by
  have parts : keys.map (fun k => Scalar.sum ((xs.filter fun x => key x = k).map value)) =
      (keys.map fun k => ((xs.filter fun x => key x = k).map fun x => (value x).real).sum).map
        number := by
    rw [List.map_map]
    refine List.map_congr_left fun k _ => ?_
    rw [sum_eq (List.forall_mem_map.mpr fun x hx =>
      numbers x (List.mem_of_mem_filter hx)), List.map_map]
    rfl
  rw [parts, sum_number, sum_eq (List.forall_mem_map.mpr numbers), List.map_map]
  exact congrArg number (sum_filter_key once key _ inside)

/-- A total of numbers that are not below zero is above zero just when an entry is. -/
theorem sum_pos_iff {xs : List Exact} (nonneg : ∀ x ∈ xs, IsNonneg x) :
    0 < Scalar.sum xs ↔ ∃ x ∈ xs, 0 < x := by
  have numbers : ∀ x ∈ xs, IsNumber x := fun x hx => (nonneg x hx).isNumber
  rw [sum_eq numbers, ofNat_eq, Nat.cast_zero, number_lt_iff]
  constructor
  · intro positive
    have greater : (xs.map fun _ => (0 : ℝ)).sum < (xs.map real).sum := by simpa using positive
    obtain ⟨x, hx, above⟩ := List.exists_lt_of_sum_lt _ _ greater
    refine ⟨x, hx, ?_⟩
    rw [← (numbers x hx).number_real]
    exact above
  · rintro ⟨x, hx, above⟩
    rw [← (numbers x hx).number_real] at above
    have least : x.real ≤ (xs.map real).sum :=
      List.single_le_sum (List.forall_mem_map.mpr fun y hy => (nonneg y hy).real_nonneg) _
        (List.mem_map_of_mem hx)
    exact lt_of_lt_of_le ((number_lt_iff ..).mp above) least

/-! ## Extremes -/

theorem number_max (x y : ℝ) : Scalar.max (number x) (number y) = number (max x y) := by
  unfold Scalar.max
  rcases lt_or_ge x y with less | notLess
  · simp [less, max_eq_right less.le]
  · simp [notLess.not_gt, max_eq_left notLess]

theorem number_min (x y : ℝ) : Scalar.min (number x) (number y) = number (min x y) := by
  unfold Scalar.min
  rcases lt_or_ge y x with less | notLess
  · simp [less, min_eq_right less.le]
  · simp [notLess.not_gt, min_eq_left notLess]

theorem least_cons (r : ℝ) (rs : List ℝ) :
    Scalar.least ((r :: rs).map number) = number (rs.foldl min r) := by
  have below : number r < Scalar.infinity := trivial
  have first : Scalar.min Scalar.infinity (number r) = number r :=
    if_pos ((Bool.or_eq_true ..).mpr (.inr (decide_eq_true below)))
  rw [List.map_cons]
  show (rs.map number).foldl Scalar.min (Scalar.min Scalar.infinity (number r)) = _
  rw [first, List.foldl_map]
  exact List.foldl_hom number fun x y => number_min x y

theorem greatest_cons (r : ℝ) (rs : List ℝ) :
    Scalar.greatest ((r :: rs).map number) = number (rs.foldl max r) := by
  have above : -Scalar.infinity < number r := trivial
  have first : Scalar.max (-Scalar.infinity) (number r) = number r :=
    if_pos ((Bool.or_eq_true ..).mpr (.inr (decide_eq_true above)))
  rw [List.map_cons]
  show (rs.map number).foldl Scalar.max (Scalar.max (-Scalar.infinity) (number r)) = _
  rw [first, List.foldl_map]
  exact List.foldl_hom number fun x y => number_max x y

/-- **The least** of some numbers is found by comparing one by one. -/
theorem isLeast_least {xs : List Exact} (numbers : ∀ x ∈ xs, IsNumber x) (some : xs ≠ []) :
    IsLeast {x | x ∈ xs} (Scalar.least xs) := by
  rw [← map_real numbers] at some ⊢
  obtain ⟨r, rs, parts⟩ := List.exists_cons_of_ne_nil (mt List.map_eq_nil_iff.mpr some)
  obtain ⟨mem, below⟩ := List.min?_eq_some_iff.mp (@List.min?_cons' ℝ r _ rs)
  rw [parts, least_cons]
  refine ⟨List.mem_map_of_mem mem, fun x hx => ?_⟩
  obtain ⟨y, hy, rfl⟩ := List.mem_map.mp hx
  exact below y hy

theorem isGreatest_greatest {xs : List Exact} (numbers : ∀ x ∈ xs, IsNumber x) (some : xs ≠ []) :
    IsGreatest {x | x ∈ xs} (Scalar.greatest xs) := by
  rw [← map_real numbers] at some ⊢
  obtain ⟨r, rs, parts⟩ := List.exists_cons_of_ne_nil (mt List.map_eq_nil_iff.mpr some)
  obtain ⟨mem, above⟩ := List.max?_eq_some_iff.mp (@List.max?_cons' ℝ r _ rs)
  rw [parts, greatest_cons]
  refine ⟨List.mem_map_of_mem mem, fun x hx => ?_⟩
  obtain ⟨y, hy, rfl⟩ := List.mem_map.mp hx
  exact above y hy

end Exact

end MarketConditions
