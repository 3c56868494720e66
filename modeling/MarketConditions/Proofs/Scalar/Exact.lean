import Mathlib.Analysis.Complex.Trigonometric
import Mathlib.Analysis.Real.Sqrt
import MarketConditions.Scalar

/-!
# Exact arithmetic

The numbers that indicators are meant for: the reals, on which nothing is rounded, with
the two infinities and the undefined value that the operations of machine numbers know.
Zero has no sign, and a quotient by it is undefined.

- `Exact`: the scalars; `Exact.instScalar`: their arithmetic.
- `Exact.number_add`, `Exact.number_div` and so on: **on reals it is that of the reals**.
- `Exact.isUndefined_iff`: only the undefined value is undefined; `Exact.sum_undefined`: a
  total with it is.
- `Exact.IsNumber`, `Exact.IsNonneg`: real numbers, and those not below zero; both are
  kept by what indicators are made of.
-/

namespace MarketConditions

/-- A real number, an infinity, or no number. -/
inductive Exact where
  | undefined
  | infinite (negative : Bool)
  | number (x : ℝ)

namespace Exact

noncomputable section

open Classical

/-! ## Operations -/

/-- Infinities of both signs have no sum. -/
protected def add : Exact → Exact → Exact
  | number x, number y => number (x + y)
  | infinite s, number _ => infinite s
  | number _, infinite s => infinite s
  | infinite s, infinite t => if s = t then infinite s else undefined
  | _, _ => undefined

protected def neg : Exact → Exact
  | number x => number (-x)
  | infinite s => infinite !s
  | undefined => undefined

/-- Zero and an infinity have no product. -/
protected def mul : Exact → Exact → Exact
  | number x, number y => number (x * y)
  | infinite s, number x => if x = 0 then undefined else infinite (s ^^ decide (x < 0))
  | number x, infinite s => if x = 0 then undefined else infinite (s ^^ decide (x < 0))
  | infinite s, infinite t => infinite (s ^^ t)
  | _, _ => undefined

/-- There is no quotient by zero, nor one of two infinities. -/
protected def div : Exact → Exact → Exact
  | number x, number y => if y = 0 then undefined else number (x / y)
  | infinite s, number y => if y = 0 then undefined else infinite (s ^^ decide (y < 0))
  | number _, infinite _ => number 0
  | _, _ => undefined

/-- Numbers lie between the infinities. -/
protected def lt : Exact → Exact → Prop
  | number x, number y => x < y
  | infinite true, number _ => True
  | number _, infinite false => True
  | infinite true, infinite false => True
  | _, _ => False

protected def le : Exact → Exact → Prop
  | number x, number y => x ≤ y
  | infinite true, number _ => True
  | number _, infinite false => True
  | infinite s, infinite t => s = true ∨ t = false
  | _, _ => False

/-- Equality by value. Nothing equals the undefined value. -/
protected def beq : Exact → Exact → Bool
  | number x, number y => decide (x = y)
  | infinite s, infinite t => s == t
  | _, _ => false

protected def abs : Exact → Exact
  | number x => number |x|
  | infinite _ => infinite false
  | undefined => undefined

protected def sqrt : Exact → Exact
  | number x => if 0 ≤ x then number (Real.sqrt x) else undefined
  | infinite false => infinite false
  | _ => undefined

protected def cos : Exact → Exact
  | number x => number (Real.cos x)
  | _ => undefined

protected def floor : Exact → Exact
  | number x => number ⌊x⌋
  | infinite s => infinite s
  | undefined => undefined

/-- A whole number within the signed 64-bit range. -/
def clamp (n : ℤ) : ℤ := max (-2 ^ 63) (min n (2 ^ 63 - 1))

protected def nearest : Exact → ℤ
  | number x => clamp (if 0 ≤ x then ⌊x + 1 / 2⌋ else ⌈x - 1 / 2⌉)
  | infinite true => -2 ^ 63
  | infinite false => 2 ^ 63 - 1
  | undefined => 0

protected def wholePart : Exact → ℕ
  | number x => min ⌊x⌋₊ (2 ^ 64 - 1)
  | infinite false => 2 ^ 64 - 1
  | _ => 0

instance instScalar : Scalar Exact where
  add := Exact.add
  sub x y := Exact.add x (Exact.neg y)
  mul := Exact.mul
  div := Exact.div
  neg := Exact.neg
  lt := Exact.lt
  le := Exact.le
  beq := Exact.beq
  ofScientific m s e := number (OfScientific.ofScientific m s e)
  undefined := undefined
  infinity := infinite false
  ofInt n := number n
  abs := Exact.abs
  sqrt := Exact.sqrt
  cos := Exact.cos
  floor := Exact.floor
  nearest := Exact.nearest
  wholePart := Exact.wholePart
  decEq := fun _ _ => propDecidable _
  decLt := fun _ _ => propDecidable _
  decLe := fun _ _ => propDecidable _

end

/-! ## Real numbers -/

variable (x y : ℝ)

@[simp] theorem number_add : number x + number y = number (x + y) := rfl

@[simp] theorem number_sub : number x - number y = number (x - y) :=
  congrArg number (sub_eq_add_neg x y).symm

@[simp] theorem number_mul : number x * number y = number (x * y) := rfl

@[simp] theorem number_neg : -number x = number (-x) := rfl

theorem number_div {y : ℝ} (hy : y ≠ 0) : number x / number y = number (x / y) := if_neg hy

@[simp] theorem number_abs : Scalar.abs (number x) = number |x| := rfl

theorem number_sqrt {x : ℝ} (hx : 0 ≤ x) : Scalar.sqrt (number x) = number (Real.sqrt x) :=
  if_pos hx

@[simp] theorem number_lt_iff : number x < number y ↔ x < y := Iff.rfl

@[simp] theorem number_le_iff : number x ≤ number y ↔ x ≤ y := Iff.rfl

@[simp] theorem number_beq_iff : (number x == number y) = true ↔ x = y := decide_eq_true_iff

/-- A whole number that is written out. -/
@[simp] theorem ofNat_eq (n : ℕ) : (OfNat.ofNat n : Exact) = number n :=
  congrArg number (Int.cast_natCast n)

@[simp] theorem scalar_ofNat (n : ℕ) : (Scalar.ofNat n : Exact) = number n :=
  congrArg number (Int.cast_natCast n)

/-! ## The undefined value -/

theorem isUndefined_iff {x : Exact} : Scalar.isUndefined x = true ↔ x = undefined := by
  cases x with
  | undefined => exact iff_of_true rfl rfl
  | infinite s => cases s <;> exact iff_of_false (by decide) (by simp)
  | number x => simp [Scalar.isUndefined]

@[simp] theorem isUndefined_number : Scalar.isUndefined (number x) = false := by
  simp [Scalar.isUndefined]

@[simp] theorem undefined_add (x : Exact) : undefined + x = undefined := by cases x <;> rfl

@[simp] theorem add_undefined (x : Exact) : x + undefined = undefined := by cases x <;> rfl

@[simp] theorem undefined_sub (x : Exact) : undefined - x = undefined := by cases x <;> rfl

@[simp] theorem undefined_div (x : Exact) : undefined / x = undefined := by cases x <;> rfl

/-- Equality by value is equality, but of what is undefined. -/
theorem beq_iff {x y : Exact} : (x == y) = true ↔ x = y ∧ x ≠ undefined := by
  cases x with
  | undefined =>
    refine iff_of_false ?_ (fun h => h.2 rfl)
    cases y <;> exact Bool.false_ne_true
  | infinite s =>
    cases y with
    | undefined | number => exact iff_of_false Bool.false_ne_true (by simp)
    | infinite t =>
      show (s == t) = true ↔ _
      simp
  | number x =>
    cases y with
    | undefined | infinite => exact iff_of_false Bool.false_ne_true (by simp)
    | number y => simp

/-- What is not above a number that is not above a third is not above the third. -/
protected theorem le_trans {x y z : Exact} (hxy : x ≤ y) (hyz : y ≤ z) : x ≤ z := by
  change Exact.le x y at hxy
  change Exact.le y z at hyz
  change Exact.le x z
  -- reals are compared as reals; whatever else there is, its kind decides
  rcases x with _ | (_ | _) | a <;> rcases y with _ | (_ | _) | b <;>
    rcases z with _ | (_ | _) | c <;> simp only [Exact.le] at hxy hyz ⊢ <;>
    first | exact hxy.trans hyz | simp_all

/-! ## What stays a real number -/

/-- A real number. -/
def IsNumber (x : Exact) : Prop := ∃ r, x = number r

/-- A real number that is not below zero. -/
def IsNonneg (x : Exact) : Prop := ∃ r, 0 ≤ r ∧ x = number r

variable {x y : Exact}

theorem IsNonneg.isNumber (hx : IsNonneg x) : IsNumber x := hx.imp fun _ h => h.2

theorem IsNumber.defined (hx : IsNumber x) : Scalar.isUndefined x = false := by
  obtain ⟨r, rfl⟩ := hx
  exact isUndefined_number r

theorem isNonneg_ofNat (n : ℕ) : IsNonneg (Scalar.ofNat n) := ⟨n, n.cast_nonneg, scalar_ofNat n⟩

theorem isNonneg_literal (n : ℕ) : IsNonneg (OfNat.ofNat n) := ⟨n, n.cast_nonneg, ofNat_eq n⟩

/-- Whole numbers that are written out. -/
theorem isNumber_literals (ns : List ℕ) :
    ∀ x ∈ ns.map fun n => (OfNat.ofNat n : Exact), IsNumber x :=
  List.forall_mem_map.mpr fun n _ => (isNonneg_literal n).isNumber

theorem defined_literals (ns : List ℕ) :
    ∀ x ∈ ns.map fun n => (OfNat.ofNat n : Exact), Scalar.isUndefined x = false :=
  fun x hx => (isNumber_literals ns x hx).defined

theorem IsNumber.add (hx : IsNumber x) (hy : IsNumber y) : IsNumber (x + y) := by
  obtain ⟨a, rfl⟩ := hx
  obtain ⟨b, rfl⟩ := hy
  exact ⟨_, number_add a b⟩

theorem IsNumber.sub (hx : IsNumber x) (hy : IsNumber y) : IsNumber (x - y) := by
  obtain ⟨a, rfl⟩ := hx
  obtain ⟨b, rfl⟩ := hy
  exact ⟨_, number_sub a b⟩

theorem IsNumber.mul (hx : IsNumber x) (hy : IsNumber y) : IsNumber (x * y) := by
  obtain ⟨a, rfl⟩ := hx
  obtain ⟨b, rfl⟩ := hy
  exact ⟨_, number_mul a b⟩

theorem IsNumber.neg (hx : IsNumber x) : IsNumber (-x) := by
  obtain ⟨a, rfl⟩ := hx
  exact ⟨_, number_neg a⟩

theorem IsNumber.abs (hx : IsNumber x) : IsNumber (Scalar.abs x) := by
  obtain ⟨a, rfl⟩ := hx
  exact ⟨_, number_abs a⟩

theorem IsNumber.div (hx : IsNumber x) (hy : IsNumber y) (nonzero : y ≠ 0) : IsNumber (x / y) := by
  obtain ⟨a, rfl⟩ := hx
  obtain ⟨b, rfl⟩ := hy
  refine ⟨_, number_div a ?_⟩
  rintro rfl
  exact nonzero (by simp)

theorem IsNumber.nonneg (hx : IsNumber x) (above : x > 0) : IsNonneg x := by
  obtain ⟨a, rfl⟩ := hx
  have : 0 < a := by simpa using above
  exact ⟨a, this.le, rfl⟩

theorem IsNumber.neg_nonneg (hx : IsNumber x) (below : ¬ x > 0) : IsNonneg (-x) := by
  obtain ⟨a, rfl⟩ := hx
  have : a ≤ 0 := by simpa using below
  exact ⟨-a, neg_nonneg.mpr this, number_neg a⟩

theorem IsNumber.not_pos (hx : IsNumber x) (below : x < 0) : ¬ x > 0 := by
  obtain ⟨a, rfl⟩ := hx
  have : a < 0 := by simpa using below
  simpa using this.le

/-- A number that does not equal zero by value is not zero. -/
theorem IsNumber.ne_zero (hx : IsNumber x) (unequal : ¬ (x == 0) = true) : x ≠ 0 := by
  obtain ⟨a, rfl⟩ := hx
  exact fun zero => unequal (beq_iff.mpr ⟨zero, fun h => nomatch h⟩)

theorem IsNumber.le_or_le (hx : IsNumber x) (hy : IsNumber y) : x ≤ y ∨ y ≤ x := by
  obtain ⟨a, rfl⟩ := hx
  obtain ⟨b, rfl⟩ := hy
  exact le_total a b

theorem IsNumber.ite {c : Prop} [Decidable c] (hx : IsNumber x) (hy : IsNumber y) :
    IsNumber (if c then x else y) := by
  split <;> assumption

theorem IsNumber.max (hx : IsNumber x) (hy : IsNumber y) : IsNumber (Scalar.max x y) := hy.ite hx

theorem IsNonneg.add (hx : IsNonneg x) (hy : IsNonneg y) : IsNonneg (x + y) := by
  obtain ⟨a, ha, rfl⟩ := hx
  obtain ⟨b, hb, rfl⟩ := hy
  exact ⟨_, add_nonneg ha hb, number_add a b⟩

theorem IsNonneg.mul (hx : IsNonneg x) (hy : IsNonneg y) : IsNonneg (x * y) := by
  obtain ⟨a, ha, rfl⟩ := hx
  obtain ⟨b, hb, rfl⟩ := hy
  exact ⟨_, mul_nonneg ha hb, number_mul a b⟩

theorem IsNonneg.div (hx : IsNonneg x) (hy : IsNonneg y) (nonzero : y ≠ 0) : IsNonneg (x / y) := by
  obtain ⟨a, ha, rfl⟩ := hx
  obtain ⟨b, hb, rfl⟩ := hy
  refine ⟨_, div_nonneg ha hb, number_div a ?_⟩
  rintro rfl
  exact nonzero (by simp)

theorem IsNonneg.sqrt (hx : IsNonneg x) : IsNonneg (Scalar.sqrt x) := by
  obtain ⟨a, ha, rfl⟩ := hx
  exact ⟨_, Real.sqrt_nonneg a, number_sqrt ha⟩

theorem IsNumber.mul_self (hx : IsNumber x) : IsNonneg (x * x) := by
  obtain ⟨a, rfl⟩ := hx
  exact ⟨_, mul_self_nonneg a, number_mul a a⟩

@[simp] theorem number_eq_zero_iff {r : ℝ} : number r = 0 ↔ r = 0 := by simp

/-- A count of at least one is not zero. -/
theorem scalar_ofNat_ne_zero {n : ℕ} (positive : 1 ≤ n) : (Scalar.ofNat n : Exact) ≠ 0 := by
  have : (n : ℝ) ≠ 0 := Nat.cast_ne_zero.mpr (by omega)
  simpa using this

theorem literal_ne_zero {n : ℕ} (positive : 1 ≤ n) : (OfNat.ofNat n : Exact) ≠ 0 :=
  scalar_ofNat_ne_zero positive

/-- Numbers that are not below zero have a total of zero only if they are zero. -/
theorem IsNonneg.add_ne_zero (hx : IsNonneg x) (hy : IsNonneg y) (some : x ≠ 0 ∨ y ≠ 0) :
    x + y ≠ 0 := by
  obtain ⟨a, ha, rfl⟩ := hx
  obtain ⟨b, hb, rfl⟩ := hy
  rw [ne_eq, ne_eq, number_eq_zero_iff, number_eq_zero_iff, ← not_and_or] at some
  rwa [number_add, ne_eq, number_eq_zero_iff, add_eq_zero_iff_of_nonneg ha hb]

/-- What addition keeps, a total keeps. -/
theorem sum_induction {P : Exact → Prop} (zero : P (-0)) (add : ∀ x y, P x → P y → P (x + y))
    {xs : List Exact} (all : ∀ x ∈ xs, P x) : P (Scalar.sum xs) := by
  have folded : ∀ total, P total → P (xs.foldl (· + ·) total) := by
    induction xs with
    | nil => exact fun _ h => h
    | cons x xs ih =>
      intro total h
      obtain ⟨first, rest⟩ := List.forall_mem_cons.mp all
      exact ih rest _ (add _ _ h first)
  exact folded _ zero

/-- A total with an undefined entry is undefined. -/
theorem sum_undefined {xs : List Exact} (missing : undefined ∈ xs) : Scalar.sum xs = undefined := by
  have stays : ∀ ys : List Exact, ys.foldl (· + ·) undefined = undefined := by
    intro ys
    induction ys with
    | nil => rfl
    | cons y ys ih => rwa [List.foldl_cons, undefined_add]
  obtain ⟨before, after, rfl⟩ := List.append_of_mem missing
  show (before ++ undefined :: after).foldl (· + ·) (-0) = undefined
  rw [List.foldl_append, List.foldl_cons, add_undefined, stays]

theorem IsNumber.sum {xs : List Exact} (all : ∀ x ∈ xs, IsNumber x) : IsNumber (Scalar.sum xs) :=
  sum_induction (isNonneg_literal 0).isNumber.neg (fun _ _ => .add) all

theorem IsNonneg.sum {xs : List Exact} (all : ∀ x ∈ xs, IsNonneg x) : IsNonneg (Scalar.sum xs) :=
  sum_induction ⟨-(0 : ℕ), by simp, by rw [ofNat_eq, number_neg]⟩ (fun _ _ => .add) all

end Exact

end MarketConditions
