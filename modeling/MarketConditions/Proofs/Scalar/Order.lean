import Mathlib.Data.Prod.Lex
import Mathlib.Data.Int.Order.Basic
import MarketConditions.Scalar

/-!
# The same number

Machine floats that are defined are totally ordered by where they stand, and numbers that
stand at one place are the same number: only the two zeros do without having the same
parts. What is worked out from the same numbers is the same number, as long as nothing is
divided by zero.

- `Scalar.Same`: equal by value, or undefined both.
- `Scalar.Rank`, `Scalar.rank`: the place of a number, and **the order of floats by rank**
  (`lt_iff_rank`, `le_iff_rank`, `beq_iff_rank`, `isUndefined_iff_rank`).
- `Scalar.Same.sub`, `Scalar.Same.mul`, `Scalar.Same.div`: arithmetic keeps to
  the same numbers.
-/

namespace MarketConditions

open Float.Model

namespace Scalar

/-- Two numbers are equal by value, or neither is defined. -/
def Same {α : Type} [Scalar α] (x y : α) : Prop :=
  (x == y) = true ∨ (isUndefined x = true ∧ isUndefined y = true)

/-! ## Places -/

/-- A place in the order of numbers. -/
abbrev Rank := ℤ ×ₗ ℤ ×ₗ ℤ

namespace Rank

/-- Kinds come first, then exponents, then mantissas. -/
def of (kind exponent mantissa : ℤ) : Rank := toLex (kind, toLex (exponent, mantissa))

/-- From minus infinity to infinity. Below zero the greater magnitude comes first; the
zeros share a place, and no number has none. -/
def ofParts : UnpackedFloat → Option Rank
  | .notANumber => none
  | .zero _ => some (of 0 0 0)
  | .finite s m e _ => some (of (s.apply 1) (s.apply e) (s.apply m))
  | .infinity s => some (of (s.apply 2) 0 0)

theorem compare_neg (a b : ℤ) : compare (-a) (-b) = (compare a b).swap := by
  rw [Int.compare_swap, Int.compare_eq_ite_lt, Int.compare_eq_ite_lt]
  simp only [Int.neg_lt_neg_iff]

theorem compare_natCast (m n : ℕ) : compare (m : ℤ) n = compare m n := by
  rw [Int.compare_eq_ite_lt, Nat.compare_eq_ite_lt]
  simp only [Int.ofNat_lt]

/-- Parts are compared by their places. -/
theorem compare_parts (x y : UnpackedFloat) :
    x.compare y = (ofParts x).bind fun a => (ofParts y).map fun b => compare a b := by
  cases x with
  | notANumber => rfl
  | infinity s => cases s <;> cases y with
    | infinity t | zero t | finite t => cases t <;> rfl
    | notANumber => rfl
  | zero s => cases y with
    | infinity t | finite t => cases t <;> rfl
    | notANumber | zero => rfl
  | finite s m e _ => cases y with
    | infinity t => cases s <;> cases t <;> rfl
    | zero t => cases s <;> rfl
    | notANumber => cases s <;> rfl
    | finite t n f _ =>
      cases s <;> cases t
      case negative.positive | positive.negative => rfl
      case positive.positive =>
        show some ((compare e f).then (compare m n)) =
          some ((compare e f).then (compare (m : ℤ) n))
        rw [compare_natCast]
      case negative.negative =>
        show some ((compare e f).then (compare m n)).swap =
          some ((compare (-e) (-f)).then (compare (-m : ℤ) (-n)))
        rw [compare_neg, compare_neg, compare_natCast, Ordering.swap_then]

theorem of_inj {k k' e e' m m' : ℤ} :
    of k e m = of k' e' m' ↔ k = k' ∧ e = e' ∧ m = m' := by
  unfold of
  rw [toLex_inj, Prod.mk.injEq, toLex_inj, Prod.mk.injEq]

/-- Parts of one place are the same but for the sign of zero. -/
theorem eq_or_zero_of_ofParts {x y : UnpackedFloat} (same : ofParts x = ofParts y) :
    x = y ∨ ∃ s t, x = .zero s ∧ y = .zero t := by
  cases x <;> cases y
  case notANumber.notANumber => exact .inl rfl
  case zero.zero s t => exact .inr ⟨s, t, rfl, rfl⟩
  case infinity.infinity s t =>
    have kinds : s.apply 2 = t.apply 2 := (of_inj.mp (Option.some.inj same)).1
    cases s <;> cases t
    case negative.negative | positive.positive => exact .inl rfl
    case negative.positive | positive.negative => cases kinds
  case finite.finite s m e _ t n f _ =>
    obtain ⟨kinds, exponents, mantissas⟩ := of_inj.mp (Option.some.inj same)
    cases s <;> cases t
    case negative.positive | positive.negative => cases kinds
    case positive.positive =>
      cases exponents
      cases Int.ofNat.inj mantissas
      exact .inl rfl
    case negative.negative =>
      cases Int.neg_inj.mp exponents
      cases Int.ofNat.inj (Int.neg_inj.mp mantissas)
      exact .inl rfl
  -- of different kinds, or only one of them a number
  case notANumber.infinity | notANumber.zero | notANumber.finite => cases same
  case infinity.notANumber | zero.notANumber | finite.notANumber => cases same
  case infinity.zero s t | infinity.finite s t _ _ _ | finite.zero s _ _ _ t =>
    have kinds := (of_inj.mp (Option.some.inj same)).1
    cases s <;> try cases t
    all_goals cases kinds
  case zero.infinity s t | zero.finite s t _ _ _ | finite.infinity s _ _ _ t =>
    have kinds := (of_inj.mp (Option.some.inj same)).1
    cases s <;> cases t
    all_goals cases kinds

theorem of_lt_of {k k' : ℤ} (kinds : k < k') (e e' m m' : ℤ) : of k e m < of k' e' m' :=
  Prod.Lex.toLex_lt_toLex.mpr (.inl kinds)

/-- No place is outside the two infinities. -/
theorem mem_ofParts_bounds {parts : UnpackedFloat} {a : Rank} (h : a ∈ ofParts parts) :
    of (-2) 0 0 ≤ a ∧ a ≤ of 2 0 0 := by
  cases parts with
  | notANumber => cases h
  | zero s =>
    cases h
    exact ⟨(of_lt_of (by decide) ..).le, (of_lt_of (by decide) ..).le⟩
  | finite s m e _ =>
    cases h
    cases s <;> exact ⟨(of_lt_of (by decide) ..).le, (of_lt_of (by decide) ..).le⟩
  | infinity s =>
    cases h
    cases s
    case negative => exact ⟨le_rfl, (of_lt_of (by decide) ..).le⟩
    case positive => exact ⟨(of_lt_of (by decide) ..).le, le_rfl⟩

/-- The place opposite to a place. -/
def mirror (a : Rank) : Rank :=
  of (-(ofLex a).1) (-(ofLex (ofLex a).2).1) (-(ofLex (ofLex a).2).2)

theorem mirror_lt_mirror_iff {a b : Rank} : mirror a < mirror b ↔ b < a := by
  simp only [mirror, of, Prod.Lex.lt_iff, ofLex_toLex]
  omega

theorem mirror_le_mirror_iff {a b : Rank} : mirror a ≤ mirror b ↔ b ≤ a := by
  rw [← not_lt, ← not_lt, mirror_lt_mirror_iff]

theorem mirror_inj {a b : Rank} : mirror a = mirror b ↔ a = b := by
  rw [le_antisymm_iff, mirror_le_mirror_iff, mirror_le_mirror_iff, and_comm, ← le_antisymm_iff]

end Rank

/-- The place of a number. -/
def rank (x : Float) : Option Rank := Rank.ofParts x.toModel.unpack

variable {x y z : Float}

theorem lt_iff_rank : x < y ↔ ∃ a ∈ rank x, ∃ b ∈ rank y, a < b := by
  have parts : x < y ↔ x.toModel.unpack.compare y.toModel.unpack = some .lt :=
    decide_eq_true_iff.trans beq_iff_eq
  rw [parts, Rank.compare_parts]
  show (rank x).bind (fun a => (rank y).map fun b => compare a b) = some .lt ↔ _
  cases rank x <;> cases rank y <;> simp [compare_lt_iff_lt]

theorem le_iff_rank : x ≤ y ↔ ∃ a ∈ rank x, ∃ b ∈ rank y, a ≤ b := by
  have parts : x ≤ y ↔ (x.toModel.unpack.compare y.toModel.unpack).any (·.isLE) = true :=
    decide_eq_true_iff
  rw [parts, Rank.compare_parts]
  show ((rank x).bind fun a => (rank y).map fun b => compare a b).any (·.isLE) = true ↔ _
  cases rank x <;> cases rank y <;> simp [← compare_le_iff_le, Ordering.ne_gt_iff_isLE]

theorem beq_iff_rank : (x == y) = true ↔ ∃ a ∈ rank x, a ∈ rank y := by
  have parts : (x == y) = true ↔ x.toModel.unpack.compare y.toModel.unpack = some .eq := by
    show (x.toModel.unpack.compare y.toModel.unpack == some Ordering.eq) = true ↔ _
    exact beq_iff_eq
  rw [parts, Rank.compare_parts]
  show (rank x).bind (fun a => (rank y).map fun b => compare a b) = some .eq ↔ _
  cases rank x with
  | none => simp
  | some a => cases rank y with
    | none => simp
    | some b => simpa [compare_eq_iff_eq] using eq_comm

/-- Only the undefined number has no place. -/
theorem isUndefined_iff_rank : isUndefined x = true ↔ rank x = none := by
  show (!(x == x)) = true ↔ _
  rw [Bool.not_eq_true', ← Bool.not_eq_true, beq_iff_rank]
  cases rank x <;> simp

theorem same_iff_rank : Same x y ↔ rank x = rank y := by
  unfold Same
  rw [beq_iff_rank, isUndefined_iff_rank, isUndefined_iff_rank]
  cases rank x <;> cases rank y <;> simp [eq_comm]

/-! ## The order of defined numbers -/

theorem exists_rank (defined : isUndefined x = false) : ∃ a, rank x = some a := by
  rw [← Option.ne_none_iff_exists', ne_eq, ← isUndefined_iff_rank, defined]
  exact Bool.false_ne_true

theorem defined_of_rank {a : Rank} (place : rank x = some a) : isUndefined x = false := by
  rw [← Bool.not_eq_true, isUndefined_iff_rank, place]
  exact Option.some_ne_none a

/-- What is compared is defined. -/
theorem defined_of_le (low : x ≤ y) : isUndefined x = false ∧ isUndefined y = false := by
  obtain ⟨a, ha, b, hb, -⟩ := le_iff_rank.mp low
  exact ⟨defined_of_rank ha, defined_of_rank hb⟩

theorem defined_of_lt (less : x < y) : isUndefined x = false ∧ isUndefined y = false := by
  obtain ⟨a, ha, b, hb, -⟩ := lt_iff_rank.mp less
  exact ⟨defined_of_rank ha, defined_of_rank hb⟩

theorem le_self (defined : isUndefined x = false) : x ≤ x := by
  obtain ⟨a, hx⟩ := exists_rank defined
  exact le_iff_rank.mpr ⟨a, hx, a, hx, le_rfl⟩

theorem le_or_le (hx : isUndefined x = false) (hy : isUndefined y = false) : x ≤ y ∨ y ≤ x := by
  obtain ⟨a, ha⟩ := exists_rank hx
  obtain ⟨b, hb⟩ := exists_rank hy
  rw [le_iff_rank, le_iff_rank]
  rcases LinearOrder.le_total a b with low | high
  · exact .inl ⟨a, ha, b, hb, low⟩
  · exact .inr ⟨b, hb, a, ha, high⟩

theorem le_of_le_of_le (first : x ≤ y) (second : y ≤ z) : x ≤ z := by
  obtain ⟨a, ha, b, hb, low⟩ := le_iff_rank.mp first
  obtain ⟨b', hb', c, hc, high⟩ := le_iff_rank.mp second
  cases hb.symm.trans hb'
  exact le_iff_rank.mpr ⟨a, ha, c, hc, low.trans high⟩

theorem same_of_le_of_le (low : x ≤ y) (high : y ≤ x) : Same x y := by
  obtain ⟨a, ha, b, hb, ab⟩ := le_iff_rank.mp low
  obtain ⟨b', hb', a', ha', ba⟩ := le_iff_rank.mp high
  cases hb.symm.trans hb'
  cases ha.symm.trans ha'
  rw [same_iff_rank, ha, hb, le_antisymm ab ba]

theorem not_lt_iff (hx : isUndefined x = false) (hy : isUndefined y = false) : ¬ x < y ↔ y ≤ x := by
  obtain ⟨a, ha⟩ := exists_rank hx
  obtain ⟨b, hb⟩ := exists_rank hy
  rw [lt_iff_rank, le_iff_rank, ha, hb]
  simp

theorem rank_infinity : rank Scalar.infinity = some (.of 2 0 0) := rfl

theorem rank_neg_infinity : rank (-Scalar.infinity) = some (.of (-2) 0 0) := rfl

theorem neg_infinity_le (defined : isUndefined x = false) : -Scalar.infinity ≤ x := by
  obtain ⟨a, ha⟩ := exists_rank defined
  exact le_iff_rank.mpr ⟨_, rank_neg_infinity, a, ha, (Rank.mem_ofParts_bounds ha).1⟩

theorem le_infinity (defined : isUndefined x = false) : x ≤ Scalar.infinity := by
  obtain ⟨a, ha⟩ := exists_rank defined
  exact le_iff_rank.mpr ⟨a, ha, _, rank_infinity, (Rank.mem_ofParts_bounds ha).2⟩

/-! ## The greatest and the least of some numbers -/

theorem isUndefined_max (hx : isUndefined x = false) (hy : isUndefined y = false) :
    isUndefined (max x y) = false := by
  unfold max
  split
  · exact hy
  · exact hx

theorem isUndefined_min (hx : isUndefined x = false) (hy : isUndefined y = false) :
    isUndefined (min x y) = false := by
  unfold min
  split
  · exact hy
  · exact hx

theorem max_le_iff (hx : isUndefined x = false) (hy : isUndefined y = false) :
    max x y ≤ z ↔ x ≤ z ∧ y ≤ z := by
  unfold max
  rw [hx, Bool.false_or]
  by_cases less : x < y
  · rw [if_pos (decide_eq_true less)]
    have low : x ≤ y := by
      obtain ⟨a, ha, b, hb, ab⟩ := lt_iff_rank.mp less
      exact le_iff_rank.mpr ⟨a, ha, b, hb, ab.le⟩
    exact ⟨fun h => ⟨le_of_le_of_le low h, h⟩, And.right⟩
  · rw [if_neg (by rwa [decide_eq_true_iff])]
    have high : y ≤ x := (not_lt_iff hx hy).mp less
    exact ⟨fun h => ⟨h, le_of_le_of_le high h⟩, And.left⟩

theorem le_min_iff (hx : isUndefined x = false) (hy : isUndefined y = false) :
    z ≤ min x y ↔ z ≤ x ∧ z ≤ y := by
  unfold min
  rw [hx, Bool.false_or]
  by_cases less : y < x
  · rw [if_pos (decide_eq_true less)]
    have low : y ≤ x := by
      obtain ⟨a, ha, b, hb, ab⟩ := lt_iff_rank.mp less
      exact le_iff_rank.mpr ⟨a, ha, b, hb, ab.le⟩
    exact ⟨fun h => ⟨le_of_le_of_le h low, h⟩, And.right⟩
  · rw [if_neg (by rwa [decide_eq_true_iff])]
    have high : x ≤ y := (not_lt_iff hy hx).mp less
    exact ⟨fun h => ⟨h, le_of_le_of_le h high⟩, And.left⟩

/-- What bounds the outcome of a choice made entry by entry bounds every entry, if it does
so for a choice between two. -/
theorem foldl_bounded_iff (choose : Float → Float → Float) (bounded : Float → Float → Prop)
    (defined : ∀ x y, isUndefined x = false → isUndefined y = false →
      isUndefined (choose x y) = false)
    (iff : ∀ x y b, isUndefined x = false → isUndefined y = false →
      (bounded (choose x y) b ↔ bounded x b ∧ bounded y b))
    {xs : List Float} (all : ∀ x ∈ xs, isUndefined x = false) {a : Float}
    (first : isUndefined a = false) :
    isUndefined (xs.foldl choose a) = false ∧
      ∀ b, bounded (xs.foldl choose a) b ↔ bounded a b ∧ ∀ x ∈ xs, bounded x b := by
  induction xs generalizing a with
  | nil => exact ⟨first, fun b => by simp⟩
  | cons x xs ih =>
    obtain ⟨hx, hxs⟩ := List.forall_mem_cons.mp all
    obtain ⟨still, bounds⟩ := ih hxs (defined a x first hx)
    refine ⟨still, fun b => ?_⟩
    rw [List.foldl_cons, bounds, iff a x b first hx, List.forall_mem_cons, and_assoc]

/-- An entry that no entry exceeds is the greatest of them. -/
theorem same_greatest {xs : List Float} (all : ∀ y ∈ xs, isUndefined y = false) (here : x ∈ xs)
    (top : ∀ y ∈ xs, y ≤ x) : Same x (greatest xs) := by
  obtain ⟨defined, bounds⟩ := foldl_bounded_iff max (· ≤ ·) (fun _ _ => isUndefined_max)
    (fun _ _ _ => max_le_iff) all (rfl : isUndefined (-Scalar.infinity : Float) = false)
  refine same_of_le_of_le (((bounds _).mp (le_self defined)).2 x here) ((bounds x).mpr ⟨?_, top⟩)
  exact neg_infinity_le (all x here)

/-- An entry that exceeds no entry is the least of them. -/
theorem same_least {xs : List Float} (all : ∀ y ∈ xs, isUndefined y = false) (here : x ∈ xs)
    (bottom : ∀ y ∈ xs, x ≤ y) : Same x (least xs) := by
  obtain ⟨defined, bounds⟩ := foldl_bounded_iff min (· ≥ ·) (fun _ _ => isUndefined_min)
    (fun _ _ _ => le_min_iff) all (rfl : isUndefined (Scalar.infinity : Float) = false)
  refine same_of_le_of_le ((bounds x).mpr ⟨?_, bottom⟩) (((bounds _).mp (le_self defined)).2 x here)
  exact le_infinity (all x here)

/-! ## Arithmetic on the same numbers -/

theorem rank_zero (s : UnpackedFloat.Sign) :
    Rank.ofParts (pack (.zero s)).unpack = some (.of 0 0 0) := by
  cases s <;> rfl

theorem rank_notANumber : Rank.ofParts (pack .notANumber).unpack = none := rfl

/-- Parts of one place are packed into numbers of one place. -/
theorem Rank.ofParts_pack {p q : UnpackedFloat} (same : ofParts p = ofParts q) :
    ofParts (pack p).unpack = ofParts (pack q).unpack := by
  rcases eq_or_zero_of_ofParts same with rfl | ⟨s, t, rfl, rfl⟩
  · rfl
  · rw [rank_zero, rank_zero]

/-- What an operation on parts makes of one place does not depend on the sign of a zero. -/
theorem Rank.ofParts_congr (f : UnpackedFloat → UnpackedFloat)
    (zeros : ∀ s t, ofParts (f (.zero s)) = ofParts (f (.zero t))) {p q : UnpackedFloat}
    (same : ofParts p = ofParts q) : ofParts (f p) = ofParts (f q) := by
  rcases eq_or_zero_of_ofParts same with rfl | ⟨s, t, rfl, rfl⟩
  · rfl
  · exact zeros s t

/-- An operation on two parts that takes no notice of the sign of a zero, on either side,
makes one place of parts that have one place each. -/
theorem Rank.ofParts_congr₂ (op : UnpackedFloat → UnpackedFloat → UnpackedFloat)
    (left : ∀ s t q, ofParts (op (.zero s) q) = ofParts (op (.zero t) q))
    (right : ∀ p s t, ofParts (op p (.zero s)) = ofParts (op p (.zero t)))
    {p p' q q' : UnpackedFloat} (hp : ofParts p = ofParts p') (hq : ofParts q = ofParts q') :
    ofParts (op p q) = ofParts (op p' q') :=
  calc ofParts (op p q)
      = ofParts (op p' q) := ofParts_congr (op · q) (fun s t => left s t q) hp
    _ = ofParts (op p' q') := ofParts_congr (op p') (right p') hq

section

variable {p p' q q' : UnpackedFloat} (spec : Format)

-- Only the sum and the difference of two zeros read a sign, and both are some zero.
theorem Rank.ofParts_add (hp : ofParts p = ofParts p') (hq : ofParts q = ofParts q') :
    ofParts (p.add spec q) = ofParts (p'.add spec q') := by
  refine ofParts_congr₂ (.add spec) (fun s t q => ?_) (fun p s t => ?_) hp hq
  · cases q with
    | zero u => cases s <;> cases t <;> cases u <;> rfl
    | notANumber | infinity | finite => rfl
  · cases p with
    | zero u => cases s <;> cases t <;> cases u <;> rfl
    | notANumber | infinity | finite => rfl

theorem Rank.ofParts_sub (hp : ofParts p = ofParts p') (hq : ofParts q = ofParts q') :
    ofParts (p.sub spec q) = ofParts (p'.sub spec q') := by
  refine ofParts_congr₂ (.sub spec) (fun s t q => ?_) (fun p s t => ?_) hp hq
  · cases q with
    | zero u => cases s <;> cases t <;> cases u <;> rfl
    | notANumber | infinity | finite => rfl
  · cases p with
    | zero u => cases s <;> cases t <;> cases u <;> rfl
    | notANumber | infinity | finite => rfl

theorem Rank.ofParts_mul (hp : ofParts p = ofParts p') (hq : ofParts q = ofParts q') :
    ofParts (p.mul spec q) = ofParts (p'.mul spec q') :=
  ofParts_congr₂ (.mul spec) (fun s t q => by cases q <;> rfl) (fun p s t => by cases p <;> rfl)
    hp hq

end

theorem Rank.ofParts_dividend {p p' : UnpackedFloat} (spec : Format) (q : UnpackedFloat)
    (hp : ofParts p = ofParts p') : ofParts (p.div spec q) = ofParts (p'.div spec q) :=
  ofParts_congr (·.div spec q) (fun s t => by cases q <;> rfl) hp

/-- A divisor that is not zero is the same in all its parts. -/
theorem Rank.ofParts_div {p p' q q' : UnpackedFloat} (spec : Format)
    (hp : ofParts p = ofParts p') (hq : ofParts q = ofParts q') (nonzero : ∀ s, q ≠ .zero s) :
    ofParts (p.div spec q) = ofParts (p'.div spec q') := by
  obtain rfl | ⟨s, -, zero, -⟩ := eq_or_zero_of_ofParts hq
  · exact ofParts_dividend spec q hp
  · exact absurd zero (nonzero s)

namespace Same

variable {x' y' : Float}

protected theorem refl (x : Float) : Same x x := same_iff_rank.mpr rfl

/-- What is the same as a defined number equals it. -/
protected theorem beq (same : Same x y) (defined : isUndefined x = false) : (x == y) = true :=
  same.resolve_right fun undefined => by rw [defined] at undefined; cases undefined.1

protected theorem sub (hx : Same x x') (hy : Same y y') : Same (x - y) (x' - y') := by
  rw [same_iff_rank] at hx hy ⊢
  exact Rank.ofParts_pack (Rank.ofParts_sub .binary64 hx hy)

protected theorem mul (hx : Same x x') (hy : Same y y') : Same (x * y) (x' * y') := by
  rw [same_iff_rank] at hx hy ⊢
  exact Rank.ofParts_pack (Rank.ofParts_mul .binary64 hx hy)

protected theorem div (hx : Same x x') (hy : Same y y') (nonzero : (y == 0) = false) :
    Same (x / y) (x' / y') := by
  rw [same_iff_rank] at hx hy ⊢
  refine Rank.ofParts_pack (Rank.ofParts_div .binary64 hx hy fun s zero => ?_)
  have equal : (y == 0) = true := by
    rw [beq_iff_rank, rank, zero]
    exact ⟨_, rfl, rfl⟩
  rw [nonzero] at equal
  exact Bool.false_ne_true equal

/-- The same numbers are equal to zero together. -/
protected theorem beq_zero (hx : Same x x') : (x == 0) = (x' == 0) := by
  rw [same_iff_rank] at hx
  rw [Bool.eq_iff_iff, beq_iff_rank, beq_iff_rank, hx]

/-- The same numbers are undefined together. -/
protected theorem isUndefined (hx : Same x x') : isUndefined x = isUndefined x' := by
  rw [same_iff_rank] at hx
  rw [Bool.eq_iff_iff, isUndefined_iff_rank, isUndefined_iff_rank, hx]

end Same

/-- Only what is no number has no place. -/
theorem Rank.eq_notANumber {p : UnpackedFloat} (none : ofParts p = none) : p = .notANumber := by
  cases p with
  | notANumber => rfl
  | infinity | zero | finite => cases none

/-- What is divided by the undefined number is undefined. -/
theorem isUndefined_div (hy : isUndefined y = true) : isUndefined (x / y) = true := by
  rw [isUndefined_iff_rank] at hy ⊢
  have parts : x.toModel.unpack.div .binary64 y.toModel.unpack = .notANumber := by
    rw [Rank.eq_notANumber hy]
    cases x.toModel.unpack <;> rfl
  show Rank.ofParts (pack (x.toModel.unpack.div .binary64 y.toModel.unpack)).unpack = none
  rw [parts, rank_notANumber]

theorem isUndefined_mul (hx : isUndefined x = true) : isUndefined (x * y) = true := by
  rw [isUndefined_iff_rank] at hx ⊢
  have parts : x.toModel.unpack.mul .binary64 y.toModel.unpack = .notANumber := by
    rw [Rank.eq_notANumber hx]
    rfl
  show Rank.ofParts (pack (x.toModel.unpack.mul .binary64 y.toModel.unpack)).unpack = none
  rw [parts, rank_notANumber]

end Scalar

end MarketConditions
