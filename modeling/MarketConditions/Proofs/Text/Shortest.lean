import Mathlib.Algebra.Order.Field.Basic
import Mathlib.Algebra.Order.Field.Rat
import Mathlib.Data.Rat.Cast.Order
import Mathlib.Tactic.NormNum
import Mathlib.Tactic.Ring
import MarketConditions.Proofs.Text.Decimal

/-!
# The written form of a binary number tells it apart

A finite number is written as the shortest decimal that rounds to it. Such a decimal
always exists, since the finest grid that is tried has a point close enough to every
number. It rounds to no other number: what rounds to a number ends where what rounds to
the next one begins, and the common end counts for the one with the even significand
alone. So a number can be told from its written form.

- `Rounding.Takes`: the numbers that round to one; `Rounding.Takes.overlap`: **where a
  number rounds to two others**.
- `Rounding.takes_of_grid?`: **what a decimal grid gives rounds to the number**;
  `Rounding.exists_shortest`: one of the grids gives something.
- `Binary64.read?_text`: **a finite number is read back** as a size that rounds to it.
- `Binary64.not_takes_of_less`: **no size rounds to two numbers**.
- `Binary64.text_cancel`, `shortestText_cancel`: **the written form tells numbers apart**,
  but for those that are no numbers.
-/

namespace MarketConditions.Text

/-- A power with a sign, and the power that makes up for the sign. -/
theorem zpow_mul_pow_toNat {x : ℚ} (nonzero : x ≠ 0) (n : ℤ) :
    x ^ n * x ^ (-n).toNat = x ^ n.toNat := by
  rw [← zpow_natCast, ← zpow_natCast, ← zpow_add₀ nonzero]
  congr 1
  omega

namespace Rounding

variable {r s : Rounding} {k : ℤ}

/-! ## The numbers that round to one -/

/-- A number that rounds to this one. -/
def Takes (r : Rounding) (x : ℚ) : Prop :=
  if r.closed then r.low * 2 ^ r.place ≤ x ∧ x ≤ r.high * 2 ^ r.place
  else r.low * 2 ^ r.place < x ∧ x < r.high * 2 ^ r.place

/-- A number lies between the ends, whether they count or not. -/
theorem Takes.between {x : ℚ} (takes : r.Takes x) :
    r.low * 2 ^ r.place ≤ x ∧ x ≤ r.high * 2 ^ r.place := by
  unfold Takes at takes
  split at takes
  · exact takes
  · exact ⟨takes.1.le, takes.2.le⟩

/-- Where a number rounds to two others, the lower end of the one is not above the upper
end of the other, and if it is the same, then it counts for both. -/
theorem Takes.overlap {x : ℚ} (lower : r.Takes x) (upper : s.Takes x) {shift : ℕ}
    (places : s.place = r.place + shift) :
    s.low * 2 ^ shift ≤ r.high ∧
      (s.low * 2 ^ shift = r.high → r.closed = true ∧ s.closed = true) := by
  have scale : (0 : ℚ) < 2 ^ r.place := zpow_pos two_pos _
  have shifted : (s.low : ℚ) * 2 ^ s.place = (s.low * 2 ^ shift : ℕ) * 2 ^ r.place := by
    rw [places, zpow_add₀ two_ne_zero, zpow_natCast]
    push_cast
    ring
  constructor
  · have ordered := upper.between.1.trans lower.between.2
    rwa [shifted, mul_le_mul_iff_left₀ scale, Nat.cast_le] at ordered
  · intro same
    rw [same] at shifted
    unfold Takes at lower upper
    rw [shifted] at upper
    -- an end that does not count would have to be passed
    cases closed : r.closed with
    | false =>
      simp only [closed, Bool.false_eq_true, if_false] at lower
      split at upper
      · exact absurd lower.2 (not_lt.mpr upper.1)
      · exact absurd lower.2 (not_lt.mpr upper.1.le)
    | true =>
      simp only [closed, if_true] at lower
      refine ⟨rfl, ?_⟩
      by_contra opened
      rw [if_neg opened] at upper
      exact absurd upper.1 (not_lt.mpr lower.2)

/-! ## Decimal grids -/

/-- What numbers are counted in when a decimal grid is tried. -/
def unit (r : Rounding) (k : ℤ) : ℕ := 2 ^ r.place.toNat * 10 ^ (-k).toNat

/-- How far the points of the grid are apart, counted so. -/
def step (r : Rounding) (k : ℤ) : ℕ := 2 ^ (-r.place).toNat * 10 ^ k.toNat

/-- The point of the grid that the number is at, or just above. -/
def below (r : Rounding) (k : ℤ) : ℕ := r.middle * r.unit k / r.step k

theorem grid?_eq (r : Rounding) (k : ℤ) : r.grid? k =
    match r.accepts (r.unit k) (r.below k * r.step k),
      r.accepts (r.unit k) ((r.below k + 1) * r.step k) with
    | true, true => some (if r.middle * r.unit k - r.below k * r.step k <
        (r.below k + 1) * r.step k - r.middle * r.unit k then r.below k else r.below k + 1)
    | true, false => some (r.below k)
    | false, true => some (r.below k + 1)
    | false, false => none := rfl

/-- Both stand for a number of their own, a last place and a step of the grid, times a
common factor. -/
theorem scaled (r : Rounding) (k : ℤ) : ∃ c : ℚ, 0 < c ∧ r.unit k = 2 ^ r.place * c ∧
    r.step k = 10 ^ k * c := by
  refine ⟨2 ^ (-r.place).toNat * 10 ^ (-k).toNat, by positivity, ?_, ?_⟩
  · unfold unit
    push_cast
    rw [← zpow_mul_pow_toNat two_ne_zero, mul_assoc]
  · unfold step
    push_cast
    rw [← zpow_mul_pow_toNat (by norm_num : (10 : ℚ) ≠ 0)]
    ring

/-- A point of the grid is accepted if it rounds to the number. -/
theorem accepts_iff (r : Rounding) (k : ℤ) (d : ℕ) :
    r.accepts (r.unit k) (d * r.step k) = true ↔ r.Takes (d * 10 ^ k) := by
  obtain ⟨c, positive, unit, step⟩ := r.scaled k
  have counted (n : ℕ) : ((n * r.unit k : ℕ) : ℚ) = n * 2 ^ r.place * c := by
    rw [Nat.cast_mul, unit, mul_assoc]
  have point : ((d * r.step k : ℕ) : ℚ) = d * 10 ^ k * c := by
    rw [Nat.cast_mul, step, mul_assoc]
  unfold accepts Takes
  split <;> rw [Bool.and_eq_true, decide_eq_true_eq, decide_eq_true_eq]
  · rw [← Nat.cast_le (α := ℚ), ← Nat.cast_le (α := ℚ), counted, counted, point,
      mul_le_mul_iff_left₀ positive, mul_le_mul_iff_left₀ positive]
  · rw [← Nat.cast_lt (α := ℚ), ← Nat.cast_lt (α := ℚ), counted, counted, point,
      mul_lt_mul_iff_left₀ positive, mul_lt_mul_iff_left₀ positive]

/-- **What a grid gives rounds to the number.** -/
theorem takes_of_grid? {d : ℕ} (found : r.grid? k = some d) : r.Takes (d * 10 ^ k) := by
  rw [← accepts_iff]
  rw [grid?_eq] at found
  split at found
  · rename_i below above
    cases found
    split_ifs
    · exact below
    · exact above
  · rename_i below _
    cases found
    exact below
  · rename_i _ above
    cases found
    exact above
  · cases found

/-- A grid gives something if it is fine enough. -/
theorem exists_grid? (between : r.low < r.middle ∧ r.middle < r.high) (fine : r.step k ≤ r.unit k) :
    ∃ d, r.grid? k = some d := by
  have positive : 0 < r.step k := by
    unfold step
    positivity
  have least : r.below k * r.step k ≤ r.middle * r.unit k := Nat.div_mul_le_self ..
  have next : r.middle * r.unit k < r.below k * r.step k + r.step k := Nat.lt_div_mul_add positive
  have low : (r.low + 1) * r.unit k ≤ r.middle * r.unit k := Nat.mul_le_mul_right _ between.1
  have high : (r.middle + 1) * r.unit k ≤ r.high * r.unit k := Nat.mul_le_mul_right _ between.2
  rw [Nat.add_mul, Nat.one_mul] at low high
  have accepted : r.accepts (r.unit k) (r.below k * r.step k) = true := by
    unfold accepts
    split <;> rw [Bool.and_eq_true, decide_eq_true_eq, decide_eq_true_eq] <;> omega
  rw [grid?_eq, accepted]
  cases r.accepts (r.unit k) ((r.below k + 1) * r.step k) <;> exact ⟨_, rfl⟩

/-- Grids of so many decimals are fine enough for every place of a 64-bit number. -/
theorem step_le_unit (decimals : k ≤ -324) (least : -1076 ≤ r.place) : r.step k ≤ r.unit k := by
  have shift : (-r.place).toNat ≤ 1076 := by omega
  have power : 324 ≤ (-k).toNat := by omega
  have whole : k.toNat = 0 := by omega
  -- 93 halvings need 28 decimals at most, eleven times over, and the last 53 need 16
  have most : 2 ^ 93 ≤ 10 ^ 28 := by decide
  have rest : 2 ^ 53 ≤ 10 ^ 16 := by decide
  unfold step unit
  rw [whole, Nat.pow_zero, Nat.mul_one]
  calc 2 ^ (-r.place).toNat ≤ 2 ^ 1076 := pow_le_pow_right₀ one_le_two shift
    _ = (2 ^ 93) ^ 11 * 2 ^ 53 := by rw [← pow_mul, ← pow_add]
    _ ≤ (10 ^ 28) ^ 11 * 10 ^ 16 := Nat.mul_le_mul (Nat.pow_le_pow_left most 11) rest
    _ = 10 ^ 324 := by rw [← pow_mul, ← pow_add]
    _ ≤ 10 ^ (-k).toNat := pow_le_pow_right₀ (by decide) power
    _ ≤ 2 ^ r.place.toNat * 10 ^ (-k).toNat := Nat.le_mul_of_pos_left _ (Nat.two_pow_pos _)

/-- **The shortest decimal exists and rounds to the number.** -/
theorem exists_shortest (between : r.low < r.middle ∧ r.middle < r.high) (least : -1076 ≤ r.place) :
    ∃ p, r.shortest = some p ∧ r.Takes (p.digits * 10 ^ p.exponent) := by
  have tried : -324 ∈ exponents := List.mem_map.mpr ⟨634, List.mem_range.mpr (by decide), rfl⟩
  obtain ⟨d, fine⟩ := exists_grid? between (step_le_unit (Int.le_refl (-324)) least)
  have found : r.shortest.isSome = true := by
    unfold shortest
    rw [List.findSome?_isSome_iff]
    exact ⟨-324, tried, by rw [fine]; rfl⟩
  obtain ⟨p, shortest⟩ := Option.isSome_iff_exists.mp found
  refine ⟨p, shortest, ?_⟩
  obtain ⟨k, -, given⟩ := List.exists_of_findSome?_eq_some shortest
  obtain ⟨d, grid, rfl⟩ := Option.map_eq_some_iff.mp given
  exact takes_of_grid? grid

end Rounding

/-! ## Sizes of numerals -/

/-- How large a numeral is, whatever its sign. -/
def Numeral.size (n : Numeral) : ℚ := n.digits * 10 ^ n.exponent

/-- A point of a decimal grid is read back as large as it is. -/
theorem Rounding.Point.read?_text (p : Point) (negative : Bool) : ∃ n,
    Numeral.read? ((if negative then ['-'] else []) ++ p.text) = some n ∧ n.negative = negative ∧
      n.size = p.digits * 10 ^ p.exponent := by
  refine ⟨_, p.plain_text.read?_signed negative, rfl, ?_⟩
  have ten : (10 : ℚ) ≠ 0 := by norm_num
  unfold Numeral.size
  push_cast
  rw [← zpow_natCast, mul_assoc, ← zpow_add₀ ten]
  congr 2
  omega

/-! ## Binary numbers -/

attribute [ext] Binary64

namespace Binary64

variable {a b : Binary64} {x : ℚ}

/-- The parts fit their fields. -/
structure Fits (b : Binary64) : Prop where
  exponent : b.exponent < 2048
  fraction : b.fraction < 2 ^ 52

theorem fits_ofBits (bits : UInt64) : (ofBits bits).Fits :=
  ⟨Nat.mod_lt _ (by decide), Nat.mod_lt _ (by decide)⟩

theorem ofBits_injective {bits bits' : UInt64} (same : ofBits bits = ofBits bits') :
    bits = bits' := by
  have bound := bits.toNat_lt
  have bound' := bits'.toNat_lt
  simp only [ofBits, Binary64.mk.injEq, decide_eq_decide] at same
  obtain ⟨sign, exponent, fraction⟩ := same
  refine UInt64.toNat.inj ?_
  omega

/-- Neither infinite nor undefined. -/
def IsFinite (b : Binary64) : Prop := b.exponent ≠ 2047

/-- No number. -/
def IsUndefined (b : Binary64) : Prop := b.exponent = 2047 ∧ b.fraction ≠ 0

/-- Zero of either sign. -/
abbrev IsZero (b : Binary64) : Prop := b.exponent = 0 ∧ b.fraction = 0

/-- How many last places a number is. -/
def significand (b : Binary64) : ℕ :=
  if b.exponent = 0 then b.fraction else 2 ^ 52 + b.fraction

/-- Half of the gap below a number, in quarters of the last place. -/
def gapBelow (b : Binary64) : ℕ := if b.fraction = 0 ∧ 1 < b.exponent then 1 else 2

theorem rounding_eq (b : Binary64) : b.rounding =
    { low := 4 * b.significand - b.gapBelow, middle := 4 * b.significand,
      high := 4 * b.significand + 2
      place := max b.exponent 1 - 1077, closed := b.significand % 2 = 0 } := rfl

theorem gapBelow_bounds (b : Binary64) : 1 ≤ b.gapBelow ∧ b.gapBelow ≤ 2 := by
  unfold gapBelow
  split <;> decide

theorem significand_pos (nonzero : ¬ b.IsZero) : 0 < b.significand := by
  unfold significand
  split <;> omega

theorem significand_lt (fits : b.Fits) : b.significand < 2 ^ 53 := by
  have fraction := fits.fraction
  unfold significand
  split <;> omega

/-- Numbers with the same last place are in the order of their significands. -/
theorem significand_lt_significand (fits : a.Fits) (samePlace : max a.exponent 1 = max b.exponent 1)
    (less : a.exponent < b.exponent ∨ a.exponent = b.exponent ∧ a.fraction < b.fraction) :
    a.significand < b.significand := by
  have fraction := fits.fraction
  unfold significand
  split <;> split <;> omega

/-- Above the least last place, what rounds to a number begins no lower than this. -/
theorem low_of_greater_place (above : 1 < b.exponent) :
    2 ^ 54 - 1 ≤ 4 * b.significand - b.gapBelow := by
  unfold significand gapBelow
  split <;> split <;> omega

/-- A finite number takes a size if the size rounds to it; zero takes nothing but zero. -/
def Takes (b : Binary64) (x : ℚ) : Prop :=
  if b.IsZero then x = 0 else b.rounding.Takes x

theorem takes_of_zero (zero : b.IsZero) : b.Takes x ↔ x = 0 := by
  unfold Takes
  rw [if_pos zero]

theorem takes_of_nonzero (nonzero : ¬ b.IsZero) : b.Takes x ↔ b.rounding.Takes x := by
  unfold Takes
  rw [if_neg nonzero]

/-- The shortest decimal of a number other than zero exists. -/
theorem exists_shortest (nonzero : ¬ b.IsZero) :
    ∃ p, b.rounding.shortest = some p ∧ b.rounding.Takes (p.digits * 10 ^ p.exponent) := by
  have positive := significand_pos nonzero
  have gap := b.gapBelow_bounds
  rw [rounding_eq]
  refine Rounding.exists_shortest ⟨?_, ?_⟩ ?_ <;> dsimp only <;> omega

/-- What a number other than zero takes is above zero. -/
theorem pos_of_takes (nonzero : ¬ b.IsZero) (takes : b.rounding.Takes x) : 0 < x := by
  have low : 0 < b.rounding.low := by
    have positive := significand_pos nonzero
    have gap := b.gapBelow_bounds
    rw [rounding_eq]
    dsimp only
    omega
  calc (0 : ℚ) < b.rounding.low * 2 ^ b.rounding.place :=
        mul_pos (Nat.cast_pos.mpr low) (zpow_pos two_pos _)
    _ ≤ x := takes.between.1

/-- **No size rounds to two numbers**: what rounds to the greater one begins where what
rounds to the less one ends, and the common end does not count for both. -/
theorem not_takes_of_less (fitsA : a.Fits)
    (less : a.exponent < b.exponent ∨ a.exponent = b.exponent ∧ a.fraction < b.fraction)
    (takesA : a.Takes x) : ¬ b.Takes x := by
  intro takesB
  have nonzero : ¬ b.IsZero := by omega
  rw [takes_of_nonzero nonzero] at takesB
  by_cases zero : a.IsZero
  · rw [takes_of_zero zero] at takesA
    exact absurd takesA (pos_of_takes nonzero takesB).ne'
  · rw [takes_of_nonzero zero] at takesA
    obtain ⟨shift, places⟩ : ∃ shift : ℕ, max b.exponent 1 = max a.exponent 1 + shift :=
      Nat.exists_eq_add_of_le (by omega)
    have placed : b.rounding.place = a.rounding.place + shift := by
      simp only [rounding_eq]
      omega
    obtain ⟨atMost, closed⟩ := takesA.overlap takesB placed
    simp only [rounding_eq, decide_eq_true_eq] at atMost closed
    cases shift with
    | zero =>
      -- neighbours at most, of which one is odd
      have ordered := significand_lt_significand fitsA places.symm less
      have gap := b.gapBelow_bounds
      rw [Nat.pow_zero, Nat.mul_one] at atMost closed
      omega
    | succ shift =>
      -- the greatest number with the lower place, which is odd, and the least one
      -- with the higher
      have greatest := significand_lt fitsA
      have least := low_of_greater_place (b := b) (by omega)
      have doubled : (4 * b.significand - b.gapBelow) * 2 ≤
          (4 * b.significand - b.gapBelow) * 2 ^ (shift + 1) :=
        Nat.mul_le_mul_left _ (Nat.le_self_pow (Nat.succ_ne_zero shift) 2)
      omega

/-- Numbers that take one size are the same but for the sign. -/
theorem eq_of_takes (fitsA : a.Fits) (fitsB : b.Fits) (takesA : a.Takes x) (takesB : b.Takes x) :
    a.exponent = b.exponent ∧ a.fraction = b.fraction := by
  by_contra unequal
  by_cases less : a.exponent < b.exponent ∨ a.exponent = b.exponent ∧ a.fraction < b.fraction
  · exact not_takes_of_less fitsA less takesA takesB
  · exact not_takes_of_less fitsB (by omega) takesB takesA

/-! ## The written form -/

theorem text_of_finite (finite : b.IsFinite) :
    b.text = (if b.negative then ['-'] else []) ++ b.magnitudeText := if_neg finite

theorem text_of_not_finite (infinite : ¬ b.IsFinite) : b.text =
    if b.fraction = 0 then (if b.negative then ['-'] else []) ++ ['i', 'n', 'f']
    else ['N', 'a', 'N'] :=
  if_pos (not_not.mp infinite)

theorem text_of_infinite (infinite : ¬ b.IsFinite) (whole : b.fraction = 0) :
    b.text = (if b.negative then ['-'] else []) ++ ['i', 'n', 'f'] :=
  (text_of_not_finite infinite).trans (if_pos whole)

theorem text_of_undefined (infinite : ¬ b.IsFinite) (some : b.fraction ≠ 0) :
    b.text = ['N', 'a', 'N'] :=
  (text_of_not_finite infinite).trans (if_neg some)

/-- **A finite number is read back** with its sign, and as a size that rounds to it. -/
theorem read?_text (finite : b.IsFinite) : ∃ n, Numeral.read? b.text = some n ∧
    n.negative = b.negative ∧ b.Takes n.size := by
  rw [text_of_finite finite]
  unfold magnitudeText
  by_cases zero : b.IsZero
  · rw [if_pos zero]
    have plain : Plain ['0'] 0 0 :=
      .whole (List.cons_ne_nil _ _) (List.forall_mem_singleton.mpr rfl)
    exact ⟨_, plain.read?_signed b.negative, rfl, (takes_of_zero zero).mpr (zero_mul _)⟩
  · rw [if_neg zero]
    obtain ⟨p, shortest, takes⟩ := exists_shortest zero
    obtain ⟨n, read, negative, size⟩ := p.read?_text b.negative
    rw [shortest]
    exact ⟨n, read, negative, (takes_of_nonzero zero).mpr (size ▸ takes)⟩

/-- Finite numbers are those whose written form is a numeral. -/
theorem isFinite_iff (b : Binary64) : b.IsFinite ↔ (Numeral.read? b.text).isSome = true := by
  by_cases finite : b.IsFinite
  · obtain ⟨n, read, -⟩ := read?_text finite
    simp [finite, read]
  · have word : Numeral.read? b.text = none := by
      rw [text_of_not_finite finite]
      split_ifs <;> rfl
    simp [finite, word]

theorem text_cancel_of_not_finite (infinite : ¬ a.IsFinite) (infinite' : ¬ b.IsFinite)
    (same : a.text = b.text) : a = b ∨ a.IsUndefined ∧ b.IsUndefined := by
  have signs : ∀ x y : Bool,
      (if x then ['-'] else []) = (if y then ['-'] else []) → x = y := by decide
  have words : ∀ x : Bool,
      (if x then ['-'] else []) ++ ['i', 'n', 'f'] ≠ ['N', 'a', 'N'] := by decide
  have exponent : a.exponent = 2047 := not_not.mp infinite
  have exponent' : b.exponent = 2047 := not_not.mp infinite'
  by_cases whole : a.fraction = 0 <;> by_cases whole' : b.fraction = 0
  · rw [text_of_infinite infinite whole, text_of_infinite infinite' whole'] at same
    have sign := signs _ _ (List.append_cancel_right same)
    exact .inl (Binary64.ext sign (exponent.trans exponent'.symm) (whole.trans whole'.symm))
  · rw [text_of_infinite infinite whole, text_of_undefined infinite' whole'] at same
    exact absurd same (words _)
  · rw [text_of_undefined infinite whole, text_of_infinite infinite' whole'] at same
    exact absurd same.symm (words _)
  · exact .inr ⟨⟨exponent, whole⟩, exponent', whole'⟩

/-- **The written form tells numbers apart**, but for those that are no numbers. -/
theorem text_cancel (fitsA : a.Fits) (fitsB : b.Fits) (same : a.text = b.text) :
    a = b ∨ a.IsUndefined ∧ b.IsUndefined := by
  have both : a.IsFinite ↔ b.IsFinite := by rw [isFinite_iff, isFinite_iff, same]
  by_cases finite : a.IsFinite
  · obtain ⟨n, read, negative, takes⟩ := read?_text finite
    obtain ⟨n', read', negative', takes'⟩ := read?_text (both.mp finite)
    rw [same, read'] at read
    cases read
    obtain ⟨exponent, fraction⟩ := eq_of_takes fitsA fitsB takes takes'
    exact .inl (Binary64.ext (negative.symm.trans negative') exponent fraction)
  · exact text_cancel_of_not_finite finite (mt both.mpr finite) same

/-- There is no comma in it. -/
theorem comma_not_mem_text (b : Binary64) : ',' ∉ b.text := by
  by_cases finite : b.IsFinite
  · rw [text_of_finite finite, List.mem_append, not_or]
    refine ⟨by split <;> decide, ?_⟩
    unfold magnitudeText
    split
    · decide
    · split
      · rename_i p _
        intro comma
        rcases p.plain_text.isDigit_or_point comma with digit | point
        · exact absurd digit (by decide)
        · exact absurd point (by decide)
      · exact List.not_mem_nil
  · rw [text_of_not_finite finite]
    split_ifs <;> decide

end Binary64

theorem toList_shortestText (bits : UInt64) :
    (shortestText bits).toList = (Binary64.ofBits bits).text :=
  String.toList_ofList

/-- **The written form tells bits apart**, but for those that are no number. -/
theorem shortestText_cancel {bits bits' : UInt64} (same : shortestText bits = shortestText bits') :
    bits = bits' ∨ (Binary64.ofBits bits).IsUndefined ∧ (Binary64.ofBits bits').IsUndefined := by
  have texts := congrArg String.toList same
  rw [toList_shortestText, toList_shortestText] at texts
  exact (Binary64.text_cancel (Binary64.fits_ofBits bits) (Binary64.fits_ofBits bits')
    texts).imp_left Binary64.ofBits_injective

end MarketConditions.Text
