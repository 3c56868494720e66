import MarketConditions.Proofs.Scalar.Exact
import MarketConditions.Proofs.Scalar.Order

/-!
# Opposite numbers

What is worked out from opposite numbers comes out opposite, if negation is exact. On
machine floats it is: it only turns the sign round, and rounding looks at magnitudes.
Only the sign of a zero may come out either way, as `x - x` is the positive zero for
every number `x`.

- `Scalar.Opposed`: opposite by value, or undefined both.
- `Scalar.ExactNegation`: **arithmetic in which negation is exact** and turns
  the order round.
- `Scalar.ofComponents`: what the components of a float make, packed or not; the opposite
  number has the same ones but for the sign (`Scalar.ofComponents_neg`).
- `Scalar.rank_neg`: the place of an opposite number.
- `Scalar.exactNegation_float`, `Exact.exactNegation`: **floats are such an arithmetic**,
  and so is the exact one.
-/

namespace MarketConditions

namespace Scalar

section

variable {α : Type} [Scalar α]

/-- The second number is the opposite of the first by value, or neither is defined. -/
def Opposed (x x' : α) : Prop := Same x' (-x)

theorem opposed_neg (x : α) : Opposed x (-x) := by
  unfold Opposed Same isUndefined
  cases -x == -x <;> simp

/-- Negation is exact and turns the order round: opposite numbers compare the other way,
and their sums, differences, multiples and fractions are opposite. -/
class ExactNegation (α : Type) [Scalar α] : Prop where
  lt_iff {x x' y y' : α} : Opposed x x' → Opposed y y' → (x' < y' ↔ y < x)
  le_iff {x x' y y' : α} : Opposed x x' → Opposed y y' → (x' ≤ y' ↔ y ≤ x)
  beq {x x' y y' : α} : Opposed x x' → Opposed y y' → (x' == y') = (x == y)
  add {x x' y y' : α} : Opposed x x' → Opposed y y' → Opposed (x + y) (x' + y')
  sub {x x' y y' : α} : Opposed x x' → Opposed y y' → Opposed (x - y) (x' - y')
  mul {x x' : α} (k : α) : Opposed x x' → Opposed (x * k) (x' * k)
  div {x x' : α} (k : α) : Opposed x x' → Opposed (x / k) (x' / k)
  zero : Opposed (0 : α) 0
  undefined : Opposed (Scalar.undefined : α) Scalar.undefined

/-- A number is defined if its opposite is. -/
theorem Opposed.isUndefined [ExactNegation α] {x x' : α} (h : Opposed x x') :
    isUndefined x' = isUndefined x := by
  unfold Scalar.isUndefined
  rw [ExactNegation.beq h h]

end

/-! ## Floats -/

open Float.Model UnpackedFloat

namespace Rank

theorem ofParts_neg (p : UnpackedFloat) : ofParts p.neg = (ofParts p).map mirror := by
  cases p with
  | notANumber => rfl
  | zero s => rfl
  | infinity s => cases s <;> rfl
  | finite s m e _ =>
    cases s with
    | negative =>
      show some (of 1 e m) = some (of (- -1) (- -e) (- -m))
      rw [neg_neg, neg_neg, neg_neg]
    | positive => rfl

end Rank

/-! ### Packing and unpacking -/

/-- The sign that was packed is read back. -/
theorem sign_packComponents (s : Sign) (e : BitVec Format.binary64.exponentBits)
    (m : BitVec Format.binary64.mantissaBitsWithoutImplicit) :
    Sign.ofBitVec (unpackSign (packComponents .binary64 s e m)) = s := by
  delta unpackSign packComponents BitVec.extractLsb
  rw [BitVec.extractLsb'_append_eq_of_le (Nat.le_add_right ..),
    BitVec.extractLsb'_append_eq_of_le (Nat.le_of_eq (Nat.add_sub_cancel_left ..).symm)]
  cases s <;> rfl

/-- A significand with its leading bit. -/
theorem toNat_lead (m : BitVec 52) : (1#1 ++ m).toNat = 2 ^ 52 + m.toNat := by
  rw [BitVec.toNat_append, ← Nat.shiftLeft_add_eq_or_of_lt m.isLt]
  rfl

/-- What a sign, an exponent and a significand without its leading bit make. -/
def ofComponents (s : Sign) (e : BitVec 11) (m : BitVec 52) : UnpackedFloat :=
  if e = -1#11 then if m = 0#52 then .infinity s else .notANumber
  else if e = 0#11 then
    if h : m = 0#52 then .zero s
    else .finite s m.toNat ((e.toNat - 1075 : ℤ) + 1)
      (Nat.pos_of_ne_zero fun zero => h (BitVec.eq_of_toNat_eq zero))
  else .finite s (1#1 ++ m).toNat (e.toNat - 1075) (by rw [toNat_lead]; omega)

theorem unpack_eq (b : BitVec Format.binary64.numBits) :
    UnpackedFloat.unpack .binary64 b =
      ofComponents (Sign.ofBitVec (unpackSign b)) (unpackExponent b) (unpackMantissa b) := rfl

theorem unpack_packComponents (s : Sign) (e : BitVec 11) (m : BitVec 52) :
    UnpackedFloat.unpack .binary64 (packComponents .binary64 s e m) = ofComponents s e m := by
  rw [unpack_eq, sign_packComponents, unpackMantissa_packComponents,
    unpackExponent_packComponents]

/-- How a finite number is packed, with the widths of the format written out. -/
theorem pack_finite (s : Sign) (m : ℕ) (e : ℤ) (positive : 0 < m) :
    UnpackedFloat.pack .binary64 (.finite s m e positive) =
      if 2 ^ 11 ≤ (e + 1023 + 52).toNat + 1 then packedInfinity .binary64 s
      else if m.log2 + 1 = 53 then
        packComponents .binary64 s (.ofNat 11 (e + 1023 + 52).toNat) (.ofNat 52 m)
      else packComponents .binary64 s 0#11 (.ofNat 52 m) := rfl

section

variable {s : Sign} {e : BitVec 11} {m : BitVec 52}

/-- A significand without its leading bit is packed under the exponent zero. -/
theorem pack_subnormal (positive : 0 < m.toNat) :
    UnpackedFloat.pack .binary64 (.finite s m.toNat (((0#11).toNat - 1075 : ℤ) + 1) positive) =
      packComponents .binary64 s 0#11 m := by
  have short : m.toNat.log2 < 52 := (Nat.log2_lt (by omega)).mpr m.isLt
  rw [pack_finite, if_neg (by decide), if_neg (by omega), BitVec.ofNat_toNat, BitVec.setWidth_eq]

/-- A significand with its leading bit is packed without it. -/
theorem pack_normal (bounded : e ≠ -1#11) (positive : 0 < (1#1 ++ m).toNat) :
    UnpackedFloat.pack .binary64 (.finite s (1#1 ++ m).toNat (e.toNat - 1075) positive) =
      packComponents .binary64 s e m := by
  have lead := toNat_lead m
  have long : (1#1 ++ m).toNat.log2 = 52 :=
    (Nat.log2_eq_iff (by omega)).mpr ⟨by omega, by omega⟩
  have biased : ((e.toNat - 1075 : ℤ) + 1023 + 52).toNat = e.toNat := by omega
  have below : e.toNat ≠ 2047 := fun largest => bounded (BitVec.eq_of_toNat_eq largest)
  have rest : BitVec.ofNat 52 (1#1 ++ m).toNat = m := by
    rw [BitVec.ofNat_toNat, BitVec.setWidth_append]
    simp
  rw [pack_finite, biased, if_neg (by omega), long, if_pos rfl, BitVec.ofNat_toNat,
    BitVec.setWidth_eq, rest]

end

/-- What components make is the same once it has been packed and unpacked again. -/
theorem unpack_pack_ofComponents (s : Sign) (e : BitVec 11) (m : BitVec 52) :
    (Float.Model.pack (ofComponents s e m)).unpack = ofComponents s e m := by
  by_cases largest : e = -1#11
  · unfold ofComponents
    rw [if_pos largest]
    split
    · cases s <;> rfl
    · rfl
  · by_cases least : e = 0#11
    · subst least
      by_cases zero : m = 0#52
      · subst zero
        cases s <;> rfl
      · have subnormal : ofComponents s 0#11 m = .finite s m.toNat _ _ :=
          (if_neg largest).trans ((if_pos rfl).trans (dif_neg zero))
        show UnpackedFloat.unpack .binary64 (UnpackedFloat.pack .binary64 _) = _
        rw [subnormal, pack_subnormal, unpack_packComponents, subnormal]
    · have normal : ofComponents s e m = .finite s (1#1 ++ m).toNat _ _ :=
        (if_neg largest).trans (if_neg least)
      show UnpackedFloat.unpack .binary64 (UnpackedFloat.pack .binary64 _) = _
      rw [normal, pack_normal largest, unpack_packComponents, normal]

/-- Only the sign of the opposite number is another. -/
theorem ofComponents_neg (s : Sign) (e : BitVec 11) (m : BitVec 52) :
    ofComponents (-s) e m = (ofComponents s e m).neg := by
  unfold ofComponents
  rw [apply_ite UnpackedFloat.neg, apply_ite UnpackedFloat.neg, apply_ite UnpackedFloat.neg,
    apply_dite UnpackedFloat.neg]
  rfl

theorem unpack_packComponents_neg (s : Sign) (e : BitVec 11) (m : BitVec 52) :
    UnpackedFloat.unpack .binary64 (packComponents .binary64 (-s) e m) =
      (UnpackedFloat.unpack .binary64 (packComponents .binary64 s e m)).neg := by
  rw [unpack_packComponents, unpack_packComponents, ofComponents_neg]

theorem unpack_pack_neg (p : UnpackedFloat) :
    (Float.Model.pack p.neg).unpack = (Float.Model.pack p).unpack.neg := by
  cases p with
  | notANumber => rfl
  | zero s => exact unpack_packComponents_neg s _ _
  | infinity s => exact unpack_packComponents_neg s _ _
  | finite s m e positive =>
    show UnpackedFloat.unpack .binary64 (UnpackedFloat.pack .binary64 (.finite (-s) m e positive)) =
      (UnpackedFloat.unpack .binary64 (UnpackedFloat.pack .binary64 (.finite s m e positive))).neg
    rw [pack_finite, pack_finite]
    split
    · exact unpack_packComponents_neg s _ _
    · split <;> exact unpack_packComponents_neg s _ _

/-! ### Places -/

/-- **The place of an opposite number** is the opposite place. -/
theorem rank_neg (x : Float) : rank (-x) = (rank x).map Rank.mirror := by
  have same : (Float.Model.pack x.toModel.unpack).unpack = x.toModel.unpack :=
    unpack_pack_ofComponents ..
  show Rank.ofParts (Float.Model.pack x.toModel.unpack.neg).unpack = _
  rw [unpack_pack_neg, same, Rank.ofParts_neg]
  rfl

/-- Opposite numbers stand at opposite places. -/
theorem opposed_iff_rank {x x' : Float} : Opposed x x' ↔ rank x' = (rank x).map Rank.mirror := by
  unfold Opposed
  rw [same_iff_rank, rank_neg]

/-! ### Arithmetic on parts -/

namespace Rank

/-- Rounding looks at magnitudes. -/
theorem roundWithAccuracy_neg (spec : Format) (s : Sign) (m : ℕ) (e : ℤ) (a : Accuracy) :
    roundWithAccuracy spec (-s) m e a = (roundWithAccuracy spec s m e a).neg := by
  delta roundWithAccuracy
  exact .symm (.trans (apply_dite UnpackedFloat.neg ..) rfl)

theorem round_neg (spec : Format) (s : Sign) (m : ℕ) (e : ℤ) :
    UnpackedFloat.round spec (-s) m e = (UnpackedFloat.round spec s m e).neg :=
  roundWithAccuracy_neg ..

/-- An opposite mantissa makes the opposite number, but that a zero is given its sign. -/
theorem ofParts_normalize_neg (spec : Format) (m e : ℤ) (zero : Sign) :
    ofParts (UnpackedFloat.normalize spec (-m) e zero) =
      ofParts (UnpackedFloat.normalize spec m e zero).neg := by
  unfold UnpackedFloat.normalize
  rcases lt_trichotomy m 0 with below | rfl | above
  · rw [compare_gt_iff_gt.mpr (neg_pos.mpr below), compare_lt_iff_lt.mpr below, ← round_neg]
    rfl
  · rfl
  · rw [compare_lt_iff_lt.mpr (neg_lt_zero.mpr above), compare_gt_iff_gt.mpr above, ← round_neg,
      neg_neg]
    rfl

theorem apply_neg (s : Sign) (n : ℤ) : (-s).apply n = -s.apply n := by
  cases s
  · exact (neg_neg n).symm
  · rfl

theorem ofParts_add_neg (spec : Format) (p q : UnpackedFloat) :
    ofParts (p.neg.add spec q.neg) = ofParts (p.add spec q).neg := by
  cases p <;> cases q
  case finite.finite s m e _ t n f _ =>
    refine .trans (congrArg (ofParts <| normalize spec · _ _) ?_) (ofParts_normalize_neg ..)
    rw [apply_neg, apply_neg, neg_add]
  case infinity.infinity s t | zero.zero s t => cases s <;> cases t <;> rfl
  all_goals rfl

theorem ofParts_sub_neg (spec : Format) (p q : UnpackedFloat) :
    ofParts (p.neg.sub spec q.neg) = ofParts (p.sub spec q).neg := by
  cases p <;> cases q
  case finite.finite s m e _ t n f _ =>
    refine .trans (congrArg (ofParts <| normalize spec · _ _) ?_) (ofParts_normalize_neg ..)
    rw [apply_neg, apply_neg, neg_sub_neg, neg_sub]
  case infinity.infinity s t | zero.zero s t => cases s <;> cases t <;> rfl
  all_goals rfl

theorem sign_neg_mul (s t : Sign) : -s * t = -(s * t) := by
  cases s <;> cases t <;> rfl

theorem sign_neg_div (s t : Sign) : -s / t = -(s / t) := by
  cases s <;> cases t <;> rfl

theorem neg_mul (spec : Format) (p q : UnpackedFloat) : p.neg.mul spec q = (p.mul spec q).neg := by
  cases p <;> cases q
  case finite.finite =>
    exact .trans (congrArg (roundWithAccuracy spec · _ _ _) (sign_neg_mul ..))
      (roundWithAccuracy_neg ..)
  case infinity.infinity | infinity.finite | finite.infinity =>
    exact congrArg UnpackedFloat.infinity (sign_neg_mul ..)
  case zero.zero | zero.finite | finite.zero => exact congrArg UnpackedFloat.zero (sign_neg_mul ..)
  all_goals rfl

theorem neg_div (spec : Format) (p q : UnpackedFloat) : p.neg.div spec q = (p.div spec q).neg := by
  cases p <;> cases q
  case finite.finite =>
    exact .trans (congrArg (roundWithAccuracy spec · _ _ _) (sign_neg_div ..))
      (roundWithAccuracy_neg ..)
  case infinity.zero | infinity.finite | finite.zero =>
    exact congrArg UnpackedFloat.infinity (sign_neg_div ..)
  case zero.infinity | zero.finite | finite.infinity =>
    exact congrArg UnpackedFloat.zero (sign_neg_div ..)
  all_goals rfl

end Rank

/-- Where an operation on parts makes the opposite place, it makes the opposite number. -/
theorem opposed_of_parts {x x' : Float} {p p' : UnpackedFloat}
    (hx : x.toModel = Float.Model.pack p) (hx' : x'.toModel = Float.Model.pack p')
    (opposite : Rank.ofParts p' = Rank.ofParts p.neg) : Opposed x x' := by
  rw [opposed_iff_rank]
  unfold rank
  rw [hx, hx', Rank.ofParts_pack opposite, unpack_pack_neg, Rank.ofParts_neg]

/-- Opposite numbers have opposite parts, but for the sign of zero. -/
theorem Opposed.parts {x x' : Float} (h : Opposed x x') :
    Rank.ofParts x'.toModel.unpack = Rank.ofParts x.toModel.unpack.neg := by
  rw [Rank.ofParts_neg]
  exact opposed_iff_rank.mp h

/-! ### The laws -/

instance exactNegation_float : ExactNegation Float where
  lt_iff hx hy := by
    rw [opposed_iff_rank] at hx hy
    rw [lt_iff_rank, lt_iff_rank, hx, hy]
    cases rank _ <;> cases rank _ <;> simp [Rank.mirror_lt_mirror_iff]
  le_iff hx hy := by
    rw [opposed_iff_rank] at hx hy
    rw [le_iff_rank, le_iff_rank, hx, hy]
    cases rank _ <;> cases rank _ <;> simp [Rank.mirror_le_mirror_iff]
  beq hx hy := by
    rw [opposed_iff_rank] at hx hy
    rw [Bool.eq_iff_iff, beq_iff_rank, beq_iff_rank, hx, hy]
    cases rank _ <;> cases rank _ <;> simp [Rank.mirror_inj]
  add {x x' y y'} hx hy :=
    opposed_of_parts (rfl : (x + y).toModel = _) (rfl : (x' + y').toModel = _)
      ((Rank.ofParts_add .binary64 hx.parts hy.parts).trans (Rank.ofParts_add_neg ..))
  sub {x x' y y'} hx hy :=
    opposed_of_parts (rfl : (x - y).toModel = _) (rfl : (x' - y').toModel = _)
      ((Rank.ofParts_sub .binary64 hx.parts hy.parts).trans (Rank.ofParts_sub_neg ..))
  mul {x x'} k hx :=
    opposed_of_parts (rfl : (x * k).toModel = _) (rfl : (x' * k).toModel = _)
      ((Rank.ofParts_mul .binary64 hx.parts rfl).trans (congrArg _ (Rank.neg_mul ..)))
  div {x x'} k hx :=
    opposed_of_parts (rfl : (x / k).toModel = _) (rfl : (x' / k).toModel = _)
      ((Rank.ofParts_dividend .binary64 _ hx.parts).trans (congrArg _ (Rank.neg_div ..)))
  zero := by rw [opposed_iff_rank]; rfl
  undefined := by rw [opposed_iff_rank]; rfl

end Scalar

/-! ## Exact numbers -/

namespace Exact

theorem opposed_iff {x x' : Exact} : Scalar.Opposed x x' ↔ x' = -x := by
  unfold Scalar.Opposed Scalar.Same
  rw [beq_iff, isUndefined_iff, isUndefined_iff]
  constructor
  · rintro (⟨same, -⟩ | ⟨rfl, opposite⟩)
    · exact same
    · exact opposite.symm
  · rintro rfl
    by_cases h : -x = undefined
    · exact .inr ⟨h, h⟩
    · exact .inl ⟨rfl, h⟩

instance exactNegation : Scalar.ExactNegation Exact where
  lt_iff {x x' y y'} hx hy := by
    rw [opposed_iff] at hx hy
    subst hx hy
    show Exact.lt (Exact.neg x) (Exact.neg y) ↔ Exact.lt y x
    rcases x with _ | (_ | _) | x <;> rcases y with _ | (_ | _) | y <;> simp [Exact.lt, Exact.neg]
  le_iff {x x' y y'} hx hy := by
    rw [opposed_iff] at hx hy
    subst hx hy
    show Exact.le (Exact.neg x) (Exact.neg y) ↔ Exact.le y x
    rcases x with _ | (_ | _) | x <;> rcases y with _ | (_ | _) | y <;> simp [Exact.le, Exact.neg]
  beq {x x' y y'} hx hy := by
    rw [opposed_iff] at hx hy
    subst hx hy
    show Exact.beq (Exact.neg x) (Exact.neg y) = Exact.beq x y
    rcases x with _ | (_ | _) | x <;> rcases y with _ | (_ | _) | y <;> simp [Exact.beq, Exact.neg]
  add {x x' y y'} hx hy := by
    rw [opposed_iff] at hx hy ⊢
    subst hx hy
    show Exact.add (Exact.neg x) (Exact.neg y) = Exact.neg (Exact.add x y)
    rcases x with _ | (_ | _) | x <;> rcases y with _ | (_ | _) | y <;>
      simp [Exact.add, Exact.neg, add_comm]
  sub {x x' y y'} hx hy := by
    rw [opposed_iff] at hx hy ⊢
    subst hx hy
    show Exact.add (Exact.neg x) (Exact.neg (Exact.neg y)) = Exact.neg (Exact.add x (Exact.neg y))
    rcases x with _ | (_ | _) | x <;> rcases y with _ | (_ | _) | y <;>
      simp [Exact.add, Exact.neg, add_comm]
  mul {x x'} k hx := by
    rw [opposed_iff] at hx ⊢
    subst hx
    show Exact.mul (Exact.neg x) k = Exact.neg (Exact.mul x k)
    rcases x with _ | s | x <;> rcases k with _ | t | y
    case number.number => exact congrArg number (neg_mul x y)
    case number.infinite =>
      rcases lt_trichotomy x 0 with below | rfl | above
      · simp [Exact.mul, Exact.neg, below, below.ne, below.not_gt]
      · simp [Exact.mul, Exact.neg]
      · simp [Exact.mul, Exact.neg, above, above.ne', above.not_gt]
    case infinite.number => by_cases zero : y = 0 <;> simp [Exact.mul, Exact.neg, zero]
    all_goals simp [Exact.mul, Exact.neg]
  div {x x'} k hx := by
    rw [opposed_iff] at hx ⊢
    subst hx
    show Exact.div (Exact.neg x) k = Exact.neg (Exact.div x k)
    rcases x with _ | s | x <;> rcases k with _ | t | y
    case number.number => by_cases zero : y = 0 <;> simp [Exact.div, Exact.neg, zero, neg_div]
    case infinite.number => by_cases zero : y = 0 <;> simp [Exact.div, Exact.neg, zero]
    all_goals simp [Exact.div, Exact.neg]
  zero := by rw [opposed_iff]; simp
  undefined := by rw [opposed_iff]; rfl

end Exact

end MarketConditions
