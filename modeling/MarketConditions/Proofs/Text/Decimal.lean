import Mathlib.Algebra.Group.Nat.Defs
import Mathlib.Tactic.Common
import MarketConditions.Text.Decimal
import MarketConditions.Text.Shortest

/-!
# Integers and plain decimals are read back

A plain decimal has digits, a point between them perhaps, and no exponent. It is read
back digit by digit, whatever its length, behind a minus as well. So is an integer,
which has no point.

- `readInteger?_toString`: **a written integer is read back**.
- `Plain`: plain decimals with the number that their digits spell and the count of places
  behind the point.
- `Plain.read?_signed`: **a plain decimal is read back**.
- `Rounding.Point.plain_text`: points of a decimal grid are written as plain decimals.
-/

namespace MarketConditions.Text

/-! ## Digits -/

theorem spelled_eq (digits : List Char) : spelled digits = Nat.ofDigitChars 10 digits 0 := by
  unfold spelled
  rw [Nat.ofDigitChars_eq_foldl]
  simp only [Nat.mul_comm]

theorem spelled_toDigits (n : Nat) : spelled (Nat.toDigits 10 n) = n := by
  rw [spelled_eq, Nat.ofDigitChars_ten_toDigits]

theorem spelled_append_zeros (digits : List Char) (count : Nat) :
    spelled (digits ++ List.replicate count '0') = spelled digits * 10 ^ count := by
  rw [spelled_eq, spelled_eq, Nat.ofDigitChars_append,
    Nat.ofDigitChars_replicate_zero, Nat.mul_comm]

theorem spelled_zeros_append (count : Nat) (digits : List Char) :
    spelled (List.replicate count '0' ++ digits) = spelled digits := by
  rw [spelled_eq, spelled_eq, Nat.ofDigitChars_append,
    Nat.ofDigitChars_replicate_zero, Nat.mul_zero]

theorem isDigit_of_mem_toDigits {n : Nat} {c : Char} (digit : c ∈ Nat.toDigits 10 n) :
    c.isDigit = true :=
  Nat.isDigit_of_mem_toDigits (by decide) (by decide) digit

theorem isDigit_of_mem_zeros {count : Nat} {c : Char} (zero : c ∈ List.replicate count '0') :
    c.isDigit = true := by
  rw [List.eq_of_mem_replicate zero]
  rfl

/-- Digits are all split off where none follows. -/
theorem leadingDigits_append {digits : List Char} (all : ∀ c ∈ digits, c.isDigit = true)
    (rest : List Char) (behind : leadingDigits rest = ([], rest)) :
    leadingDigits (digits ++ rest) = (digits, rest) := by
  unfold leadingDigits at behind ⊢
  obtain ⟨take, drop⟩ := Prod.mk.inj behind
  rw [List.takeWhile_append_of_pos all, List.dropWhile_append_of_pos all, take, drop,
    List.append_nil]

theorem leadingDigits_of_digits {digits : List Char} (all : ∀ c ∈ digits, c.isDigit = true) :
    leadingDigits digits = (digits, []) := by
  have split := leadingDigits_append all [] rfl
  rwa [List.append_nil] at split

theorem sign_of_digit {c : Char} (digit : c.isDigit = true) (rest : List Char) :
    sign (c :: rest) = (false, c :: rest) := by
  unfold sign
  split
  · rename_i minus
    cases minus
    cases digit
  · rename_i plus
    cases plus
    cases digit
  · rfl

/-- A sign in front of a digit, if there is one. -/
theorem sign_signed {c : Char} (digit : c.isDigit = true) (rest : List Char) (negative : Bool) :
    sign ((if negative then ['-'] else []) ++ c :: rest) = (negative, c :: rest) := by
  cases negative with
  | true => rfl
  | false => exact sign_of_digit digit rest

/-! ## Integers -/

theorem readInteger?_signed (n : Nat) (negative : Bool) :
    readInteger? ((if negative then ['-'] else []) ++ Nat.toDigits 10 n) =
      some (if negative then -(n : Int) else n) := by
  have split := leadingDigits_of_digits fun _ => isDigit_of_mem_toDigits (n := n)
  have spells := spelled_toDigits n
  obtain ⟨c, rest, digits⟩ := List.exists_cons_of_ne_nil (Nat.toDigits_ne_nil (n := n) (b := 10))
  have digit : c.isDigit = true :=
    isDigit_of_mem_toDigits (n := n) (by rw [digits]; exact List.mem_cons_self)
  rw [digits] at split spells
  unfold readInteger?
  rw [digits]
  simp only [sign_signed digit, split, spells]

/-- **A written integer is read back.** -/
theorem readInteger?_toString (n : Int) : readInteger? (toString n).toList = some n := by
  rw [Int.toString_eq_repr, Int.repr_eq_if]
  split
  · rename_i nonneg
    rw [Nat.toList_repr]
    have read := readInteger?_signed n.toNat false
    rw [if_neg Bool.false_ne_true, Int.toNat_of_nonneg nonneg] at read
    exact read
  · rename_i negative
    rw [String.toList_append, Nat.toList_repr]
    have nonneg : 0 ≤ -n := by omega
    have read := readInteger?_signed (-n).toNat true
    rw [if_pos rfl, if_pos rfl, Int.toNat_of_nonneg nonneg, Int.neg_neg] at read
    exact read

/-! ## Plain decimals -/

/-- A text of digits, with a point between them perhaps, the number that the digits spell,
and the count of places behind the point. -/
inductive Plain : List Char → Nat → Nat → Prop
  | whole {digits : List Char} (nonempty : digits ≠ []) (all : ∀ c ∈ digits, c.isDigit = true) :
    Plain digits (spelled digits) 0
  | point {before behind : List Char} (nonempty : before ≠ [])
    (all : ∀ c ∈ before ++ behind, c.isDigit = true) :
    Plain (before ++ '.' :: behind) (spelled (before ++ behind)) behind.length

namespace Plain

variable {cs : List Char} {digits places : Nat}

/-- A plain decimal begins with a digit. -/
theorem head (plain : Plain cs digits places) : ∃ c rest, cs = c :: rest ∧ c.isDigit = true := by
  cases plain with
  | whole nonempty all =>
    obtain ⟨c, rest, rfl⟩ := List.exists_cons_of_ne_nil nonempty
    exact ⟨c, rest, rfl, all c List.mem_cons_self⟩
  | point nonempty all =>
    obtain ⟨c, rest, rfl⟩ := List.exists_cons_of_ne_nil nonempty
    exact ⟨c, _, rfl, all c List.mem_cons_self⟩

theorem isDigit_or_point (plain : Plain cs digits places) {c : Char} (mem : c ∈ cs) :
    c.isDigit = true ∨ c = '.' := by
  cases plain with
  | whole nonempty all => exact .inl (all c mem)
  | point nonempty all =>
    rcases List.mem_append.mp mem with before | behind
    · exact .inl (all c (List.mem_append_left _ before))
    · rcases List.mem_cons.mp behind with point | behind
      · exact .inr point
      · exact .inl (all c (List.mem_append_right _ behind))

/-- What is read behind the sign. -/
theorem parts (plain : Plain cs digits places) : ∃ before behind rest,
    leadingDigits cs = (before, rest) ∧ fraction rest = (behind, []) ∧
      (before ++ behind.getD []).isEmpty = false ∧
      spelled (before ++ behind.getD []) = digits ∧ (behind.getD []).length = places := by
  cases plain with
  | whole nonempty all =>
    refine ⟨cs, none, [], leadingDigits_of_digits all, rfl, ?_, ?_, rfl⟩
    · simpa using nonempty
    · simp
  | @point before behind nonempty all =>
    have split := leadingDigits_append (fun c hc => all c (List.mem_append_left _ hc))
      ('.' :: behind) rfl
    have last := leadingDigits_of_digits fun c hc => all c (List.mem_append_right _ hc)
    have pointed : fraction ('.' :: behind) = (some behind, []) := by
      show (some (leadingDigits behind).1, (leadingDigits behind).2) = _
      rw [last]
    refine ⟨before, some behind, '.' :: behind, split, pointed, ?_, rfl, rfl⟩
    simp [nonempty]

/-- Digits become a plain decimal where a point is set between them. -/
theorem set_point {ds : List Char} (all : ∀ c ∈ ds, c.isDigit = true) {n : Nat}
    (inside : n < ds.length) :
    Plain (ds.take (ds.length - n) ++ '.' :: ds.drop (ds.length - n)) (spelled ds) n := by
  have whole : ds.take (ds.length - n) ++ ds.drop (ds.length - n) = ds :=
    List.take_append_drop ..
  have nonempty : ds.take (ds.length - n) ≠ [] :=
    List.ne_nil_of_length_pos (by rw [List.length_take]; omega)
  have count : (ds.drop (ds.length - n)).length = n := by
    rw [List.length_drop]
    omega
  have pointed := Plain.point nonempty (whole.symm ▸ all)
  rwa [whole, count] at pointed

/-- **A plain decimal is read back**, behind a minus as well. -/
theorem read?_signed (plain : Plain cs digits places) (negative : Bool) :
    Numeral.read? ((if negative then ['-'] else []) ++ cs) = some ⟨negative, digits, -places⟩ := by
  have signed : sign ((if negative then ['-'] else []) ++ cs) = (negative, cs) := by
    obtain ⟨c, rest, rfl, digit⟩ := plain.head
    exact sign_signed digit rest negative
  obtain ⟨before, behind, rest, split, pointed, nonempty, spells, count⟩ := plain.parts
  unfold Numeral.read?
  simp only [signed, split, pointed, nonempty, spells, count, Numeral.exponent?]
  simp

end Plain

/-! ## Points of a decimal grid -/

namespace Rounding.Point

/-- **A point of a decimal grid** is written as a plain decimal: the number of its digits
with zeros up to the unit, and as many places as it has. -/
theorem plain_text (p : Point) :
    Plain p.text (p.digits * 10 ^ p.exponent.toNat) (-p.exponent).toNat := by
  have digits : ∀ c ∈ Nat.toDigits 10 p.digits, c.isDigit = true := fun c => isDigit_of_mem_toDigits
  unfold text
  split_ifs with whole
  · have all : ∀ c ∈ Nat.toDigits 10 p.digits ++ List.replicate p.exponent.toNat '0',
        c.isDigit = true :=
      List.forall_mem_append.mpr ⟨digits, fun c => isDigit_of_mem_zeros⟩
    have plain := Plain.whole (List.append_ne_nil_of_left_ne_nil Nat.toDigits_ne_nil _) all
    rw [spelled_append_zeros, spelled_toDigits] at plain
    have places : (-p.exponent).toNat = 0 := by omega
    rwa [places]
  · -- zeros are put in front until a digit stands before the point
    have all : ∀ c ∈
        List.replicate (p.exponent.natAbs + 1 - (Nat.toDigits 10 p.digits).length) '0' ++
          Nat.toDigits 10 p.digits, c.isDigit = true :=
      List.forall_mem_append.mpr ⟨fun c => isDigit_of_mem_zeros, digits⟩
    have places : (-p.exponent).toNat = p.exponent.natAbs := by omega
    have plain := Plain.set_point all (n := p.exponent.natAbs)
      (by rw [List.length_append, List.length_replicate]; omega)
    rw [spelled_zeros_append, spelled_toDigits] at plain
    rw [Int.toNat_of_nonpos (by omega), Nat.pow_zero, Nat.mul_one, places]
    exact plain

end Rounding.Point

end MarketConditions.Text
