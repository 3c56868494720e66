import Mathlib.Tactic.Common
import MarketConditions.Proofs.Text.Quoted
import MarketConditions.Proofs.Text.Shortest
import MarketConditions.Page.Key

/-!
# The written form of a key can be read in one way only

The parameters of a key are written one behind the other with commas between them, and a
text may contain commas itself. Yet a parameter ends in one place only: integers and
floats are written without commas, and behind a text stands the first quote that is not
escaped. A tag in front says which of these it is.

- `Param.Canonical`: parameters as they are made.
- `Param.eq_of_shortestText`: floats that are written alike are the same parameter.
- `Param.render_cancel`: **parameters that go on alike** are the same, and go on
  with the same.
- `ParamKey.render_unambiguous`: **keys that are written alike are the same**.
-/

namespace MarketConditions

open Text

namespace Param

/-! ## Floats -/

/-- A parameter as it is made: one that holds a floating-point number was made from one. -/
def Canonical : Param → Prop
  | float bits => ∃ x : Float, ofFloat x = float bits
  | _ => True

theorem canonical_ofFloat (x : Float) : (ofFloat x).Canonical := ⟨x, rfl⟩

open Float.Model in
/-- Machine floats have one pattern of bits that is no number. -/
theorem toBits_of_isUndefined {x : Float} (undefined : (Binary64.ofBits x.toBits).IsUndefined) :
    x.toBits = 0x7ff8000000000000 := by
  obtain ⟨exponent, fraction⟩ := undefined
  have pattern : x.toBits.toBitVec = UnpackedFloat.packedNaN .binary64 := by
    refine x.toModel.valid.eq_packedNaN ?_ ?_
    · refine BitVec.eq_of_toNat_eq ?_
      show x.toBits.toNat >>> 52 % 2 ^ 11 = 2047
      rw [Nat.shiftRight_eq_div_pow]
      exact exponent
    · intro none
      exact fraction (congrArg BitVec.toNat none)
  exact UInt64.toBitVec_inj.mp pattern

/-- A parameter that is no number holds this pattern, whatever it was made from. -/
theorem bits_of_isUndefined {bits : UInt64} (canonical : (float bits).Canonical)
    (undefined : (Binary64.ofBits bits).IsUndefined) : bits = 0x7ff8000000000000 := by
  obtain ⟨x, made⟩ := canonical
  unfold ofFloat at made
  split_ifs at made with missing zero
  · cases made
    rfl
  · cases made
    exact absurd undefined.1 (by decide)
  · cases made
    exact toBits_of_isUndefined undefined

/-- **Floats that are written alike** are the same parameter. -/
theorem eq_of_shortestText {bits bits' : UInt64} (canonical : (float bits).Canonical)
    (canonical' : (float bits').Canonical) (same : shortestText bits = shortestText bits') :
    bits = bits' := by
  rcases shortestText_cancel same with equal | ⟨undefined, undefined'⟩
  · exact equal
  · rw [bits_of_isUndefined canonical undefined, bits_of_isUndefined canonical' undefined']

/-! ## Where a parameter ends -/

/-- What may stand behind a parameter: nothing, or a comma with what it separates. -/
def Closes (u : List Char) : Prop := ∀ c ∈ u.head?, c = ','

theorem takeWhile_append_of_closes {s u : List Char} (none : ',' ∉ s) (closes : Closes u) :
    (s ++ u).takeWhile (· ≠ ',') = s := by
  have all : ∀ c ∈ s, decide (c ≠ ',') = true :=
    fun c hc => decide_eq_true (ne_of_mem_of_not_mem hc none)
  rw [List.takeWhile_append_of_pos all]
  cases u with
  | nil => exact List.append_nil s
  | cons c u =>
    cases closes c rfl
    exact List.append_nil s

/-- Texts without commas end where a comma follows. -/
theorem cancel_of_closes {s t u v : List Char} (noneS : ',' ∉ s) (noneT : ',' ∉ t)
    (closesU : Closes u) (closesV : Closes v) (same : s ++ u = t ++ v) :
    s = t ∧ u = v := by
  have first := congrArg (List.takeWhile (· ≠ ',')) same
  rw [takeWhile_append_of_closes noneS closesU, takeWhile_append_of_closes noneT closesV] at first
  cases first
  exact ⟨rfl, List.append_cancel_left same⟩

theorem comma_not_mem_toString (n : Int) : ',' ∉ (toString n).toList := by
  have digits (n : Nat) : ',' ∉ n.repr.toList := by
    rw [Nat.toList_repr]
    intro comma
    exact absurd (isDigit_of_mem_toDigits comma) (by decide)
  rw [Int.toString_eq_repr, Int.repr_eq_if]
  split
  · exact digits _
  · rw [String.toList_append, List.mem_append, not_or]
    exact ⟨by decide, digits _⟩

/-! ## One parameter -/

theorem toList_render (p : Param) : p.render.toList =
    match p with
    | int n => 'i' :: ':' :: (toString n).toList
    | float bits => 'f' :: ':' :: (shortestText bits).toList
    | text s => 's' :: ':' :: Quoted.encode s.toList := by
  cases p <;> simp [render]

/-- **Parameters that go on alike** are the same, and go on with the same. -/
theorem render_cancel {p q : Param} (canonicalP : p.Canonical) (canonicalQ : q.Canonical)
    {u v : List Char} (closesU : Closes u) (closesV : Closes v)
    (same : p.render.toList ++ u = q.render.toList ++ v) : p = q ∧ u = v := by
  rw [toList_render, toList_render] at same
  cases p with
  | int n =>
    cases q with
    | int m =>
      simp only [List.cons_append, List.cons.injEq, true_and] at same
      obtain ⟨texts, rfl⟩ := cancel_of_closes (comma_not_mem_toString n) (comma_not_mem_toString m)
        closesU closesV same
      have read := readInteger?_toString n
      rw [texts, readInteger?_toString] at read
      cases read
      exact ⟨rfl, rfl⟩
    | float _ => cases same
    | text _ => cases same
  | float bits =>
    cases q with
    | float bits' =>
      simp only [List.cons_append, List.cons.injEq, true_and] at same
      have comma (bits : UInt64) : ',' ∉ (shortestText bits).toList := by
        rw [toList_shortestText]
        exact Binary64.comma_not_mem_text _
      obtain ⟨texts, rfl⟩ := cancel_of_closes (comma bits) (comma bits') closesU closesV same
      rw [String.toList_inj] at texts
      exact ⟨congrArg float (eq_of_shortestText canonicalP canonicalQ texts), rfl⟩
    | int _ => cases same
    | text _ => cases same
  | text s =>
    cases q with
    | text t =>
      simp only [List.cons_append, List.cons.injEq, true_and] at same
      obtain ⟨texts, rfl⟩ := Quoted.encode_cancel same
      rw [String.toList_inj] at texts
      exact ⟨congrArg text texts, rfl⟩
    | int _ => cases same
    | float _ => cases same

/-! ## Parameters in turn -/

/-- How a parameter behind others is written. -/
def following (p : Param) : List Char := ',' :: p.render.toList

theorem closes_following (ps : List Param) : Closes (ps.flatMap following) := by
  cases ps with
  | nil => exact fun _ none => nomatch none
  | cons p ps =>
    rintro c ⟨⟩
    rfl

theorem following_cancel {ps qs : List Param} (canonicalP : ∀ p ∈ ps, p.Canonical)
    (canonicalQ : ∀ q ∈ qs, q.Canonical) (same : ps.flatMap following = qs.flatMap following) :
    ps = qs := by
  induction ps generalizing qs with
  | nil =>
    cases qs with
    | nil => rfl
    | cons q qs => cases same
  | cons p ps ih =>
    cases qs with
    | nil => cases same
    | cons q qs =>
      obtain ⟨first, rest⟩ := List.forall_mem_cons.mp canonicalP
      obtain ⟨first', rest'⟩ := List.forall_mem_cons.mp canonicalQ
      obtain ⟨rfl, behind⟩ := render_cancel first first' (closes_following ps) (closes_following qs)
        (List.tail_eq_of_cons_eq same)
      rw [ih rest rest' behind]

end Param

namespace ParamKey

open Param

/-- A key is written as its first parameter and those that follow. -/
theorem toList_render_cons (p : Param) (ps : List Param) :
    (render (p :: ps)).toList = p.render.toList ++ ps.flatMap following := by
  unfold render
  rw [String.toList_intercalate, List.map_map]
  induction ps generalizing p with
  | nil => simp
  | cons q ps ih =>
    rw [List.map_cons, List.map_cons, List.intercalate_cons_cons, ← List.map_cons, ih,
      List.flatMap_cons, following]
    simp

theorem render_ne_empty (p : Param) (ps : List Param) : render (p :: ps) ≠ render [] := by
  intro same
  have texts := congrArg String.toList same
  rw [toList_render_cons, Param.toList_render] at texts
  cases p <;> cases texts

/-- **Keys that are written alike are the same**, if their floats were made from numbers:
however many parameters each of them has, and whatever their texts contain. -/
theorem render_unambiguous (a b : ParamKey) (canonical : ∀ p ∈ a ++ b, p.Canonical) :
    a.render = b.render ↔ a = b := by
  refine ⟨fun same => ?_, congrArg render⟩
  obtain ⟨canonicalA, canonicalB⟩ := List.forall_mem_append.mp canonical
  cases a with
  | nil =>
    cases b with
    | nil => rfl
    | cons q qs => exact absurd same.symm (render_ne_empty q qs)
  | cons p ps =>
    cases b with
    | nil => exact absurd same (render_ne_empty p ps)
    | cons q qs =>
      obtain ⟨first, rest⟩ := List.forall_mem_cons.mp canonicalA
      obtain ⟨first', rest'⟩ := List.forall_mem_cons.mp canonicalB
      have texts := congrArg String.toList same
      rw [toList_render_cons, toList_render_cons] at texts
      obtain ⟨rfl, behind⟩ :=
        render_cancel first first' (closes_following ps) (closes_following qs) texts
      rw [following_cancel rest rest' behind]

/-- One text that spells out the end of a text, a comma and the beginning of the next,
and two texts. -/
theorem render_unambiguous_tagged_text :
    let one : ParamKey := [.ofFloat 0.1, .text "a\",s:\"b", .int (-1)]
    let two : ParamKey := [.ofFloat 0.1, .text "a", .text "b", .int (-1)]
    (∀ p ∈ one ++ two, p.Canonical) ∧ one.render ≠ two.render := by
  intro one two
  have canonical : ∀ p ∈ one ++ two, p.Canonical := by
    simp only [one, two, List.cons_append, List.nil_append, List.forall_mem_cons]
    exact ⟨canonical_ofFloat _, trivial, trivial, canonical_ofFloat _, trivial, trivial, trivial,
      fun _ none => nomatch none⟩
  refine ⟨canonical, fun same => ?_⟩
  have equal : one = two := (render_unambiguous one two canonical).mp same
  exact absurd (congrArg List.length equal) (by decide)

end ParamKey

end MarketConditions
