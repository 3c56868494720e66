import Mathlib.Data.Int.ConditionallyCompleteOrder
import Mathlib.Order.ConditionallyCompleteLattice.Basic
import Mathlib.Order.WithBot
import MarketConditions.Proofs.Market.Cut
import MarketConditions.Proofs.Scalar.Order
import MarketConditions.Proofs.Structure.Swings

/-!
# The bars that break swings

Swings are found and broken in one pass, which looks at the top of a stack only. What it
finds is what one would find by looking at all bars: the stack holds the swings confirmed
so far that no bar has exceeded, the least extreme on top, and a bar takes off it those
that it is the first to exceed. This needs no bar to be defined. A bar without an extreme
is neither a swing nor does it break one.

- `Extremity.place`: floats in the order of a side, the further out the greater.
- `Extremity.StandsAt`: **what a swing is**, bar by bar; `Extremity.isPivot_iff`: it is
  what is looked for.
- `Extremity.Keeps`, `Extremity.BrokenAt`: no bar has exceeded it so far, and the
  first that does.
- `Extremity.Unbroken`: **what the stack holds**, kept by every bar (`Unbroken.step`) and
  so along the pass (`unbroken_stateAfter`).
- `Extremity.mem_breaks_iff`, `Extremity.lookup_breaks_iff`: **the bar that breaks a
  swing** is the first that exceeds it.
-/

namespace MarketConditions

open Scalar (Rank rank)

/-! ## The order of a side -/

namespace Extremity

/-- A place as seen from a side. -/
def outward : Extremity → Rank → Rank
  | high, a => a
  | low, a => a.mirror

/-- How far out a float is on a side. No float is less far out than the undefined one. -/
def place (e : Extremity) (x : Float) : WithBot Rank :=
  match rank x with
  | none => ⊥
  | some a => (e.outward a : WithBot Rank)

variable {e : Extremity} {x y : Float}

theorem bot_lt_place_iff : ⊥ < e.place x ↔ Scalar.isUndefined x = false := by
  rw [← Bool.not_eq_true, Scalar.isUndefined_iff_rank]
  unfold place
  cases rank x <;> simp

theorem beyond_iff_place : e.beyond x y = true ↔ ⊥ < e.place y ∧ e.place y < e.place x := by
  unfold place
  cases e <;> rw [beyond, decide_eq_true_iff, Scalar.lt_iff_rank] <;>
    cases rank x <;> cases rank y <;> simp [outward, Rank.mirror_lt_mirror_iff]

theorem atLeast_iff_place : e.atLeast x y = true ↔ ⊥ < e.place y ∧ e.place y ≤ e.place x := by
  unfold place
  cases e <;> rw [atLeast, decide_eq_true_iff, Scalar.le_iff_rank] <;>
    cases rank x <;> cases rank y <;> simp [outward, Rank.mirror_le_mirror_iff]

theorem beyond_eq_false (within : e.place x ≤ e.place y) : e.beyond x y = false := by
  rw [← Bool.not_eq_true, beyond_iff_place]
  exact fun further => further.2.not_ge within

theorem beyond_eq_false_iff (defined : ⊥ < e.place y) :
    e.beyond x y = false ↔ e.place x ≤ e.place y := by
  refine ⟨fun h => ?_, beyond_eq_false⟩
  rw [← Bool.not_eq_true, beyond_iff_place, not_and, not_lt] at h
  exact h defined

/-- Equal floats are equally far out. -/
theorem place_eq_of_beq (equal : (x == y) = true) : e.place x = e.place y := by
  obtain ⟨a, hx, hy⟩ := Scalar.beq_iff_rank.mp equal
  unfold place
  rw [hx, hy]

end Extremity

/-! ## Swings bar by bar -/

namespace Extremity

variable {α : Type} [Scalar α]

/-- A swing of strength `s` at a bar with extreme `x`: there are `s` bars on either side,
and it is further out than those before it and at least as far out as those after it. -/
structure StandsAt (e : Extremity) (s : Nat) (xs : List α) (i : Nat) (x : α) : Prop where
  here : xs[i]? = some x
  enough_before : s ≤ i
  enough_after : i + s < xs.length
  before : ∀ j y, xs[j]? = some y → i ≤ j + s → j < i → e.beyond x y = true
  after : ∀ j y, xs[j]? = some y → i < j → j ≤ i + s → e.atLeast x y = true

/-- What is looked for at a bar is a swing. -/
theorem isPivot_iff {e : Extremity} {s : Nat} {xs : List α} {i : Nat} :
    e.isPivot s xs i = true ↔ ∃ x, e.StandsAt s xs i x := by
  by_cases inside : i < xs.length
  · have right : (xs.drop (i + 1)).take s = (xs.take (i + 1 + s)).drop (i + 1) := by
      rw [List.drop_take, Nat.add_sub_cancel_left]
    unfold isPivot
    rw [List.drop_eq_getElem_cons inside]
    simp only [standsOut, right, Bool.and_eq_true, decide_eq_true_iff, List.all_eq_true,
      Column.mem_drop_take, List.length_take, List.length_drop]
    constructor
    · rintro ⟨⟨⟨low, high⟩, before⟩, after⟩
      exact ⟨xs[i], List.getElem?_eq_getElem inside, by omega, by omega,
        fun j y hy near earlier => before y ⟨j, hy, by omega, earlier⟩,
        fun j y hy later near => after y ⟨j, hy, later, by omega⟩⟩
    · rintro ⟨x, stands⟩
      cases (List.getElem?_eq_getElem inside).symm.trans stands.here
      have low := stands.enough_before
      have high := stands.enough_after
      exact ⟨⟨⟨by omega, by omega⟩,
        fun y ⟨j, hy, near, earlier⟩ => stands.before j y hy (by omega) earlier⟩,
        fun y ⟨j, hy, later, near⟩ => stands.after j y hy later (by omega)⟩
  · have outside : e.isPivot s xs i = false := by
      unfold isPivot
      rw [List.drop_eq_nil_of_le (Nat.not_lt.mp inside)]
    rw [outside]
    refine iff_of_false Bool.false_ne_true fun ⟨x, stands⟩ => inside ?_
    exact (List.getElem?_eq_some_iff.mp stands.here).1

/-- No bar after `i` and before `n` exceeds an extreme. -/
def Keeps (e : Extremity) (xs : List α) (i : Nat) (x : α) (n : Nat) : Prop :=
  ∀ j y, xs[j]? = some y → i < j → j < n → e.beyond y x = false

/-- The first bar after `i` that exceeds an extreme. -/
structure BrokenAt (e : Extremity) (xs : List α) (i : Nat) (x : α) (j : Nat) : Prop where
  later : i < j
  exceeded : ∃ y, xs[j]? = some y ∧ e.beyond y x = true
  first : e.Keeps xs i x j

variable {e : Extremity} {s : Nat} {xs : List α} {i j n : Nat} {x y : α}

/-- One more bar keeps to it, or does not. -/
theorem keeps_succ_iff (later : i < n) (here : xs[n]? = some y) :
    e.Keeps xs i x (n + 1) ↔ e.Keeps xs i x n ∧ e.beyond y x = false := by
  constructor
  · intro keeps
    exact ⟨fun j z hz after before => keeps j z hz after (by omega),
      keeps n y here later (Nat.lt_succ_self n)⟩
  · rintro ⟨keeps, last⟩ j z hz after before
    rcases Nat.lt_succ_iff_lt_or_eq.mp before with before | rfl
    · exact keeps j z hz after before
    · cases here.symm.trans hz
      exact last

/-- At most one bar is the first. -/
theorem BrokenAt.unique (hi : e.BrokenAt xs i x j) (hn : e.BrokenAt xs i x n) : j = n := by
  obtain ⟨y, hy, exceeds⟩ := hi.exceeded
  obtain ⟨z, hz, exceeds'⟩ := hn.exceeded
  rcases Nat.lt_trichotomy j n with before | same | after
  · rw [hn.first j y hy hi.later before] at exceeds
    cases exceeds
  · exact same
  · rw [hi.first n z hz hn.later after] at exceeds'
    cases exceeds'

/-- A swing is confirmed as many bars after it as are needed. -/
theorem confirmed_iff {found : Option (Nat × α)}
    (here : (Column.lag s none (e.pivots s xs))[n]? = some found) :
    found = some (i, x) ↔ i + s = n ∧ e.StandsAt s xs i x := by
  rw [Column.getElem?_lag, length_pivots] at here
  split at here
  case isFalse => cases here
  case isTrue inside =>
    by_cases early : n < s
    · rw [if_pos early] at here
      cases here
      exact iff_of_false nofun fun ⟨late, _⟩ => by omega
    · rw [if_neg early, getElem?_pivots] at here
      obtain ⟨y, hy, rfl⟩ := Option.map_eq_some_iff.mp here
      constructor
      · intro found
        split at found
        case isFalse => cases found
        case isTrue pivot =>
          cases found
          obtain ⟨z, stands⟩ := isPivot_iff.mp pivot
          cases hy.symm.trans stands.here
          exact ⟨by omega, stands⟩
      · rintro ⟨rfl, stands⟩
        rw [Nat.add_sub_cancel] at hy ⊢
        cases hy.symm.trans stands.here
        rw [if_pos (isPivot_iff.mpr ⟨_, stands⟩)]

end Extremity

/-! ## The pass -/

namespace Extremity

variable {e : Extremity} {s : Nat} {xs : List Float} {i j n : Nat} {x y : Float}

/-- The extreme of a swing is defined, since it exceeds another. -/
theorem StandsAt.defined (stands : e.StandsAt s xs i x) (positive : 1 ≤ s) : ⊥ < e.place x := by
  have low := stands.enough_before
  have high := stands.enough_after
  have further := stands.before (i - 1) _ (List.getElem?_eq_getElem (by omega))
    (by omega) (by omega)
  exact (beyond_iff_place.mp further).1.trans (beyond_iff_place.mp further).2

/-- The bars that confirm a swing do not break it. -/
theorem StandsAt.keeps (stands : e.StandsAt s xs i x) : e.Keeps xs i x (i + s + 1) := by
  intro j y hy later near
  have within := (atLeast_iff_place.mp (stands.after j y hy later (by omega))).2
  exact beyond_eq_false within

/-- The stack after `n` bars. It holds the swings confirmed before and not exceeded since,
and the less far out one is the nearer it is to the top. -/
structure Unbroken (e : Extremity) (s : Nat) (xs : List Float) (n : Nat) (pending : Pending Float) :
    Prop where
  holds : ∀ i x, (i, x) ∈ pending ↔ e.StandsAt s xs i x ∧ i + s < n ∧ e.Keeps xs i x n
  order : pending.Pairwise fun newer older => e.place newer.2 ≤ e.place older.2

theorem unbroken_nil (e : Extremity) (s : Nat) (xs : List Float) : e.Unbroken s xs 0 [] where
  holds _ _ := iff_of_false List.not_mem_nil fun h => absurd h.2.1 (Nat.not_lt_zero _)
  order := .nil

variable {pending : Pending Float} {found : Option (Nat × Float)}

/-- What a bar exceeds is on top. -/
theorem Unbroken.first (h : e.Unbroken s xs n pending) (positive : 1 ≤ s) (y : Float) :
    Bisect.First (fun p : Nat × Float => e.beyond y p.2) pending := by
  refine h.order.imp_of_mem fun {newer older} inside _ lower exceeded => ?_
  rw [beyond_iff_place] at exceeded ⊢
  have defined := ((h.holds newer.1 newer.2).mp inside).1.defined positive
  exact ⟨defined, lower.trans_lt exceeded.2⟩

/-- What a bar takes off are the swings that it is the first to exceed. -/
theorem Unbroken.broken (h : e.Unbroken s xs n pending) (positive : 1 ≤ s)
    (here : xs[n]? = some y) :
    i ∈ (e.breakStep pending (y, found)).2 ↔ ∃ x, e.StandsAt s xs i x ∧ e.BrokenAt xs i x n := by
  have removed : (e.breakStep pending (y, found)).2 =
      (pending.filter fun p => e.beyond y p.2).map Prod.fst := by
    rw [(h.first positive y).filter_eq_takeWhile]
    rfl
  rw [removed, List.mem_map]
  constructor
  · rintro ⟨⟨i, x⟩, held, rfl⟩
    obtain ⟨held, exceeded⟩ := List.mem_filter.mp held
    obtain ⟨stands, confirmed, keeps⟩ := (h.holds i x).mp held
    exact ⟨x, stands, by omega, ⟨y, here, exceeded⟩, keeps⟩
  · rintro ⟨x, stands, broken⟩
    obtain ⟨z, hz, exceeded⟩ := broken.exceeded
    cases here.symm.trans hz
    -- a bar that confirms a swing does not exceed it, so the swing has been
    -- confirmed before
    have confirmed : i + s < n := by
      by_contra late
      rw [stands.keeps n y here broken.later (by omega)] at exceeded
      cases exceeded
    exact ⟨(i, x), List.mem_filter.mpr
      ⟨(h.holds i x).mpr ⟨stands, confirmed, broken.first⟩, exceeded⟩, rfl⟩

/-- **One bar.** The stack holds what it should when a bar has been taken in. -/
theorem Unbroken.step (h : e.Unbroken s xs n pending) (positive : 1 ≤ s) (here : xs[n]? = some y)
    (confirmed : ∀ i x, found = some (i, x) ↔ i + s = n ∧ e.StandsAt s xs i x) :
    e.Unbroken s xs (n + 1) (e.breakStep pending (y, found)).1 := by
  have left : (e.breakStep pending (y, found)).1 =
      found.toList ++ pending.filter fun p => !e.beyond y p.2 := by
    rw [(h.first positive y).filter_not_eq_dropWhile]
    rfl
  have stays : ∀ i x, (i, x) ∈ pending.filter (fun p => !e.beyond y p.2) ↔
      e.StandsAt s xs i x ∧ i + s < n ∧ e.Keeps xs i x (n + 1) := by
    intro i x
    rw [List.mem_filter, h.holds, Bool.not_eq_true', and_assoc, and_assoc]
    refine and_congr_right fun _ => and_congr_right fun confirmed => ?_
    exact (keeps_succ_iff (by omega) here).symm
  rw [left]
  refine ⟨fun i x => ?_, List.pairwise_append.mpr ⟨?_, h.order.filter _, ?_⟩⟩
  · rw [List.mem_append, Option.mem_toList, confirmed, stays]
    constructor
    · rintro (⟨rfl, stands⟩ | ⟨stands, earlier, keeps⟩)
      · exact ⟨stands, Nat.lt_succ_self _, stands.keeps⟩
      · exact ⟨stands, by omega, keeps⟩
    · rintro ⟨stands, due, keeps⟩
      rcases Nat.lt_succ_iff_lt_or_eq.mp due with earlier | now
      · exact .inr ⟨stands, earlier, keeps⟩
      · exact .inl ⟨now, stands⟩
  · cases found <;> simp
  · -- the swing that is confirmed has not exceeded the ones before it
    rintro ⟨i, x⟩ new ⟨k, z⟩ old
    obtain ⟨rfl, stands⟩ := (confirmed i x).mp (Option.mem_toList.mp new)
    obtain ⟨older, earlier, keeps⟩ := (stays k z).mp old
    exact (beyond_eq_false_iff (older.defined positive)).mp
      (keeps i x stands.here (by omega) (by omega))

/-- **Along the pass.** The stack holds what it should after any number of bars. -/
theorem unbroken_stateAfter (positive : 1 ≤ s)
    (fits : n ≤ (xs.zip (Column.lag s none (e.pivots s xs))).length) :
    e.Unbroken s xs n (Column.stateAfter e.breakStep []
      ((xs.zip (Column.lag s none (e.pivots s xs))).take n)) := by
  refine Column.stateAfter_induction (unbroken_nil e s xs) ?_ fits
  rintro n pending ⟨y, found⟩ entry h
  obtain ⟨here, confirmed⟩ := List.getElem?_zip_eq_some.mp entry
  exact h.step positive here fun i x => confirmed_iff confirmed

/-- **The bar that breaks a swing** is the first that exceeds it. -/
theorem mem_breaks_iff (positive : 1 ≤ s) : (i, j) ∈ e.breaks s xs ↔
    ∃ x, e.StandsAt s xs i x ∧ e.BrokenAt xs i x j := by
  have listed : (i, j) ∈ e.breaks s xs ↔ ∃ swings, (Column.running e.breakStep []
      (xs.zip (Column.lag s none (e.pivots s xs))))[j]? = some swings ∧ i ∈ swings := by
    unfold breaks
    simp only [List.mem_flatMap, List.mem_map, Prod.mk.injEq, Prod.exists, Column.mem_numbered]
    constructor
    · rintro ⟨bar, swings, here, swing, taken, rfl, rfl⟩
      exact ⟨swings, here, taken⟩
    · rintro ⟨swings, here, taken⟩
      exact ⟨j, swings, here, i, taken, rfl, rfl⟩
  rw [listed, Column.getElem?_running]
  cases entry : (xs.zip (Column.lag s none (e.pivots s xs)))[j]? with
  | some bar =>
    obtain ⟨y, found⟩ := bar
    have inside := (List.getElem?_eq_some_iff.mp entry).1
    have taken : i ∈ (e.breakStep _ (y, found)).2 ↔ _ :=
      (unbroken_stateAfter positive (Nat.le_of_lt inside)).broken positive
        (List.getElem?_zip_eq_some.mp entry).1
    rw [← taken]
    simp
  | none =>
    -- there is no such bar
    refine iff_of_false nofun ?_
    rintro ⟨x, -, broken⟩
    obtain ⟨y, hy, -⟩ := broken.exceeded
    have inside := (List.getElem?_eq_some_iff.mp hy).1
    have outside := List.getElem?_eq_none_iff.mp entry
    rw [List.length_zip, Column.length_lag, length_pivots, Nat.min_self] at outside
    omega

/-- So a swing is found with that bar. -/
theorem lookup_breaks_iff (positive : 1 ≤ s) (stands : e.StandsAt s xs i x) :
    (e.breaks s xs).lookup i = some j ↔ e.BrokenAt xs i x j := by
  have broken : ∀ j, (i, j) ∈ e.breaks s xs ↔ e.BrokenAt xs i x j := by
    intro j
    rw [mem_breaks_iff positive]
    constructor
    · rintro ⟨y, again, broken⟩
      cases stands.here.symm.trans again.here
      exact broken
    · exact fun broken => ⟨x, stands, broken⟩
  rw [← broken]
  refine ⟨mem_of_lookup, fun listed => ?_⟩
  cases found : (e.breaks s xs).lookup i with
  | none =>
    have different := List.lookup_eq_none_iff.mp found _ listed
    simp at different
  | some first => rw [((broken first).mp (mem_of_lookup found)).unique ((broken j).mp listed)]

end Extremity

end MarketConditions
