import MarketConditions.Indicator.Average

/-!
# Causal column functions

A column function is causal when the first entries of its result need only the first
entries of what it is made of: cutting the column off after some bar and working it
out, or working it out and cutting the result off, come to the same. No entry then
depends on a later bar.

- `Column.Causal`: **the notion**, as an equation on prefixes.
- `Causal.map`, `Causal.zipWith`, `Causal.comp`: causality is compositional, so an
  indicator is causal by the way it is put together.
- `causal_running`, `causal_lag`, `causal_seeded`, `causal_afterUndefined`: the columns that
  indicators are put together from.
- `stateAfter_induction`, `mem_numbered`, `mem_drop_take`: what a carried state, a
  numbered column and a run of bars hold, entry by entry; `getElem?_running_of_states`: a
  column whose states are known.
- `running_map`: steps that match give the same column.
-/

namespace MarketConditions.Column

variable {α β γ δ σ : Type}

/-- The result has an entry for each entry of the argument, and its first entries are made
of the first entries of the argument alone. -/
structure Causal (f : List α → List β) : Prop where
  take : ∀ k xs, f (xs.take k) = (f xs).take k
  length : ∀ xs, (f xs).length = xs.length

/-! ## Putting causal functions together -/

theorem causal_self : Causal fun xs : List α => xs := ⟨fun _ _ => rfl, fun _ => rfl⟩

theorem Causal.comp {g : List β → List γ} {f : List α → List β} (hg : Causal g) (hf : Causal f) :
    Causal fun xs => g (f xs) where
  take k xs := by rw [hf.take, hg.take]
  length xs := by rw [hg.length, hf.length]

/-- Entries may be changed one by one. -/
theorem Causal.map {f : List α → List β} (hf : Causal f) (g : β → γ) :
    Causal fun xs => (f xs).map g where
  take k xs := by rw [hf.take, List.map_take]
  length xs := by rw [List.length_map, hf.length]

/-- Two columns may be combined bar by bar. -/
theorem Causal.zipWith {f : List α → List β} {g : List α → List γ} (hf : Causal f)
    (hg : Causal g) (h : β → γ → δ) : Causal fun xs => List.zipWith h (f xs) (g xs) where
  take k xs := by rw [hf.take, hg.take, List.take_zipWith]
  length xs := by rw [List.length_zipWith, hf.length, hg.length, Nat.min_self]

theorem Causal.zip {f : List α → List β} {g : List α → List γ} (hf : Causal f) (hg : Causal g) :
    Causal fun xs => (f xs).zip (g xs) := hf.zipWith hg Prod.mk

/-- Nothing comes of nothing. -/
theorem Causal.nil {f : List α → List β} (hf : Causal f) : f [] = [] :=
  List.eq_nil_of_length_eq_zero (hf.length [])

/-- A choice that does not look at the column may be made. -/
theorem Causal.ite {f g : List α → List β} (c : Prop) [Decidable c] (hf : Causal f)
    (hg : Causal g) : Causal fun xs => if c then f xs else g xs := by
  by_cases h : c
  · simp only [if_pos h]
    exact hf
  · simp only [if_neg h]
    exact hg

/-- Columns that agree up to a bar have the same entry at it. -/
theorem entry_of_take {xs ys : List α} {bar : Nat} (same : xs.take (bar + 1) = ys.take (bar + 1)) :
    xs[bar]? = ys[bar]? := by
  have here := congrArg (·[bar]?) same
  simpa [List.getElem?_take] using here

/-- Columns that agree up to a bar go to columns that agree up to it. -/
theorem Causal.congr {f : List α → List β} (hf : Causal f) {xs ys : List α} {k : Nat}
    (agree : xs.take k = ys.take k) : (f xs).take k = (f ys).take k := by
  rw [← hf.take, agree, hf.take]

/-- Only bars that are there need be cut off. -/
theorem Causal.of_fits {f : List α → List β} (length : ∀ xs, (f xs).length = xs.length)
    (h : ∀ k xs, k ≤ xs.length → f (xs.take k) = (f xs).take k) : Causal f := by
  refine ⟨fun k xs => ?_, length⟩
  by_cases fits : k ≤ xs.length
  · exact h k xs fits
  · have all := length xs
    rw [List.take_of_length_le (by omega), List.take_of_length_le (by omega)]

/-! ## The columns that indicators are put together from -/

theorem causal_running (step : σ → α → σ × β) (s : σ) : Causal (running step s) :=
  ⟨fun k xs => (take_running step s xs k).symm, length_running step s⟩

/-- What holds of the first state, and is handed on by each step, holds of the
state at a bar. -/
theorem stateAfter_induction {step : σ → α → σ × β} {s : σ} {xs : List α} {P : Nat → σ → Prop}
    (first : P 0 s) (next : ∀ i t x, xs[i]? = some x → P i t → P (i + 1) (step t x).1) {n : Nat}
    (inside : n ≤ xs.length) : P n (stateAfter step s (xs.take n)) := by
  induction n with
  | zero => exact first
  | succ n ih =>
    have here : xs[n]? = some xs[n] := List.getElem?_eq_getElem inside
    have held := next n _ _ here (ih (by omega))
    rw [List.take_add_one, here]
    unfold stateAfter at held ⊢
    rwa [Option.toList_some, List.foldl_append, List.foldl_cons, List.foldl_nil]

/-- Where the states are known, so are the entries. -/
theorem getElem?_running_of_states {step : σ → α → σ × β} {xs : List α} (state : Nat → σ)
    (entry : Nat → β)
    (steps : ∀ i x, xs[i]? = some x → step (state i) x = (state (i + 1), entry i)) {i : Nat}
    (inside : i < xs.length) : (running step (state 0) xs)[i]? = some (entry i) := by
  have here : xs[i]? = some xs[i] := List.getElem?_eq_getElem inside
  have held : stateAfter step (state 0) (xs.take i) = state i :=
    stateAfter_induction (P := fun i s => s = state i) rfl
      (fun i s x hx hs => by rw [hs, steps i x hx]) (Nat.le_of_lt inside)
  rw [getElem?_running, here, Option.map_some, held, steps i _ here]

/-- An entry of a moved column is the fill or an entry from before. -/
theorem getElem?_lag (k : Nat) (fill : α) (xs : List α) (i : Nat) :
    (lag k fill xs)[i]? =
      if i < xs.length then if i < k then some fill else xs[i - k]? else none := by
  unfold lag
  rw [List.getElem?_take]
  by_cases inside : i < xs.length
  · rw [if_pos inside, if_pos inside]
    by_cases early : i < k
    · have front : i < (List.replicate (Nat.min k xs.length) fill).length := by
        rw [List.length_replicate]
        exact Nat.lt_min.mpr ⟨early, inside⟩
      rw [if_pos early, List.getElem?_append_left front, List.getElem?_replicate, if_pos]
      exact Nat.lt_min.mpr ⟨early, inside⟩
    · have moved : Nat.min k xs.length = k := Nat.min_eq_left (by omega)
      rw [if_neg early, moved, List.getElem?_append_right (by rw [List.length_replicate]; omega),
        List.length_replicate]
  · rw [if_neg inside, if_neg inside]

theorem causal_lag (k : Nat) (fill : α) : Causal (lag k fill) := by
  refine ⟨fun n xs => ?_, length_lag k fill⟩
  apply List.ext_getElem?
  intro i
  rw [List.getElem?_take, getElem?_lag, getElem?_lag, List.length_take, List.getElem?_take]
  by_cases kept : i < n
  · rw [if_pos kept, if_pos (show i - k < n by omega)]
    by_cases inside : i < xs.length
    · rw [if_pos inside, if_pos (by omega)]
    · rw [if_neg inside, if_neg (by omega)]
  · rw [if_neg kept, if_neg (by omega)]

/-- The entries from one bar up to, and not including, another. -/
theorem mem_drop_take {xs : List α} {first last : Nat} {x : α} :
    x ∈ (xs.take last).drop first ↔ ∃ i, xs[i]? = some x ∧ first ≤ i ∧ i < last := by
  rw [List.mem_iff_getElem?]
  constructor
  · rintro ⟨k, hk⟩
    rw [List.getElem?_drop, List.getElem?_take] at hk
    split at hk
    · exact ⟨_, hk, by omega, by assumption⟩
    · cases hk
  · rintro ⟨i, hi, low, high⟩
    exact ⟨i - first, by rw [List.getElem?_drop, List.getElem?_take, Nat.add_sub_cancel' low,
      if_pos high, hi]⟩

@[simp] theorem length_numbered (xs : List α) : (numbered xs).length = xs.length := by
  simp [numbered]

theorem causal_numbered : Causal (numbered : List α → List (Nat × α)) := by
  refine ⟨fun k xs => ?_, length_numbered⟩
  show List.zipWith Prod.mk (List.range (xs.take k).length) (xs.take k) =
    (List.zipWith Prod.mk (List.range xs.length) xs).take k
  rw [List.take_zipWith, List.take_range, List.length_take]

/-- An entry stands beside its bar. -/
theorem getElem?_numbered (xs : List α) (i : Nat) : (numbered xs)[i]? = xs[i]?.map (i, ·) := by
  show (List.zipWith Prod.mk (List.range xs.length) xs)[i]? = xs[i]?.map (i, ·)
  rw [List.getElem?_zipWith']
  by_cases inside : i < xs.length
  · rw [List.getElem?_range inside]
    rfl
  · rw [List.getElem?_eq_none (l := List.range xs.length) (by rw [List.length_range]; omega),
      List.getElem?_eq_none (l := xs) (by omega)]
    rfl

theorem mem_numbered {xs : List α} {i : Nat} {x : α} :
    (i, x) ∈ numbered xs ↔ xs[i]? = some x := by
  rw [List.mem_iff_getElem?]
  simp only [getElem?_numbered, Option.map_eq_some_iff, Prod.mk.injEq]
  constructor
  · rintro ⟨k, y, hy, rfl, rfl⟩
    exact hy
  · intro here
    exact ⟨i, x, here, rfl, rfl⟩

/-- The first entries stand beside the first bars. -/
theorem mem_take_numbered {xs : List α} {k : Nat} {entry : Nat × α}
    (h : entry ∈ (numbered xs).take k) : entry.1 < k := by
  obtain ⟨i, hi⟩ := List.mem_iff_getElem?.mp h
  rw [List.getElem?_take, getElem?_numbered] at hi
  split at hi
  · obtain ⟨x, -, rfl⟩ := Option.map_eq_some_iff.mp hi
    assumption
  · cases hi

/-- Later entries stand beside later bars. -/
theorem mem_drop_numbered {xs : List α} {k : Nat} {entry : Nat × α}
    (h : entry ∈ (numbered xs).drop k) : k ≤ entry.1 := by
  obtain ⟨i, hi⟩ := List.mem_iff_getElem?.mp h
  rw [List.getElem?_drop, getElem?_numbered] at hi
  obtain ⟨x, -, rfl⟩ := Option.map_eq_some_iff.mp hi
  exact Nat.le_add_right _ _

theorem causal_trailing (p : Nat) : Causal (trailing p : List α → List (List α)) :=
  causal_running _ _

theorem take_updates (next : β → α → β) (s : β) (xs : List α) (k : Nat) :
    updates next s (xs.take k) = (updates next s xs).take (k + 1) := by
  induction xs generalizing s k with
  | nil =>
    show updates next s ([].take k) = [s].take (k + 1)
    rw [List.take_nil, List.take_succ_cons, List.take_nil]
    rfl
  | cons x xs ih =>
    cases k with
    | zero => rfl
    | succ k =>
      show s :: updates next (next s x) (xs.take k) = s :: (updates next (next s x) xs).take (k + 1)
      rw [ih]

theorem causal_seeded (p : Nat) (seed : List α → β) (next : β → α → β) :
    Causal (seeded p seed next) := by
  refine ⟨fun k xs => ?_, length_seeded p seed next⟩
  unfold seeded
  by_cases short : p = 0 ∨ xs.length < p
  · have shorter : p = 0 ∨ (xs.take k).length < p := by
      rw [List.length_take]
      omega
    rw [if_pos short, if_pos shorter, List.map_take]
  · rw [if_neg short]
    by_cases cut : k < p
    · -- the column is cut off before its first value
      have before : p = 0 ∨ (xs.take k).length < p := by
        rw [List.length_take]
        omega
      rw [if_pos before, List.take_append_of_le_length (by rw [List.length_replicate]; omega),
        List.take_replicate, List.map_const', List.length_take]
      congr 1
      omega
    · -- the undefined start is whole, and the cut falls among the values
      have full : ¬ (p = 0 ∨ (xs.take k).length < p) := by
        rw [List.length_take]
        omega
      have start : (List.replicate (p - 1) (none : Option β)).take k =
          List.replicate (p - 1) none := by
        rw [List.take_replicate, Nat.min_eq_right (by omega)]
      have rest : k - (p - 1) = k - p + 1 := by omega
      rw [if_neg full, List.take_take, Nat.min_eq_left (by omega), List.drop_take, take_updates,
        List.take_append, List.length_replicate, start, rest, List.map_take]

/-- Entries paired with the ones before them. -/
theorem take_zipWith_cons (f : α → α → β) (x : α) (xs : List α) (k : Nat) :
    List.zipWith f (xs.take k) (x :: xs.take k) = (List.zipWith f xs (x :: xs)).take k := by
  induction xs generalizing x k with
  | nil => rw [List.take_nil, List.zipWith_nil_left, List.take_nil]
  | cons y xs ih =>
    cases k with
    | zero => rfl
    | succ k =>
      show f y x :: List.zipWith f (xs.take k) (y :: xs.take k) =
        f y x :: (List.zipWith f xs (y :: xs)).take k
      rw [ih]

theorem causal_minus [Scalar β] {f g : List α → List β} (hf : Causal f) (hg : Causal g) :
    Causal fun xs => minus (f xs) (g xs) := hf.zipWith hg _

theorem causal_midway [Scalar β] {f g : List α → List β} (hf : Causal f) (hg : Causal g) :
    Causal fun xs => midway (f xs) (g xs) := hf.zipWith hg _

theorem causal_allUndefined [Scalar β] : Causal (allUndefined : List α → List β) :=
  causal_self.map _

/-- Behind an undefined start a causal function is still causal: where the start ends is
seen when it ends. -/
theorem causal_afterUndefined [Scalar α] {f : List α → List α} (hf : Causal f) :
    Causal (afterUndefined f) := by
  refine ⟨fun k xs => ?_, fun xs => ?_⟩
  rotate_left
  · unfold afterUndefined
    rw [List.length_append, hf.length, ← List.length_append, List.takeWhile_append_dropWhile]
  -- along the undefined start; at the first defined entry all the rest is left to `f`
  induction xs generalizing k with
  | nil => simp [afterUndefined, hf.nil]
  | cons x xs ih =>
    cases k with
    | zero => simp [afterUndefined, hf.nil]
    | succ k =>
      by_cases undefined : Scalar.isUndefined x
      · have more : ∀ ys, afterUndefined f (x :: ys) = x :: afterUndefined f ys := by
          intro ys
          simp [afterUndefined, undefined]
        rw [List.take_succ_cons, more, more, ih, List.take_succ_cons]
      · have starts : ∀ ys, afterUndefined f (x :: ys) = f (x :: ys) := by
          intro ys
          simp [afterUndefined, undefined]
        rw [List.take_succ_cons, starts, starts, ← List.take_succ_cons, hf.take]

theorem causal_withLeaving [Scalar α] (p : Nat) :
    Causal (Average.withLeaving p : List α → List (Nat × α × Option α)) :=
  causal_numbered.comp (causal_self.zip ((causal_lag p none).comp (causal_self.map some)))

/-! ## Columns changed entry by entry -/

theorem numbered_map (f : α → β) (xs : List α) :
    numbered (xs.map f) = (numbered xs).map (Prod.map id f) := by
  apply List.ext_getElem?
  intro i
  rw [getElem?_numbered, List.getElem?_map, List.getElem?_map, getElem?_numbered,
    Option.map_map, Option.map_map]
  rfl

theorem lag_map (f : α → β) (k : Nat) (fill : α) (xs : List α) :
    lag k (f fill) (xs.map f) = (lag k fill xs).map f := by
  unfold lag
  rw [List.length_map, ← List.map_replicate, ← List.map_append, List.map_take]

/-- **A simulation.** If each step takes matching states to matching states, and gives the
same entry, then all of them do. -/
theorem running_map {α' σ' : Type} {step : σ → α → σ × β} {step' : σ' → α' → σ' × β}
    (state : σ → σ') (entry : α → α')
    (matching : ∀ s x, step' (state s) (entry x) = (state (step s x).1, (step s x).2))
    (s : σ) (xs : List α) :
    running step' (state s) (xs.map entry) = running step s xs := by
  induction xs generalizing s with
  | nil => rfl
  | cons x xs ih =>
    rw [List.map_cons]
    unfold running
    rw [matching, ih]

end MarketConditions.Column
