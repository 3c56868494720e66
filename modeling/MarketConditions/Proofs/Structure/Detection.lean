import MarketConditions.Proofs.Structure.Breaks
import MarketConditions.Proofs.Structure.Peaks

/-!
# All swings are found

Detection finds what one would find by comparing every bar with its neighbours, and by
looking for the bar that breaks a swing from the swing on. Bars may lack a high or a low,
and several may share one.

- `Swing.Formed`: **what a swing of some candles is**, by comparisons between bars alone.
- `mem_detectSwings`, `mem_detectSwings_iff`: what is found at each bar, and what
  there is to find.
- `swings_all_found`: **all swings are found**, and nothing else.
-/

namespace MarketConditions

/-! ## What is found -/

section

variable {α : Type} [Scalar α]

/-- A swing of strength `s` of some candles. It stands at its bar and is confirmed `s`
bars later. The bar that breaks it is the first that exceeds it, and its dominance counts
the bars in between, or those that are left if there is none. -/
structure Swing.Formed (s : Nat) (candles : List (Candle α)) (w : Swing α) : Prop where
  stands : w.side.StandsAt s (candles.map w.side.price) w.index w.price
  time : (candles[w.index]?).map Candle.time = some w.time
  confirmed : w.confirmedAt = w.index + s
  broken : ∀ j, w.brokenAt = some j ↔
    w.side.BrokenAt (candles.map w.side.price) w.index w.price j
  dominance : w.dominance = match w.brokenAt with
    | some j => j - w.index - 1
    | none => candles.length - 1 - w.index

/-- A swing is told by its side and its bar. -/
theorem Swing.Formed.unique {s : Nat} {candles : List (Candle α)} {x y : Swing α}
    (hx : x.Formed s candles) (hy : y.Formed s candles) (side : x.side = y.side)
    (index : x.index = y.index) : x = y := by
  obtain ⟨i, time, price, e, confirmedAt, dominance, brokenAt⟩ := x
  obtain ⟨j, time', price', e', confirmedAt', dominance', brokenAt'⟩ := y
  obtain rfl : e = e' := side
  obtain rfl : i = j := index
  obtain rfl : time = time' := Option.some.inj (hx.time.symm.trans hy.time)
  obtain rfl : price = price' := Option.some.inj (hx.stands.here.symm.trans hy.stands.here)
  obtain rfl : confirmedAt = confirmedAt' := hx.confirmed.trans hy.confirmed.symm
  obtain rfl : brokenAt = brokenAt' := Option.ext fun k => (hx.broken k).trans (hy.broken k).symm
  obtain rfl : dominance = dominance' := hx.dominance.trans hy.dominance.symm
  rfl

/-- Once a swing is broken its dominance is known. -/
theorem Swing.Formed.dominanceAt_broken {s bar j : Nat} {candles : List (Candle α)} {w : Swing α}
    (formed : w.Formed s candles) (broken : w.brokenAt = some j) (known : j ≤ bar) :
    w.dominanceAt bar = j - w.index - 1 := by
  have dominance := formed.dominance
  unfold Swing.dominanceAt
  rw [broken] at dominance ⊢
  exact (if_pos known).trans dominance

omit [Scalar α] in
/-- Until then it grows bar by bar. -/
theorem Swing.dominanceAt_unbroken {bar : Nat} {w : Swing α}
    (unbroken : ∀ j, w.brokenAt = some j → bar < j) : w.dominanceAt bar = bar - w.index := by
  unfold Swing.dominanceAt
  cases broken : w.brokenAt with
  | none => rfl
  | some j => exact if_neg (Nat.not_le.mpr (unbroken j broken))

/-- What is found of one side stands at a bar where a pivot is. -/
theorem getElem?_swings_iff {e : Extremity} {s : Nat} {candles : List (Candle α)} {i : Nat}
    {w : Swing α} : (e.swings s candles)[i]? = some (some w) ↔ ∃ c, candles[i]? = some c ∧
      e.isPivot s (candles.map e.price) i = true ∧
      Swing.ofPivot e s candles.length ((e.breaks s (candles.map e.price)).lookup i) i c = w := by
  rw [Extremity.getElem?_swings, Option.map_eq_some_iff]
  refine exists_congr fun c => and_congr_right fun _ => ?_
  split
  case isTrue pivot => simp [pivot]
  case isFalse none => simp [none]

@[simp] theorem Extremity.length_swings (e : Extremity) (s : Nat) (candles : List (Candle α)) :
    (e.swings s candles).length = candles.length := by
  simp [Extremity.swings]

/-- What is found is found of one side at a bar. -/
theorem mem_detectSwings {s : Nat} {candles : List (Candle α)} {w : Swing α} :
    w ∈ detectSwings s candles ↔ ∃ e : Extremity, ∃ i : Nat,
      (e.swings s candles)[i]? = some (some w) := by
  show w ∈ (swingsByBar s candles).flatten ↔ _
  rw [List.mem_flatten]
  constructor
  · rintro ⟨swings, listed, here⟩
    obtain ⟨i, hi⟩ := List.mem_iff_getElem?.mp listed
    obtain ⟨high, low, hhigh, hlow, rfl⟩ := List.getElem?_zipWith_eq_some.mp hi
    rcases List.mem_append.mp here with here | here
    · exact ⟨.high, i, hhigh.trans (congrArg some (Option.mem_toList.mp here))⟩
    · exact ⟨.low, i, hlow.trans (congrArg some (Option.mem_toList.mp here))⟩
  · rintro ⟨e, i, here⟩
    have inside : i < (e.swings s candles).length := (List.getElem?_eq_some_iff.mp here).1
    rw [Extremity.length_swings] at inside
    have high := List.getElem?_eq_getElem (l := Extremity.high.swings s candles) (by simpa)
    have low := List.getElem?_eq_getElem (l := Extremity.low.swings s candles) (by simpa)
    refine ⟨_, List.mem_of_getElem? (List.getElem?_zipWith_eq_some.mpr ⟨_, _, high, low, rfl⟩), ?_⟩
    rw [List.mem_append, Option.mem_toList, Option.mem_toList]
    cases e with
    | high => exact .inl (Option.some.inj (high.symm.trans here))
    | low => exact .inr (Option.some.inj (low.symm.trans here))

end

/-! ## All swings -/

variable {s : Nat} {candles : List (Candle Float)} {w : Swing Float}

/-- Where a swing stands, the swing that is found there is formed. -/
theorem Swing.formed_ofPivot {e : Extremity} {i : Nat} {c : Candle Float} (positive : 1 ≤ s)
    (here : candles[i]? = some c) (stands : e.StandsAt s (candles.map e.price) i (e.price c)) :
    (Swing.ofPivot e s candles.length ((e.breaks s (candles.map e.price)).lookup i) i c).Formed s
      candles where
  stands := stands
  time := by
    show (candles[i]?).map _ = _
    rw [here]
    rfl
  confirmed := rfl
  broken _ := Extremity.lookup_breaks_iff positive stands
  dominance := rfl

/-- Where a swing stands, one is found. -/
theorem Extremity.StandsAt.found {e : Extremity} {i : Nat} {x : Float} (positive : 1 ≤ s)
    (stands : e.StandsAt s (candles.map e.price) i x) : ∃ w ∈ detectSwings s candles,
      w.Formed s candles ∧ w.side = e ∧ w.index = i ∧ w.price = x := by
  have price := stands.here
  rw [List.getElem?_map] at price
  obtain ⟨c, here, rfl⟩ := Option.map_eq_some_iff.mp price
  have pivot := Extremity.isPivot_iff.mpr ⟨_, stands⟩
  exact ⟨_, mem_detectSwings.mpr ⟨e, i, getElem?_swings_iff.mpr ⟨c, here, pivot, rfl⟩⟩,
    Swing.formed_ofPivot positive here stands, rfl, rfl, rfl⟩

/-- The swings that are found are those that are formed. -/
theorem mem_detectSwings_iff (positive : 1 ≤ s) :
    w ∈ detectSwings s candles ↔ w.Formed s candles := by
  constructor
  · intro found
    obtain ⟨e, i, listed⟩ := mem_detectSwings.mp found
    obtain ⟨c, here, pivot, rfl⟩ := getElem?_swings_iff.mp listed
    obtain ⟨x, stands⟩ := Extremity.isPivot_iff.mp pivot
    have price := stands.here
    rw [List.getElem?_map, here] at price
    cases price
    exact Swing.formed_ofPivot positive here stands
  · intro formed
    obtain ⟨w', found, formed', side, index, -⟩ := formed.stands.found positive
    rwa [formed.unique formed' side.symm index.symm]

/-- **All swings are found**, and nothing else, in the order of their bars and a high
before a low. -/
theorem swings_all_found (s : Nat) (positive : 1 ≤ s) (candles : List (Candle Float)) :
    (∀ w, w ∈ detectSwings s candles ↔ w.Formed s candles) ∧
      (detectSwings s candles).Pairwise Swing.Before :=
  ⟨fun _ => mem_detectSwings_iff positive, detectSwings_before s candles⟩

/-- Of two equal highs side by side the first is a swing. Neither a bar without a high
breaks it nor one that only comes up to it. -/
theorem swings_all_found_plateau :
    let candles : List (Candle Float) := [1, 3, 3, 2, 0 / 0, 3, 4, 0].map (.still .earliest)
    1 ≤ 1 ∧
    ((detectSwings 1 candles).map fun w => (w.index, w.side, w.brokenAt, w.dominance)) =
      [(1, .high, some 6, 4), (6, .high, none, 1)] ∧
    (∀ w, w ∈ detectSwings 1 candles ↔ w.Formed 1 candles) ∧
    (detectSwings 1 candles).Pairwise Swing.Before := by
  intro candles
  exact ⟨by decide, by decide +kernel, swings_all_found 1 (by decide) candles⟩

end MarketConditions
