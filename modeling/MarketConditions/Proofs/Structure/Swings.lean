import MarketConditions.Proofs.Column.Causal
import MarketConditions.Structure.Swing

/-!
# Swings as they are seen in time

A swing is detected with bars behind it, and its dominance counts bars up to the one that
breaks it, so the swings of all bars know more than was known at any of them. Here it is
shown what was: the swings of the first `k` bars are those of all bars that were confirmed
by then, with what later bars did to them left out.

- `Extremity.isPivot_take`: a pivot of strength `s` is seen `s` bars later, and no later
  bar takes it back.
- `Extremity.lookup_breaks_take`: nor does a later bar change by which bar a
  swing was broken.
- `Swing.within`: a swing as the first `k` bars show it.
- `detectSwings_take`: **the swings of the first bars**.
- `detectSwings_ordered`: swings come in the order in which they are confirmed.
- `running_latestStep_all`: what is read at a bar is the latest swing confirmed by it.
- `causal_swingReadings`: **readings of swings do not look ahead**.
-/

namespace MarketConditions

variable {α : Type} [Scalar α]

namespace Extremity

/-! ## Pivots and the bars that break them -/

/-- A pivot is seen once the bars behind it are there, and then for good. -/
theorem isPivot_take (e : Extremity) (s : Nat) (xs : List α) (k bar : Nat) :
    e.isPivot s (xs.take k) bar = (decide (bar + s < k) && e.isPivot s xs bar) := by
  unfold isPivot
  rw [List.drop_take]
  cases xs.drop bar with
  | nil => simp
  | cons x after =>
    by_cases here : bar < k
    · obtain ⟨m, hm⟩ : ∃ m, k - bar = m + 1 := ⟨k - bar - 1, by omega⟩
      rw [hm, List.take_succ_cons]
      show e.standsOut s ((xs.take k).take bar) x (after.take m) =
        (decide (bar + s < k) && e.standsOut s (xs.take bar) x after)
      unfold standsOut
      rw [List.take_take, Nat.min_eq_left (Nat.le_of_lt here), List.take_take]
      -- `m` bars are left behind this one, and a pivot needs `s` of them
      by_cases seen : s ≤ m
      · have later : decide (bar + s < k) = true := decide_eq_true (by omega)
        have enough : decide (s ≤ (after.take m).length) = decide (s ≤ after.length) :=
          decide_eq_decide.mpr (by rw [List.length_take]; omega)
        rw [later, enough, Nat.min_eq_left seen, Bool.true_and]
      · have later : decide (bar + s < k) = false := decide_eq_false (by omega)
        have few : decide (s ≤ (after.take m).length) = false :=
          decide_eq_false (by rw [List.length_take]; omega)
        rw [later, few, Bool.and_false, Bool.false_and, Bool.false_and, Bool.false_and]
    · have gone : k - bar = 0 := by omega
      have later : decide (bar + s < k) = false := decide_eq_false (by omega)
      rw [gone, later, List.take_zero, Bool.false_and]

/-- The pivot at a bar, if it is one. -/
theorem getElem?_pivots (e : Extremity) (s : Nat) (xs : List α) (i : Nat) :
    (e.pivots s xs)[i]? = xs[i]?.map fun x => if e.isPivot s xs i then some (i, x) else none := by
  unfold pivots
  rw [List.getElem?_map, Column.getElem?_numbered, Option.map_map]
  rfl

@[simp] theorem length_pivots (e : Extremity) (s : Nat) (xs : List α) :
    (e.pivots s xs).length = xs.length := by
  simp [pivots, Column.numbered]

/-- Pivots moved to the bars that confirm them do not look ahead. -/
theorem causal_confirmed (e : Extremity) (s : Nat) :
    Column.Causal fun xs : List α => Column.lag s none (e.pivots s xs) := by
  refine ⟨fun k xs => ?_, fun xs => by rw [Column.length_lag, length_pivots]⟩
  apply List.ext_getElem?
  intro i
  show (Column.lag s none (e.pivots s (xs.take k)))[i]? = _
  rw [List.getElem?_take, Column.getElem?_lag, Column.getElem?_lag, length_pivots, length_pivots,
    List.length_take]
  by_cases kept : i < k
  · rw [if_pos kept]
    by_cases inside : i < xs.length
    · rw [if_pos inside, if_pos (by omega)]
      by_cases early : i < s
      · rw [if_pos early, if_pos early]
      · -- the pivot that is confirmed here lies `s` bars back, and so do the bars it needs
        have seen : decide (i - s + s < k) = true := decide_eq_true (by omega)
        rw [if_neg early, if_neg early, getElem?_pivots, getElem?_pivots, isPivot_take, seen,
          List.getElem?_take, if_pos (by omega), Bool.true_and]
    · rw [if_neg inside, if_neg (by omega)]
  · rw [if_neg kept, if_neg (by omega)]

/-- The bars broken at each bar. -/
theorem causal_broken (e : Extremity) (s : Nat) :
    Column.Causal fun xs : List α =>
      Column.running e.breakStep [] (xs.zip (Column.lag s none (e.pivots s xs))) :=
  (Column.causal_running _ _).comp (Column.causal_self.zip (causal_confirmed e s))

theorem mem_of_lookup {pairs : List (Nat × Nat)} {a b : Nat} (found : pairs.lookup a = some b) :
    (a, b) ∈ pairs := by
  obtain ⟨before, after, rfl, -⟩ := List.lookup_eq_some_iff.mp found
  exact List.mem_append_right _ List.mem_cons_self

/-- By which bar a swing was broken is known from that bar on, and never changes. -/
theorem lookup_breaks_take (e : Extremity) (s : Nat) (xs : List α) (k bar : Nat) :
    (e.breaks s (xs.take k)).lookup bar =
      ((e.breaks s xs).lookup bar).filter fun breaking => decide (breaking < k) := by
  -- breaks are listed bar by bar, so the first bars list a first part of them
  let broken := Column.numbered
    (Column.running e.breakStep [] (xs.zip (Column.lag s none (e.pivots s xs))))
  let pairs := fun entry : Nat × List Nat => entry.2.map fun swing => (swing, entry.1)
  have first : e.breaks s (xs.take k) = (broken.take k).flatMap pairs := by
    have causal := (Column.causal_numbered.comp (causal_broken e s)).take k xs
    exact congrArg (List.flatMap pairs) causal
  have all : e.breaks s xs = (broken.take k).flatMap pairs ++ (broken.drop k).flatMap pairs := by
    rw [← List.flatMap_append, List.take_append_drop]
    rfl
  have bars : ∀ (entries : List (Nat × List Nat)) (swing breaking : Nat),
      (swing, breaking) ∈ entries.flatMap pairs → ∃ entry ∈ entries, entry.1 = breaking := by
    intro entries swing breaking hpair
    obtain ⟨entry, hentry, hin⟩ := List.mem_flatMap.mp hpair
    obtain ⟨_, -, same⟩ := List.mem_map.mp hin
    exact ⟨entry, hentry, congrArg Prod.snd same⟩
  rw [first, all, List.lookup_append]
  cases found : ((broken.take k).flatMap pairs).lookup bar with
  | some breaking =>
    obtain ⟨entry, hentry, rfl⟩ := bars _ _ _ (mem_of_lookup found)
    have before : entry.1 < k := Column.mem_take_numbered hentry
    rw [Option.some_or, Option.filter_some, if_pos (decide_eq_true before)]
  | none =>
    cases other : ((broken.drop k).flatMap pairs).lookup bar with
    | none => rfl
    | some breaking =>
      obtain ⟨entry, hentry, rfl⟩ := bars _ _ _ (mem_of_lookup other)
      have after : k ≤ entry.1 := Column.mem_drop_numbered hentry
      rw [Option.none_or, Option.filter_some,
        if_neg (by rw [decide_eq_true_iff]; exact Nat.not_lt.mpr after)]

end Extremity

/-! ## Swings as the first bars show them -/

namespace Swing

/-- The swing as it is when only the first `k` bars are there: a later bar has not broken
it, and its dominance ends with the last of them. -/
def within (k : Nat) (s : Swing α) : Swing α :=
  { s with
    brokenAt := s.brokenAt.filter fun breaking => decide (breaking < k)
    dominance := s.dominanceAt (k - 1) }

omit [Scalar α] in
/-- What was known of the dominance at a bar does not need later ones. -/
theorem dominanceAt_within {k bar : Nat} (here : bar < k) (s : Swing α) :
    (s.within k).dominanceAt bar = s.dominanceAt bar := by
  unfold dominanceAt within
  cases broken : s.brokenAt with
  | none => rfl
  | some breaking =>
    rw [Option.filter_some]
    by_cases before : breaking < k
    · rw [if_pos (decide_eq_true before)]
      show (if breaking ≤ bar then s.dominanceAt (k - 1) else bar - s.index) = _
      have known : s.dominanceAt (k - 1) = s.dominance := by
        unfold dominanceAt
        rw [broken]
        exact if_pos (by omega)
      rw [known]
    · rw [if_neg (by rw [decide_eq_true_iff]; exact before)]
      exact (if_neg (by omega)).symm

theorem readAt_within {k bar : Nat} (here : bar < k) (s : Swing α) :
    (s.within k).readAt bar = s.readAt bar := by
  unfold readAt
  rw [dominanceAt_within here]
  rfl

omit [Scalar α] in
/-- A pivot within the first bars is the pivot as these bars make it. -/
theorem within_ofPivot (side : Extremity) (strength bars : Nat) (brokenAt : Option Nat)
    (index : Nat) (c : Candle α) {k : Nat} (some_bar : 0 < k) :
    (ofPivot side strength bars brokenAt index c).within k =
      ofPivot side strength k (brokenAt.filter fun breaking => decide (breaking < k)) index c := by
  unfold within ofPivot dominanceAt
  cases brokenAt with
  | none => rfl
  | some breaking =>
    rw [Option.filter_some]
    by_cases before : breaking < k
    · rw [if_pos (decide_eq_true before)]
      simp only [if_pos (show breaking ≤ k - 1 by omega)]
    · rw [if_neg (by rw [decide_eq_true_iff]; exact before)]
      simp only [if_neg (show ¬ breaking ≤ k - 1 by omega)]

end Swing

/-- The swing of one side at a bar, if there is one. -/
theorem Extremity.getElem?_swings (e : Extremity) (s : Nat) (candles : List (Candle α))
    (i : Nat) : (e.swings s candles)[i]? = candles[i]?.map fun c =>
      if e.isPivot s (candles.map e.price) i then
        some (Swing.ofPivot e s candles.length ((e.breaks s (candles.map e.price)).lookup i) i c)
      else none := by
  unfold Extremity.swings
  simp only
  rw [List.getElem?_zipWith', Extremity.getElem?_pivots, List.getElem?_map]
  cases candles[i]? with
  | none => rfl
  | some c =>
    show some (Option.map _ (if _ then _ else _)) = some (if _ then _ else _)
    split <;> rfl

/-- The swings of one side that the first bars show. -/
theorem Extremity.swings_take (e : Extremity) (s : Nat) {k : Nat} {candles : List (Candle α)}
    (fits : k ≤ candles.length) :
    e.swings s (candles.take k) = ((e.swings s candles).take k).map fun swing =>
      (swing.filter fun x => decide (x.confirmedAt < k)).map (Swing.within k) := by
  apply List.ext_getElem?
  intro i
  rw [List.getElem?_map, List.getElem?_take, Extremity.getElem?_swings, List.getElem?_take,
    List.map_take, Extremity.isPivot_take, Extremity.lookup_breaks_take, List.length_take,
    Nat.min_eq_left fits]
  by_cases kept : i < k
  · rw [if_pos kept, if_pos kept, Extremity.getElem?_swings, Option.map_map]
    congr 1
    funext c
    show _ = Option.map (Swing.within k) (Option.filter _ (if _ then some _ else none))
    by_cases pivot : e.isPivot s (candles.map e.price) i
    · rw [if_pos pivot, pivot, Bool.and_true, Option.filter_some]
      -- the index of a pivot and its strength add up to the bar that confirms it
      show (if decide (i + s < k) = true then _ else none) =
        Option.map (Swing.within k) (if decide (i + s < k) = true then some _ else none)
      split
      · rw [Option.map_some, Swing.within_ofPivot _ _ _ _ _ _ (by omega)]
      · rfl
    · rw [if_neg pivot, if_neg (by simp [pivot])]
      rfl
  · rw [if_neg kept, if_neg kept]
    rfl

/-! ## All swings -/

/-- The swings that form at each bar. -/
def swingsByBar (s : Nat) (candles : List (Candle α)) : List (List (Swing α)) :=
  List.zipWith (fun (high low : Option (Swing α)) => high.toList ++ low.toList)
    (Extremity.high.swings s candles) (Extremity.low.swings s candles)

/-- A swing that forms at a bar is confirmed `s` bars later. -/
theorem confirmedAt_of_mem {s : Nat} {candles : List (Candle α)} {i : Nat}
    {swings : List (Swing α)} (here : (swingsByBar s candles)[i]? = some swings) {x : Swing α}
    (hx : x ∈ swings) : x.confirmedAt = i + s := by
  have side : ∀ (e : Extremity) (found : Option (Swing α)),
      (e.swings s candles)[i]? = some found → x ∈ found.toList → x.confirmedAt = i + s := by
    intro e found hfound hin
    rw [Extremity.getElem?_swings] at hfound
    obtain ⟨c, -, rfl⟩ := Option.map_eq_some_iff.mp hfound
    split at hin
    · rw [Option.toList_some, List.mem_singleton] at hin
      rw [hin]
      rfl
    · cases hin
  obtain ⟨high, low, hhigh, hlow, rfl⟩ := List.getElem?_zipWith_eq_some.mp here
  rcases List.mem_append.mp hx with hin | hin
  · exact side _ _ hhigh hin
  · exact side _ _ hlow hin

/-- Swings come in the order in which they are confirmed. -/
theorem detectSwings_ordered (s : Nat) (candles : List (Candle α)) :
    (detectSwings s candles).Pairwise fun x y => x.confirmedAt ≤ y.confirmedAt := by
  show (swingsByBar s candles).flatten.Pairwise _
  rw [List.pairwise_flatten]
  refine ⟨fun swings hin => ?_, ?_⟩
  · obtain ⟨i, hi⟩ := List.mem_iff_getElem?.mp hin
    refine List.Pairwise.imp_of_mem ?_ (List.pairwise_of_forall fun _ _ => trivial)
    intro x y hx hy _
    exact Nat.le_of_eq ((confirmedAt_of_mem hi hx).trans (confirmedAt_of_mem hi hy).symm)
  · rw [List.pairwise_iff_getElem]
    intro i j hi hj earlier x hx y hy
    rw [confirmedAt_of_mem (List.getElem?_eq_getElem hi) hx,
      confirmedAt_of_mem (List.getElem?_eq_getElem hj) hy]
    omega

/-- **The swings of the first bars** are those that were confirmed among them, as these
bars show them. -/
theorem detectSwings_take (s : Nat) {k : Nat} {candles : List (Candle α)}
    (fits : k ≤ candles.length) :
    detectSwings s (candles.take k) =
      ((detectSwings s candles).filter fun x => decide (x.confirmedAt < k)).map
        (Swing.within k) := by
  have first : swingsByBar s (candles.take k) = ((swingsByBar s candles).take k).map fun swings =>
      (swings.filter fun x => decide (x.confirmedAt < k)).map (Swing.within k) := by
    unfold swingsByBar
    rw [Extremity.swings_take _ _ fits, Extremity.swings_take _ _ fits, List.take_zipWith,
      List.zipWith_map, List.map_zipWith]
    congr 1
    funext high low
    rw [List.filter_append, List.map_append, Option.toList_map, Option.toList_map,
      Option.toList_filter, Option.toList_filter]
  have later : ((swingsByBar s candles).drop k).flatten.filter
      (fun x => decide (x.confirmedAt < k)) = [] := by
    rw [List.filter_eq_nil_iff]
    intro x hx
    obtain ⟨swings, hin, hx⟩ := List.mem_flatten.mp hx
    obtain ⟨i, hi⟩ := List.mem_iff_getElem?.mp hin
    rw [List.getElem?_drop] at hi
    rw [confirmedAt_of_mem hi hx, decide_eq_true_iff]
    omega
  show (swingsByBar s (candles.take k)).flatten =
    ((swingsByBar s candles).flatten.filter _).map _
  rw [← List.take_append_drop k (swingsByBar s candles), List.flatten_append, List.filter_append,
    later, List.append_nil, first, List.filter_flatten, List.map_flatten, List.map_map]
  rfl

/-! ## The latest swing -/

/-- Entries passed by a weaker test and then by a stronger one are those passed by
the stronger. -/
theorem takeWhile_takeWhile_dropWhile {β : Type} {p q : β → Bool} (weaker : ∀ x, p x → q x)
    (xs : List β) : xs.takeWhile p ++ (xs.dropWhile p).takeWhile q = xs.takeWhile q := by
  induction xs with
  | nil => rfl
  | cons x xs ih =>
    by_cases passed : p x
    · rw [List.takeWhile_cons_of_pos passed, List.dropWhile_cons_of_pos passed,
        List.takeWhile_cons_of_pos (weaker x passed), List.cons_append, ih]
    · rw [List.takeWhile_cons_of_neg passed, List.dropWhile_cons_of_neg passed, List.nil_append]

theorem dropWhile_dropWhile {β : Type} {p q : β → Bool} (weaker : ∀ x, p x → q x)
    (xs : List β) : (xs.dropWhile p).dropWhile q = xs.dropWhile q := by
  induction xs with
  | nil => rfl
  | cons x xs ih =>
    by_cases passed : p x
    · rw [List.dropWhile_cons_of_pos passed, List.dropWhile_cons_of_pos (weaker x passed), ih]
    · rw [List.dropWhile_cons_of_neg passed]

/-- The swing to be read at a bar. -/
def latestBy (swings : List (Swing α)) (bar : Nat) : Option (Swing α) :=
  (swings.takeWhile fun x => decide (x.confirmedAt ≤ bar)).getLast?

/-- From bar `first` on, with the swings confirmed before it passed, each bar reads the
latest swing confirmed by it. -/
theorem running_latestStep (swings : List (Swing α)) (first bars : Nat) :
    Column.running latestStep
      ((swings.takeWhile fun x => decide (x.confirmedAt < first)).getLast?,
        swings.dropWhile fun x => decide (x.confirmedAt < first)) (List.range' first bars) =
      (List.range' first bars).map fun bar => (latestBy swings bar).map (·.readAt bar) := by
  induction bars generalizing first with
  | zero => rfl
  | succ bars ih =>
    -- the swings confirmed by a bar are those passed before it and those it confirms
    have weaker : ∀ x : Swing α, decide (x.confirmedAt < first) →
        decide (x.confirmedAt ≤ first) := by
      intro x hx
      exact decide_eq_true (Nat.le_of_lt (of_decide_eq_true hx))
    have passed := takeWhile_takeWhile_dropWhile weaker swings
    have left := dropWhile_dropWhile weaker swings
    have next : (fun x : Swing α => decide (x.confirmedAt < first + 1)) =
        fun x => decide (x.confirmedAt ≤ first) :=
      funext fun x => decide_eq_decide.mpr Nat.lt_succ_iff
    have latest : ((swings.dropWhile fun x => decide (x.confirmedAt < first)).takeWhile
        fun x => decide (x.confirmedAt ≤ first)).getLast?.or
          (swings.takeWhile fun x => decide (x.confirmedAt < first)).getLast? =
        latestBy swings first := by
      unfold latestBy
      rw [← passed, List.getLast?_append]
    specialize ih (first + 1)
    rw [next] at ih
    rw [List.range'_succ, List.map_cons, ← ih]
    show (latestStep _ first).2 :: Column.running latestStep (latestStep _ first).1 _ = _
    unfold latestStep
    simp only [latest, left]
    rfl

/-- **What is read at a bar** is the latest swing confirmed by it, read at that bar. -/
theorem running_latestStep_all (swings : List (Swing α)) (bars : Nat) :
    Column.running latestStep (none, swings) (List.range bars) =
      (List.range bars).map fun bar => (latestBy swings bar).map (·.readAt bar) := by
  have nothing : ∀ xs : List (Swing α), (xs.takeWhile fun x => decide (x.confirmedAt < 0)) = [] ∧
      (xs.dropWhile fun x => decide (x.confirmedAt < 0)) = xs := by
    intro xs
    cases xs <;> exact ⟨rfl, rfl⟩
  have all := running_latestStep swings 0 bars
  rw [(nothing swings).1, (nothing swings).2] at all
  rw [List.range_eq_range']
  exact all

omit [Scalar α] in
/-- Swings that are confirmed later are not needed. -/
theorem latestBy_filter {swings : List (Swing α)} {k bar : Nat} (here : bar < k)
    (ordered : swings.Pairwise fun x y => x.confirmedAt ≤ y.confirmedAt) :
    latestBy (swings.filter fun x => decide (x.confirmedAt < k)) bar = latestBy swings bar := by
  have same : (swings.filter fun x => decide (x.confirmedAt < k)).takeWhile
      (fun x => decide (x.confirmedAt ≤ bar)) =
        swings.takeWhile fun x => decide (x.confirmedAt ≤ bar) := by
    induction ordered with
    | nil => rfl
    | @cons x xs later _ ih =>
      by_cases early : x.confirmedAt < k
      · rw [List.filter_cons_of_pos (by rwa [decide_eq_true_iff]), List.takeWhile_cons,
          List.takeWhile_cons, ih]
      · -- no swing behind a late one is early
        have none_left : xs.filter (fun x => decide (x.confirmedAt < k)) = [] := by
          rw [List.filter_eq_nil_iff]
          intro y hy
          rw [decide_eq_true_iff]
          have := later y hy
          omega
        rw [List.filter_cons_of_neg (by rwa [decide_eq_true_iff]), none_left,
          List.takeWhile_cons_of_neg (by rw [decide_eq_true_iff]; omega), List.takeWhile_nil]
  unfold latestBy
  rw [same]

/-- **Readings of swings do not look ahead**, though swings themselves do. -/
theorem causal_swingReadings (side : Extremity) (s : Nat) :
    Column.Causal fun candles : List (Candle α) =>
      Column.running latestStep (none, (detectSwings s candles).filter fun x => x.side = side)
        (List.range candles.length) := by
  refine .of_fits (fun candles => ?_) fun k candles fits => ?_
  · rw [Column.length_running, List.length_range]
  -- bar by bar: the latest swing is the same, and reading it at the bar needs no later ones
  rw [running_latestStep_all, running_latestStep_all, ← List.map_take, List.take_range,
    List.length_take]
  apply List.map_congr_left
  intro bar hbar
  have here : bar < k := Nat.lt_of_lt_of_le (List.mem_range.mp hbar) (Nat.min_le_left _ _)
  have known : (detectSwings s (candles.take k)).filter (fun x => x.side = side) =
      (((detectSwings s candles).filter fun x => x.side = side).filter
        fun x => decide (x.confirmedAt < k)).map (Swing.within k) := by
    rw [detectSwings_take s fits, List.filter_map, List.filter_filter, List.filter_filter]
    congr 2
    funext x
    exact Bool.and_comm _ _
  have seen : ∀ swings : List (Swing α), latestBy (swings.map (Swing.within k)) bar =
      (latestBy swings bar).map (Swing.within k) := by
    intro swings
    unfold latestBy
    rw [List.takeWhile_map, List.getLast?_map]
    rfl
  rw [known, seen, latestBy_filter here ((detectSwings_ordered s candles).filter _), Option.map_map]
  congr 1
  funext x
  exact Swing.readAt_within here x

/-- A column of the latest swing. -/
theorem causal_swingColumn (side : Extremity) (s : Nat) (f : SwingReading α → α) :
    Column.Causal fun candles : List (Candle α) =>
      (Column.running latestStep (none, (detectSwings s candles).filter fun x => x.side = side)
        (List.range candles.length)).map fun r => Column.orUndefined (r.map f) :=
  (causal_swingReadings side s).map _

end MarketConditions
