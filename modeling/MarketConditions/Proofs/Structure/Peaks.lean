import Mathlib.Order.Basic
import Mathlib.Tactic.Tauto
import MarketConditions.Proofs.Structure.Swings
import MarketConditions.Structure.Ray

/-!
# The peaks of a window

The peaks that a ray is drawn through are swings of one side, at most one a bar. They come
in the order of their bars, and the price of each is an extreme of its candle. The anchor
is the outermost one of them, and the peaks after it are those that are left.

- `swingsByBar_mem`: what there is to know of the swings of a bar.
- `Swing.Before`, `detectSwings_before`: the order of swings.
- `Ray.mem_windowPeaks_iff`: which swings are peaks.
- `Ray.windowPeaks_sorted`, `Ray.price_of_mem_windowPeaks`: **peaks in order**, with
  prices of candles.
- `Ray.bestFrom`: a scan that holds the best so far and what comes after it;
  `Ray.bestFrom_induction`: what it keeps. The search for the anchor and that for the next
  peak are scans, `Ray.anchorFrom_eq` and `Ray.steepestFrom_eq`.
- `Ray.bestFrom_spec`, `Ray.bestFrom_first`: **what a scan finds** is not surpassed, and
  it is the first such entry, `Ray.FirstGreatest`, if what is better is greater.
-/

namespace MarketConditions

variable {α : Type} [Scalar α]

/-! ## Swings by bar -/

/-- What is found of one side at a bar is nothing, or a pivot that stands there. -/
theorem Extremity.of_getElem?_swings {e : Extremity} {s : Nat} {candles : List (Candle α)} {i : Nat}
    {found : Option (Swing α)} (here : (e.swings s candles)[i]? = some found) :
    found = none ∨ ∃ c ∈ candles, ∃ broken,
      found = some (Swing.ofPivot e s candles.length broken i c) := by
  rw [Extremity.getElem?_swings] at here
  obtain ⟨c, hc, rfl⟩ := Option.map_eq_some_iff.mp here
  split
  · exact .inr ⟨c, List.mem_of_getElem? hc, _, rfl⟩
  · exact .inl rfl

/-- A swing stands at its bar, and its price is the extreme of a candle. -/
theorem swingsByBar_mem {s : Nat} {candles : List (Candle α)} {i : Nat} {swings : List (Swing α)}
    (here : (swingsByBar s candles)[i]? = some swings) {x : Swing α} (hx : x ∈ swings) :
    x.index = i ∧ ∃ c ∈ candles, x.price = x.side.price c := by
  have side : ∀ (e : Extremity) (found : Option (Swing α)),
      (e.swings s candles)[i]? = some found → x ∈ found.toList →
        x.index = i ∧ ∃ c ∈ candles, x.price = x.side.price c := by
    intro e found hfound hin
    rcases Extremity.of_getElem?_swings hfound with rfl | ⟨c, hc, broken, rfl⟩
    · cases hin
    · rw [List.mem_singleton.mp hin]
      exact ⟨rfl, c, hc, rfl⟩
  obtain ⟨high, low, hhigh, hlow, rfl⟩ := List.getElem?_zipWith_eq_some.mp here
  rcases List.mem_append.mp hx with hin | hin
  · exact side _ _ hhigh hin
  · exact side _ _ hlow hin

/-- An earlier bar comes first, and at one bar the high. -/
def Swing.Before (x y : Swing α) : Prop :=
  x.index < y.index ∨ x.index = y.index ∧ x.side = .high ∧ y.side = .low

/-- Swings come bar by bar, a high before a low. -/
theorem detectSwings_before (s : Nat) (candles : List (Candle α)) :
    (detectSwings s candles).Pairwise Swing.Before := by
  show (swingsByBar s candles).flatten.Pairwise _
  rw [List.pairwise_flatten]
  refine ⟨fun swings hin => ?_, ?_⟩
  · obtain ⟨i, hi⟩ := List.mem_iff_getElem?.mp hin
    obtain ⟨high, low, hhigh, hlow, rfl⟩ := List.getElem?_zipWith_eq_some.mp hi
    rcases Extremity.of_getElem?_swings hhigh with rfl | ⟨c, -, broken, rfl⟩ <;>
      rcases Extremity.of_getElem?_swings hlow with rfl | ⟨d, -, broken', rfl⟩ <;>
      simp [Swing.ofPivot, Swing.Before]
  · rw [List.pairwise_iff_getElem]
    intro i j hi hj earlier x hx y hy
    refine .inl ?_
    rw [(swingsByBar_mem (List.getElem?_eq_getElem hi) hx).1,
      (swingsByBar_mem (List.getElem?_eq_getElem hj) hy).1]
    exact earlier

/-- Swings of one side stand at different bars, in order. -/
theorem detectSwings_sorted (s : Nat) (candles : List (Candle α)) :
    (detectSwings s candles).Pairwise fun x y => x.side = y.side → x.index < y.index := by
  refine (detectSwings_before s candles).imp fun {x y} before same => ?_
  rcases before with earlier | ⟨-, high, low⟩
  · exact earlier
  · rw [high, low] at same
    cases same

/-- The price of a swing is the extreme of a candle. -/
theorem price_of_mem_detectSwings {s : Nat} {candles : List (Candle α)} {x : Swing α}
    (here : x ∈ detectSwings s candles) : ∃ c ∈ candles, x.price = x.side.price c := by
  obtain ⟨swings, hin, hx⟩ := List.mem_flatten.mp here
  obtain ⟨i, hi⟩ := List.mem_iff_getElem?.mp hin
  exact (swingsByBar_mem hi hx).2

namespace Ray

/-! ## Peaks in order -/

theorem mem_windowPeaks_iff {side : Extremity} {first last : Nat} {swings : List (Swing α)}
    {w : Swing α} : w ∈ windowPeaks side first last swings ↔ w ∈ swings ∧ w.side = side ∧
      Scalar.isUndefined w.price = false ∧ first ≤ w.index ∧ w.confirmedAt ≤ last := by
  unfold windowPeaks
  rw [List.mem_filter]
  simp only [Bool.and_eq_true, decide_eq_true_eq, Bool.not_eq_true']
  exact and_congr_right fun _ => by tauto

/-- **Peaks come in the order of their bars.** -/
theorem windowPeaks_sorted (side : Extremity) (first last s : Nat) (candles : List (Candle α)) :
    (windowPeaks side first last (detectSwings s candles)).Pairwise
      fun x y => x.index < y.index := by
  refine ((detectSwings_sorted s candles).filter _).imp_of_mem ?_
  intro x y hx hy ordered
  exact ordered ((mem_windowPeaks_iff.mp hx).2.1.trans (mem_windowPeaks_iff.mp hy).2.1.symm)

theorem price_of_mem_windowPeaks {side : Extremity} {first last s : Nat}
    {candles : List (Candle α)} {x : Swing α}
    (here : x ∈ windowPeaks side first last (detectSwings s candles)) :
    ∃ c ∈ candles, x.price = side.price c := by
  obtain ⟨swing, same, -⟩ := mem_windowPeaks_iff.mp here
  rw [← same]
  exact price_of_mem_detectSwings swing

/-! ## Scans -/

section Scan

variable {γ : Type} (better : γ → γ → Bool)

/-- The last entry that is better than those held before it, and the entries after it.
Here `best` is held, and `later` are the entries after that. -/
def bestFrom (best : γ) (later : List γ) : List γ → γ × List γ
  | [] => (best, later)
  | x :: rest => if better x best then bestFrom x rest rest else bestFrom best later rest

variable {better}

/-- **A scan, entry by entry.** `P` says what is known when `best` is held, with the
entries before it and those seen after it. What is known at first, and is kept when an
entry takes the place of the one held and when it does not, is known in the end. -/
theorem bestFrom_induction {all : List γ} {P : List γ → γ → List γ → Prop}
    (replaces : ∀ before best seen x rest, all = before ++ best :: (seen ++ x :: rest) →
      better x best = true → P before best seen → P (before ++ best :: seen) x [])
    (stays : ∀ before best seen x rest, all = before ++ best :: (seen ++ x :: rest) →
      better x best = false → P before best seen → P before best (seen ++ [x]))
    {before : List γ} {best : γ} {seen rest : List γ}
    (split : all = before ++ best :: (seen ++ rest))
    (held : P before best seen) :
    ∃ skipped, all = skipped ++ (bestFrom better best (seen ++ rest) rest).1 ::
        (bestFrom better best (seen ++ rest) rest).2 ∧
      P skipped (bestFrom better best (seen ++ rest) rest).1
        (bestFrom better best (seen ++ rest) rest).2 := by
  induction rest generalizing best before seen with
  | nil =>
    rw [List.append_nil] at split ⊢
    exact ⟨before, split, held⟩
  | cons x rest ih =>
    unfold bestFrom
    cases found : better x best with
    | true =>
      -- the new one is held, with nothing seen after it
      rw [if_pos rfl]
      exact @ih (before ++ best :: seen) x [] (by simp [split])
        (replaces before best seen x rest split found held)
    | false =>
      rw [if_neg Bool.false_ne_true]
      have next := @ih before best (seen ++ [x]) (by simp [split])
        (stays before best seen x rest split found held)
      simpa using next

/-- Entries may be changed one by one, if what is better stays better. -/
theorem bestFrom_map {ε : Type} {better' : ε → ε → Bool} (f : γ → ε)
    (same : ∀ x y, better' (f x) (f y) = better x y) (best : γ) (later rest : List γ) :
    bestFrom better' (f best) (later.map f) (rest.map f) =
      Prod.map f (List.map f) (bestFrom better best later rest) := by
  induction rest generalizing best later with
  | nil => rfl
  | cons x rest ih =>
    rw [List.map_cons]
    unfold bestFrom
    rw [same]
    split
    · exact ih x rest
    · exact ih best later

/-- What a scan finds is one of the entries, followed by those that are left. -/
theorem bestFrom_split (better : γ → γ → Bool) (best : γ) (rest : List γ) :
    ∃ skipped, best :: rest = skipped ++ (bestFrom better best rest rest).1 ::
      (bestFrom better best rest rest).2 := by
  obtain ⟨skipped, split, -⟩ := @bestFrom_induction γ better (best :: rest) (fun _ _ _ => True)
    (fun _ _ _ _ _ _ _ _ => trivial) (fun _ _ _ _ _ _ _ _ => trivial) [] best [] rest rfl trivial
  exact ⟨skipped, split⟩

variable {δ : Type} [Preorder δ]

/-- **What a scan finds.** If what is better has at least the same value, and what is not
has at most that, then no entry has a greater value than the one found. It is followed by
the entries that are left. -/
theorem bestFrom_spec (value : γ → δ) {best : γ} {rest : List γ}
    (up : ∀ x ∈ best :: rest, ∀ y ∈ best :: rest, better x y = true → value y ≤ value x)
    (down : ∀ x ∈ best :: rest, ∀ y ∈ best :: rest, better x y = false → value x ≤ value y) :
    ∃ skipped, best :: rest = skipped ++ (bestFrom better best rest rest).1 ::
        (bestFrom better best rest rest).2 ∧
      ∀ x ∈ best :: rest, value x ≤ value (bestFrom better best rest rest).1 := by
  refine Exists.imp ?found (@bestFrom_induction γ better (best :: rest)
    (fun before best seen => ∀ x ∈ before ++ best :: seen, value x ≤ value best)
    ?replaces ?stays [] best [] rest rfl (by simp))
  case found =>
    rintro skipped ⟨split, highest⟩
    exact ⟨split, fun x hx => highest x (split ▸ hx)⟩
  case replaces =>
    intro before y seen x rest all improves highest z hz
    have raised : value y ≤ value x := up x (by simp [all]) y (by simp [all]) improves
    rcases List.mem_append.mp hz with hz | hz
    · exact (highest z hz).trans raised
    · rw [List.mem_singleton.mp hz]
  case stays =>
    intro before y seen x rest all fails highest z hz
    have lower : value x ≤ value y := down x (by simp [all]) y (by simp [all]) fails
    rw [← List.cons_append, ← List.append_assoc] at hz
    rcases List.mem_append.mp hz with hz | hz
    · exact highest z hz
    · rwa [List.mem_singleton.mp hz]

/-- Of some entries the first that has the greatest value, and the entries after it. -/
def FirstGreatest (value : γ → δ) (all : List γ) (top : γ) (later : List γ) : Prop :=
  ∃ before, all = before ++ top :: later ∧ (∀ x ∈ before, value x < value top) ∧
    ∀ x ∈ later, value x ≤ value top

/-- There is only one such entry. -/
theorem FirstGreatest.unique {value : γ → δ} {all later later' : List γ} {top top' : γ}
    (first : FirstGreatest value all top later) (first' : FirstGreatest value all top' later') :
    top = top' ∧ later = later' := by
  obtain ⟨before, rfl, less, atMost⟩ := first
  obtain ⟨before', split, less', atMost'⟩ := first'
  -- if one came before the other, it would be of less value, and of no less
  rcases List.append_eq_append_iff.mp split with ⟨between, rfl, rest⟩ | ⟨between, rfl, rest⟩
  · rcases List.cons_eq_append_iff.mp rest with ⟨rfl, same⟩ | ⟨between, rfl, rfl⟩
    · exact (List.cons.inj same).imp Eq.symm Eq.symm
    · exact absurd (atMost top' (by simp)) (less' top (by simp)).not_ge
  · rcases List.cons_eq_append_iff.mp rest with ⟨rfl, same⟩ | ⟨between, rfl, rfl⟩
    · exact List.cons.inj same
    · exact absurd (atMost' top (by simp)) (less top' (by simp)).not_ge

theorem FirstGreatest.map {ε : Type} (value : ε → δ) (f : γ → ε) {all later : List γ} {top : γ}
    (first : FirstGreatest (fun x => value (f x)) all top later) :
    FirstGreatest value (all.map f) (f top) (later.map f) := by
  obtain ⟨before, rfl, less, atMost⟩ := first
  exact ⟨before.map f, by simp, List.forall_mem_map.mpr less, List.forall_mem_map.mpr atMost⟩

/-- **The first of the greatest.** If moreover an entry that is better than an earlier
one is of greater value, unless one in between is, then what is found is the first of
the greatest. -/
theorem bestFrom_first (value : γ → δ) {best : γ} {rest : List γ}
    (down : ∀ x ∈ best :: rest, ∀ y ∈ best :: rest, better x y = false → value x ≤ value y)
    (up : ∀ before y between x after, best :: rest = before ++ y :: (between ++ x :: after) →
      better x y = true → value y < value x ∨ ∃ z ∈ between, value y < value z) :
    FirstGreatest value (best :: rest) (bestFrom better best rest rest).1
      (bestFrom better best rest rest).2 := by
  refine @bestFrom_induction γ better (best :: rest)
    (fun before best seen => (∀ x ∈ before, value x < value best) ∧
      ∀ x ∈ seen, value x ≤ value best)
    ?replaces ?stays [] best [] rest rfl (by simp)
  case replaces =>
    rintro before y seen x rest all improves ⟨earlier, later⟩
    have raised : value y < value x := by
      refine (up before y seen x rest all improves).resolve_right ?_
      rintro ⟨z, hz, above⟩
      exact above.not_ge (later z hz)
    refine ⟨fun z hz => ?_, by simp⟩
    rcases List.mem_append.mp hz with hz | hz
    · exact (earlier z hz).trans raised
    · rcases List.mem_cons.mp hz with rfl | hz
      · exact raised
      · exact (later z hz).trans_lt raised
  case stays =>
    rintro before y seen x rest all fails ⟨earlier, later⟩
    refine ⟨earlier, fun z hz => ?_⟩
    rcases List.mem_append.mp hz with hz | hz
    · exact later z hz
    · rw [List.mem_singleton.mp hz]
      exact down x (by simp [all]) y (by simp [all]) fails

end Scan

/-- The search for the anchor is a scan. -/
theorem anchorFrom_eq (side : Extremity) (bar : Nat) (best : Swing α)
    (later peaks : List (Swing α)) :
    anchorFrom side bar best later peaks = bestFrom (outranks side bar) best later peaks := by
  induction peaks generalizing best later with
  | nil => rfl
  | cons peak peaks ih =>
    unfold anchorFrom bestFrom
    rw [ih, ih]

/-- Peaks may be changed one by one, if none of them comes to outrank another. -/
theorem anchor_map {e e' : Extremity} {bar : Nat} (f : Swing α → Swing α)
    (same : ∀ x y, outranks e' bar (f x) (f y) = outranks e bar x y) (peaks : List (Swing α)) :
    anchor e' bar (peaks.map f) = (anchor e bar peaks).map (Prod.map f (List.map f)) := by
  cases peaks with
  | nil => rfl
  | cons peak rest =>
    show some (anchorFrom e' bar (f peak) (rest.map f) (rest.map f)) =
      some (Prod.map f (List.map f) (anchorFrom e bar peak rest rest))
    rw [anchorFrom_eq, anchorFrom_eq, bestFrom_map f same]

/-- The search for the next peak is a scan, of the peaks by the slopes that lead to them. -/
theorem steepestFrom_eq (side : Extremity) (origin best : Pivot α) (later peaks : List (Pivot α)) :
    steepestFrom side origin ⟨⟨best, origin, slopeTo origin best⟩, later⟩ peaks =
      let (next, left) := bestFrom
        (fun x y => side.beyond (slopeTo origin x) (slopeTo origin y)) best later peaks
      ⟨⟨next, origin, slopeTo origin next⟩, left⟩ := by
  induction peaks generalizing best later with
  | nil => rfl
  | cons peak peaks ih =>
    unfold steepestFrom bestFrom
    simp only [ih]
    split <;> rfl

end Ray

end MarketConditions
