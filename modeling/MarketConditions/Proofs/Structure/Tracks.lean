import Mathlib.Data.List.Chain
import MarketConditions.Proofs.Structure.Peaks

/-!
# The way of a ray

Whatever the slopes are, and whether they are defined or not, a ray goes from its
anchor over later peaks to the last one: each step is to a peak that comes later, and
there is a step as long as there is such a peak. So the number of steps that a chain is
given is enough.

- `Ray.Path`: legs that begin where the one before ends; `Path.joined`, `Path.newest`:
  how they join.
- `Ray.steepest_split`, `Ray.chainFrom_induction`: **the steps of a chain**.
- `Ray.Drawn`, `Ray.chainFrom_drawn`: a chain ends where there is no further step.
- `Ray.Track`, `Ray.chainFrom_track`: **a chain is a path over peaks, to the last one**.
- `Ray.of_chainAt`: what is seen at a bar is the chain from the anchor of the
  window's peaks.
-/

namespace MarketConditions.Ray

variable {α : Type} [Scalar α]

/-! ## Paths -/

/-- Legs from one peak to another, each of which begins where the one before ends and goes
on to a later bar, with the slope between its ends. -/
inductive Path {α : Type} [Scalar α] : Pivot α → List (Segment α) → Pivot α → Prop where
  | here (p : Pivot α) : Path p [] p
  | step {first next last : Pivot α} {legs : List (Segment α)} (forward : first.index < next.index)
    (rest : Path next legs last) : Path first (⟨next, first, slopeTo first next⟩ :: legs) last

theorem Path.leg {α : Type} [Scalar α] {first last : Pivot α} {legs : List (Segment α)}
    (path : Path first legs last) {leg : Segment α} (here : leg ∈ legs) :
    leg.older.index < leg.newer.index ∧ leg.slope = slopeTo leg.older leg.newer := by
  induction path with
  | here => cases here
  | step forward rest ih =>
    rcases List.mem_cons.mp here with rfl | here
    · exact ⟨forward, rfl⟩
    · exact ih here

variable {first last : Pivot α} {legs : List (Segment α)}

theorem Path.head (path : Path first legs last) : ∀ leg ∈ legs.head?, leg.older = first := by
  cases path with
  | here => nofun
  | step forward rest =>
    rintro leg ⟨⟩
    rfl

/-- Each leg begins where the one before ends. -/
theorem Path.joined (path : Path first legs last) :
    legs.IsChain fun leg next => next.older = leg.newer := by
  induction path with
  | here => exact .nil
  | step forward rest ih => exact List.isChain_cons.mpr ⟨rest.head, ih⟩

/-- A path ends where its last leg does. -/
theorem Path.newest (path : Path first legs last) :
    (legs.getLast?.map Segment.newer).getD first = last := by
  induction path with
  | here => rfl
  | @step first next last legs forward rest ih =>
    rw [List.getLast?_cons, ← ih]
    cases legs.getLast? <;> rfl

/-! ## Steps -/

variable {e : Extremity}

/-- The anchor is one of the peaks, followed by those that are left. -/
theorem anchor_split {bar : Nat} {peaks : List (Swing α)} {first : Swing α} {later : List (Swing α)}
    (found : anchor e bar peaks = some (first, later)) :
    ∃ before, peaks = before ++ first :: later := by
  cases peaks with
  | nil => cases found
  | cons peak rest =>
    simp only [anchor, anchorFrom_eq, Option.some.injEq] at found
    have split := bestFrom_split (outranks e bar) peak rest
    rwa [found] at split

/-- A step leads to one of the later peaks, and leaves those after it. -/
theorem steepest_split {later : List (Pivot α)} {s : Step α}
    (found : steepest e first later = some s) :
    ∃ skipped next, later = skipped ++ next :: s.later ∧
      s.leg = ⟨next, first, slopeTo first next⟩ := by
  cases later with
  | nil => cases found
  | cons peak rest =>
    simp only [steepest, steepestFrom_eq, Option.some.injEq] at found
    subst found
    obtain ⟨skipped, split⟩ := bestFrom_split
      (fun x y => e.beyond (slopeTo first x) (slopeTo first y)) peak rest
    exact ⟨skipped, _, split, rfl⟩

/-- **The steps of a chain.** What holds of a peak with none after it, and is handed on by
each step, holds of a chain, if it is given a step for each peak. -/
theorem chainFrom_induction {P : Pivot α → List (Pivot α) → List (Segment α) → Prop}
    (alone : ∀ first, P first [] [])
    (step : ∀ first later legs s, steepest e first later = some s → P s.leg.newer s.later legs →
      P first later (s.leg :: legs))
    {steps : Nat} {first : Pivot α} {later : List (Pivot α)} (enough : later.length ≤ steps) :
    P first later (chainFrom e steps first later) := by
  induction steps generalizing first later with
  | zero =>
    obtain rfl : later = [] := List.length_eq_zero_iff.mp (Nat.le_zero.mp enough)
    exact alone first
  | succ steps ih =>
    unfold chainFrom
    cases found : steepest e first later with
    | none =>
      cases later with
      | nil => exact alone first
      | cons => cases found
    | some s =>
      obtain ⟨skipped, next, rfl, leg⟩ := steepest_split found
      rw [List.length_append, List.length_cons] at enough
      exact step _ _ _ s found (ih (by omega))

/-- The legs from a peak on when a step is taken for as long as there is one. Nothing
bounds the number of steps here. -/
inductive Drawn (e : Extremity) : Pivot α → List (Pivot α) → List (Segment α) → Prop where
  | done {first : Pivot α} {later : List (Pivot α)} (last : steepest e first later = none) :
    Drawn e first later []
  | step {first : Pivot α} {later : List (Pivot α)} {legs : List (Segment α)} {s : Step α}
    (found : steepest e first later = some s) (rest : Drawn e s.leg.newer s.later legs) :
    Drawn e first later (s.leg :: legs)

/-- **A chain is drawn to its end**, when it is given a step for each peak. -/
theorem chainFrom_drawn {steps : Nat} {first : Pivot α} {later : List (Pivot α)}
    (enough : later.length ≤ steps) : Drawn e first later (chainFrom e steps first later) :=
  chainFrom_induction (P := Drawn e) (fun _ => .done rfl)
    (fun _ _ _ _ found rest => .step found rest) enough

/-! ## Tracks -/

/-- The legs from a peak on, over the peaks after it. -/
structure Track (first : Pivot α) (later : List (Pivot α)) (legs : List (Segment α)) : Prop where
  path : Path first legs ((first :: later).getLast (List.cons_ne_nil _ _))
  vertices : ∀ leg ∈ legs, leg.older ∈ first :: later ∧ leg.newer ∈ later

theorem Track.alone (first : Pivot α) : Track first [] [] where
  path := .here first
  vertices _ hleg := nomatch hleg

/-- One more leg before a track. -/
theorem Track.step {next : Pivot α} {skipped left : List (Pivot α)} (track : Track next left legs)
    (forward : first.index < next.index) :
    Track first (skipped ++ next :: left) (⟨next, first, slopeTo first next⟩ :: legs) := by
  constructor
  · have last : (first :: (skipped ++ next :: left)).getLast (List.cons_ne_nil _ _) =
        (next :: left).getLast (List.cons_ne_nil _ _) := by
      simp
    rw [last]
    exact .step forward track.path
  · intro leg hleg
    rcases List.mem_cons.mp hleg with rfl | hleg
    · exact ⟨List.mem_cons_self, by simp⟩
    · obtain ⟨older, newer⟩ := track.vertices leg hleg
      exact ⟨List.mem_cons_of_mem _ (List.mem_append_right _ older), by simp [newer]⟩

/-- **A chain is a path over peaks, to the last one.** -/
theorem chainFrom_track {steps : Nat} {first : Pivot α} {later : List (Pivot α)}
    (sorted : (first :: later).Pairwise fun p q => p.index < q.index)
    (enough : later.length ≤ steps) : Track first later (chainFrom e steps first later) := by
  refine chainFrom_induction
    (P := fun first later legs => (first :: later).Pairwise (fun p q => p.index < q.index) →
      Track first later legs) (fun first _ => .alone first) ?_ enough sorted
  intro first later legs s found track sorted
  obtain ⟨skipped, next, rfl, leg⟩ := steepest_split found
  obtain ⟨after, rest⟩ := List.pairwise_cons.mp sorted
  rw [leg] at track ⊢
  exact (track (List.pairwise_append.mp rest).2.1).step (after next (by simp))

/-- What is seen at a bar is the chain from the anchor of the window's peaks. -/
theorem of_chainAt {kind : RayKind} {lookback skip bars bar : ℕ}
    {swings : List (Swing α)} {chain : RayChain α}
    (seen : chainAt kind lookback skip bars swings bar = some chain) :
    ∃ first later, anchor kind.side bar
        (windowPeaks kind.side (windowStart lookback bar) (bar - skip) swings) =
          some (first, later) ∧
      chain = ⟨first.pivot,
        (chainFrom kind.side later.length first.pivot (later.map Swing.pivot)).reverse⟩ := by
  unfold chainAt at seen
  split at seen
  · cases seen
  · obtain ⟨⟨first, later⟩, found, same⟩ := Option.map_eq_some_iff.mp seen
    exact ⟨first, later, found, same.symm⟩

end MarketConditions.Ray
