import MarketConditions.Auction.ValueArea
import MarketConditions.Proofs.Scalar.Totals

/-!
# The fullest slot and the area around it

Volumes by slot in exact arithmetic. The scan for the fullest slot holds the first of the
greatest so far, and the area around it takes in a ring of at most two slots at a time,
until it holds the target or the whole.

- `ValueArea.Fullest`: the fullest slot, the lowest of several;
  `ValueArea.pointOfControl_cases`: **it is found** whenever any slot is filled.
- `ValueArea.slots`: the slots from one to another; `ValueArea.sum_slots`: **an area** is
  one slot and its rings.
- `ValueArea.steps_spec`: **how often it grows**; `ValueArea.valueArea_spec`: the area has
  the least distance that holds the target, or holds all slots.
- `ValueArea.grow`: the area as a loop over its two bounds; `ValueArea.valueArea_eq_grow`:
  **the two are one**, in any arithmetic.
- `ValueArea.valueArea_within`: its place among the slots; `ValueArea.valueArea_holds`: it
  holds its share.
- `ValueArea.valueArea_least`: how far it reaches; `ValueArea.smallest_enclosure`: **of
  all areas that reach as far to both sides it is the smallest that holds its share**.
-/

namespace MarketConditions.ValueArea

open Exact

/-! ## The fullest slot -/

/-- The fullest slot with its volume, the lowest slot of several. -/
structure Fullest {β : Type} [LT β] [LE β] [OfNat β 0] (volumes : List β) (slot : Nat)
    (volume : β) : Prop where
  here : volumes[slot]? = some volume
  filled : 0 < volume
  before : ∀ i < slot, ∀ v ∈ volumes[i]?, v < volume
  most : ∀ v ∈ volumes, v ≤ volume

theorem Fullest.inside {β : Type} [LT β] [LE β] [OfNat β 0] {volumes : List β} {slot : Nat}
    {volume : β} (fullest : Fullest volumes slot volume) : slot < volumes.length :=
  (List.getElem?_eq_some_iff.mp fullest.here).1

/-- What the scan holds after some real volumes. -/
def Leads (rs : List ℝ) : Option (Nat × Exact) → Prop
  | none => ∀ r ∈ rs, r ≤ 0
  | some (slot, volume) => ∃ r, volume = number r ∧ Fullest rs slot r

/-- A slot that is greater than all before it becomes the fullest. -/
theorem fullest_concat {rs : List ℝ} {r : ℝ} (filled : 0 < r) (greater : ∀ s ∈ rs, s < r) :
    Fullest (rs ++ [r]) rs.length r where
  here := List.getElem?_concat_length
  filled := filled
  before i inside v hv := by
    rw [List.getElem?_append_left inside] at hv
    exact greater v (List.mem_of_getElem? hv)
  most v hv := by
    rcases List.mem_append.mp hv with hv | hv
    · exact (greater v hv).le
    · exact (List.mem_singleton.mp hv).le

/-- A slot that is not greater leaves the fullest as it is. -/
theorem Fullest.concat {rs : List ℝ} {slot : Nat} {volume r : ℝ} (fullest : Fullest rs slot volume)
    (notGreater : r ≤ volume) : Fullest (rs ++ [r]) slot volume where
  here := by rw [List.getElem?_append_left fullest.inside, fullest.here]
  filled := fullest.filled
  before i earlier v hv := by
    rw [List.getElem?_append_left (earlier.trans fullest.inside)] at hv
    exact fullest.before i earlier v hv
  most v hv := by
    rcases List.mem_append.mp hv with hv | hv
    · exact fullest.most v hv
    · exact (List.mem_singleton.mp hv).trans_le notGreater

/-- **One slot** more. -/
theorem Leads.fuller {rs : List ℝ} {best : Option (Nat × Exact)} (leads : Leads rs best) (r : ℝ) :
    Leads (rs ++ [r]) (fuller best (rs.length, number r)) := by
  cases best with
  | none =>
    have empty : ∀ s ∈ rs, s ≤ 0 := leads
    show Leads _ (if number r > 0 then _ else _)
    by_cases filled : 0 < r
    · rw [if_pos (by simpa using filled)]
      exact ⟨r, rfl, fullest_concat filled fun s hs => (empty s hs).trans_lt filled⟩
    · rw [if_neg (by simpa using filled)]
      intro s hs
      rcases List.mem_append.mp hs with hs | hs
      · exact empty s hs
      · exact (List.mem_singleton.mp hs).trans_le (not_lt.mp filled)
  | some held =>
    obtain ⟨slot, _⟩ := held
    obtain ⟨volume, rfl, fullest⟩ := leads
    show Leads _ (if (number r > 0 && number r > number volume) = true then _ else _)
    by_cases greater : volume < r
    · have filled : 0 < r := fullest.filled.trans greater
      rw [if_pos (by simp [filled, greater])]
      exact ⟨r, rfl, fullest_concat filled fun s hs => (fullest.most s hs).trans_lt greater⟩
    · rw [if_neg (by simp [greater])]
      exact ⟨volume, rfl, fullest.concat (not_lt.mp greater)⟩

/-- All slots, one after the other. -/
theorem leads_foldl (rs : List ℝ) :
    Leads rs (((List.range rs.length).zip (rs.map number)).foldl fuller none) := by
  induction rs using List.reverseRecOn with
  | nil => exact fun _ h => nomatch h
  | append_singleton rs r ih =>
    have numbered : (List.range (rs ++ [r]).length).zip ((rs ++ [r]).map number) =
        (List.range rs.length).zip (rs.map number) ++ [(rs.length, number r)] := by
      rw [List.length_append, List.length_singleton, List.range_succ, List.map_append,
        List.zip_append (by simp)]
      rfl
    rw [numbered, List.foldl_append]
    exact ih.fuller r

/-- **The fullest slot is found**, unless all slots are empty. -/
theorem pointOfControl_cases {volumes : List Exact} (numbers : ∀ v ∈ volumes, IsNumber v) :
    pointOfControl volumes = none ∧ (∀ v ∈ volumes, v ≤ 0) ∨
      ∃ slot volume, pointOfControl volumes = some slot ∧ Fullest volumes slot volume := by
  rw [← map_real numbers]
  generalize volumes.map real = rs
  have leads := leads_foldl rs
  unfold pointOfControl
  rw [List.length_map]
  cases best : ((List.range rs.length).zip (rs.map number)).foldl fuller none with
  | none =>
    rw [best] at leads
    refine .inl ⟨rfl, fun v hv => ?_⟩
    obtain ⟨r, hr, rfl⟩ := List.mem_map.mp hv
    simpa using leads r hr
  | some held =>
    obtain ⟨slot, _⟩ := held
    rw [best] at leads
    obtain ⟨volume, rfl, fullest⟩ := leads
    refine .inr ⟨slot, number volume, rfl, ?_⟩
    constructor
    case here => rw [List.getElem?_map, fullest.here, Option.map_some]
    case filled => simpa using fullest.filled
    case before =>
      intro i earlier v hv
      rw [List.getElem?_map] at hv
      obtain ⟨r, hr, rfl⟩ := Option.map_eq_some_iff.mp hv
      exact fullest.before i earlier r hr
    case most =>
      intro v hv
      obtain ⟨r, hr, rfl⟩ := List.mem_map.mp hv
      exact fullest.most r hr

/-! ## The area around a slot -/

/-- The slots from the first to the last, as far as there are any. -/
def slots {β : Type} (first last : Nat) (volumes : List β) : List β :=
  (volumes.take (last + 1)).drop first

theorem slots_map {β γ : Type} (f : β → γ) (first last : Nat) (volumes : List β) :
    slots first last (volumes.map f) = (slots first last volumes).map f := by
  unfold slots
  rw [List.map_drop, List.map_take]

/-- None comes after the last of all. -/
theorem slots_min {β : Type} {volumes : List β} (some : 0 < volumes.length) (first last : Nat) :
    slots first (min last (volumes.length - 1)) volumes = slots first last volumes := by
  unfold slots
  rw [show min last (volumes.length - 1) + 1 = min (last + 1) volumes.length by omega,
    ← List.take_take, List.take_length]

theorem rings_map {β γ : Type} (f : β → γ) (below above : List β) :
    rings (below.map f) (above.map f) = (rings below above).map (List.map f) := by
  induction below generalizing above with
  | nil => simp [rings]
  | cons b below ih =>
    cases above with
    | nil =>
      have rest := ih []
      rw [List.map_nil] at rest
      simp [rings, rest]
    | cons a above => simp [rings, ih]

theorem length_rings {β : Type} (below above : List β) :
    (rings below above).length = max below.length above.length := by
  induction below generalizing above with
  | nil => simp [rings]
  | cons b below ih =>
    cases above with
    | nil => simp [rings, ih]
    | cons a above => simp [rings, ih, Nat.add_max_add_right]

/-- The first rings hold the slots next below and next above. -/
theorem sum_take_rings (below above : List ℝ) (k : Nat) :
    ((rings below above).take k).flatten.sum = (below.take k).sum + (above.take k).sum := by
  induction below generalizing above k with
  | nil =>
    induction above generalizing k with
    | nil => simp [rings]
    | cons a above ih =>
      cases k with
      | zero => simp
      | succ k => simpa [rings] using ih k
  | cons b below ih =>
    cases k with
    | zero => simp
    | succ k =>
      cases above with
      | nil => simp [rings, ih]
      | cons a above =>
        simp only [rings, List.take_succ_cons, List.flatten_cons, List.sum_append, ih,
          List.sum_cons, List.sum_nil]
        ring

/-- The area is the slot between what is next below it and what is next above it. -/
theorem slots_append {β : Type} (below : List β) (v : β) (above : List β) (k : Nat) :
    slots (below.length - k) (below.length + k) (below ++ v :: above) =
      (below.reverse.take k).reverse ++ v :: above.take k := by
  have upto : (below ++ v :: above).take (below.length + k + 1) = below ++ v :: above.take k := by
    rw [Nat.add_assoc, List.take_length_add_append, List.take_succ_cons]
  unfold slots
  rw [upto, List.drop_append_of_le_length (Nat.sub_le ..), List.take_reverse, List.reverse_reverse]

theorem eq_append_getElem {β : Type} {xs : List β} {slot : Nat} (inside : slot < xs.length) :
    xs = xs.take slot ++ xs[slot] :: xs.drop (slot + 1) := by
  rw [List.getElem_cons_drop, List.take_append_drop]

/-- **An area is one slot and its rings.** -/
theorem sum_slots {rs : List ℝ} {slot : Nat} (inside : slot < rs.length) (k : Nat) :
    (slots (slot - k) (slot + k) rs).sum =
      rs[slot] + ((rings (rs.take slot).reverse (rs.drop (slot + 1))).take k).flatten.sum := by
  have below : (rs.take slot).length = slot := List.length_take_of_le inside.le
  have area := slots_append (rs.take slot) rs[slot] (rs.drop (slot + 1)) k
  rw [← eq_append_getElem inside, below] at area
  rw [area, sum_take_rings, List.sum_append, List.sum_reverse, List.sum_cons]
  ring

/-- An area that reaches both ends is the whole. -/
theorem slots_all {β : Type} {volumes : List β} {slot k : Nat} (low : slot ≤ k)
    (high : volumes.length ≤ slot + k + 1) : slots (slot - k) (slot + k) volumes = volumes := by
  unfold slots
  rw [List.take_of_length_le high, Nat.sub_eq_zero_of_le low, List.drop_zero]

/-! ## Growth -/

/-- **How often the area grows**: as long as it holds less than the target, and
there are rings. -/
theorem steps_spec (target enclosed : ℝ) (outer : List (List ℝ)) :
    ∃ k, steps (number target) (number enclosed) (outer.map (List.map number)) = k ∧
      (∀ j < k, enclosed + (outer.take j).flatten.sum < target) ∧
      (target ≤ enclosed + (outer.take k).flatten.sum ∨ k = outer.length) := by
  induction outer generalizing enclosed with
  | nil => exact ⟨0, rfl, fun _ h => absurd h (Nat.not_lt_zero _), .inr rfl⟩
  | cons ring outer ih =>
    rw [List.map_cons, steps, foldl_add]
    by_cases short : enclosed < target
    · obtain ⟨k, grown, less, done⟩ := ih (enclosed + ring.sum)
      refine ⟨k + 1, ?_, fun j hj => ?_, ?_⟩
      · rw [if_pos ((number_lt_iff ..).mpr short), grown]
      · cases j with
        | zero => simpa using short
        | succ j =>
          rw [List.take_succ_cons, List.flatten_cons, List.sum_append, ← add_assoc]
          exact less j (Nat.lt_of_succ_lt_succ hj)
      · rw [List.take_succ_cons, List.flatten_cons, List.sum_append, ← add_assoc]
        exact done.imp_right (congrArg (· + 1))
    · refine ⟨0, if_neg ((number_lt_iff ..).not.mpr short),
        fun _ h => absurd h (Nat.not_lt_zero _), ?_⟩
      exact .inl (by simpa using short)

/-- **The value area** of real volumes has the least distance within which the slots hold
the target, or it holds all slots. -/
theorem valueArea_spec {rs : List ℝ} {slot : Nat} (inside : slot < rs.length) (share : ℝ) :
    ∃ k, valueArea (rs.map number) slot (number share) =
      (slot - k, min (slot + k) (rs.length - 1)) ∧
      (∀ j < k, (slots (slot - j) (slot + j) rs).sum < rs.sum * share) ∧
      (rs.sum * share ≤ (slots (slot - k) (slot + k) rs).sum ∨
        slots (slot - k) (slot + k) rs = rs) := by
  have target : Scalar.sum (rs.map number) * number share = number (rs.sum * share) := by
    rw [sum_number, number_mul]
  have centre : ((rs.map number)[slot]?).getD 0 = number rs[slot] := by
    rw [List.getElem?_map, List.getElem?_eq_getElem inside]
    rfl
  have outer : rings ((rs.map number).take slot).reverse ((rs.map number).drop (slot + 1)) =
      (rings (rs.take slot).reverse (rs.drop (slot + 1))).map (List.map number) := by
    rw [← List.map_take, ← List.map_reverse, ← List.map_drop, rings_map]
  obtain ⟨k, grown, less, done⟩ :=
    steps_spec (rs.sum * share) rs[slot] (rings (rs.take slot).reverse (rs.drop (slot + 1)))
  refine ⟨k, ?_, fun j hj => ?_, ?_⟩
  · unfold valueArea
    simp only [target, centre, outer, grown, List.length_map]
  · rw [sum_slots inside]
    exact less j hj
  · rw [sum_slots inside]
    refine done.imp_right fun all => ?_
    rw [length_rings, List.length_reverse, List.length_take, List.length_drop] at all
    exact slots_all (by omega) (by omega)

/-- The area is around its slot, among all slots. -/
theorem valueArea_within {α : Type} [Scalar α] {volumes : List α} {slot : Nat}
    (inside : slot < volumes.length) (share : α) :
    (valueArea volumes slot share).1 ≤ slot ∧ slot ≤ (valueArea volumes slot share).2 ∧
      (valueArea volumes slot share).2 < volumes.length := by
  refine ⟨Nat.sub_le .., ?_, ?_⟩
  · exact Nat.le_min.mpr ⟨Nat.le_add_right .., by omega⟩
  · exact Nat.lt_of_le_of_lt (Nat.min_le_right ..) (by omega)

/-! ## Growth with two bounds -/

section Loop

variable {α : Type} [Scalar α]

/-- What is enclosed with one slot more, if there is one. -/
def takeIn (enclosed : α) (slot : Option α) : α := slot.elim enclosed (enclosed + ·)

/-- One step takes in the next slot below, if there is one, and then the next above. -/
theorem steps_rings (target enclosed : α) (below above : List α) :
    steps target enclosed (rings below above) =
      if enclosed < target ∧ (below ≠ [] ∨ above ≠ []) then
        steps target (takeIn (takeIn enclosed below.head?) above.head?)
          (rings below.tail above.tail) + 1
      else 0 := by
  cases below <;> cases above <;> simp [rings, steps, takeIn]

/-- The area as a loop over two bounds. While it encloses less than the target, and there
is a slot on either side, it takes in the next slot below, if there is one, and then the
next above. -/
def grow (volumes : List α) (target : α) (lo hi : Nat) (enclosed : α) : Nat × Nat :=
  if more : enclosed < target ∧ (0 < lo ∨ hi + 1 < volumes.length) then
    let lower := if 0 < lo then enclosed + (volumes[lo - 1]?).getD 0 else enclosed
    let both := if hi + 1 < volumes.length then lower + (volumes[hi + 1]?).getD 0 else lower
    grow volumes target (if 0 < lo then lo - 1 else lo)
      (if hi + 1 < volumes.length then hi + 1 else hi) both
  else (lo, hi)
termination_by lo + (volumes.length - hi)
decreasing_by split <;> split <;> omega

/-- The slots below, from the next one down. -/
theorem below_eq {volumes : List α} {lo : Nat} (inside : lo < volumes.length) :
    (volumes.take lo).reverse.head? = (if 0 < lo then some ((volumes[lo - 1]?).getD 0) else none) ∧
      (volumes.take lo).reverse.tail = (volumes.take (lo - 1)).reverse := by
  constructor
  · rw [List.head?_reverse, List.getLast?_take]
    by_cases some : 0 < lo
    · rw [if_neg some.ne', if_pos some, List.getElem?_eq_getElem (by omega)]
      rfl
    · rw [if_pos (Nat.eq_zero_of_not_pos some), if_neg some]
  · rw [List.tail_reverse, List.dropLast_take inside]

/-- The slots above, from the next one up. -/
theorem above_eq (volumes : List α) (hi : Nat) :
    (volumes.drop (hi + 1)).head? =
      (if hi + 1 < volumes.length then some ((volumes[hi + 1]?).getD 0) else none) ∧
      (volumes.drop (hi + 1)).tail = volumes.drop (hi + 1 + 1) := by
  refine ⟨?_, List.tail_drop ..⟩
  rw [List.head?_drop]
  split
  · rename_i inside
    rw [List.getElem?_eq_getElem inside, Option.getD_some]
  · rename_i outside
    exact List.getElem?_eq_none (Nat.le_of_not_lt outside)

omit [Scalar α] in
/-- The loop goes on as long as there are rings. -/
theorem left_iff {volumes : List α} {lo : Nat} (inside : lo < volumes.length) (hi : Nat) :
    (volumes.take lo).reverse ≠ [] ∨ volumes.drop (hi + 1) ≠ [] ↔
      0 < lo ∨ hi + 1 < volumes.length := by
  rw [← List.length_pos_iff, ← List.length_pos_iff, List.length_reverse, List.length_take,
    List.length_drop]
  omega

/-- **The loop over two bounds** ends at the same distance below and above, cut off at the
first and at the last slot. -/
theorem grow_eq {volumes : List α} (target : α) {lo hi : Nat} (enclosed : α) (ordered : lo ≤ hi)
    (inside : hi < volumes.length) :
    let k := steps target enclosed (rings (volumes.take lo).reverse (volumes.drop (hi + 1)))
    grow volumes target lo hi enclosed = (lo - k, min (hi + k) (volumes.length - 1)) := by
  fun_induction grow volumes target lo hi enclosed with
  | case1 lo hi enclosed more lower both ih =>
    intro k
    have below : lo < volumes.length := ordered.trans_lt inside
    obtain ⟨head, tail⟩ := below_eq below
    obtain ⟨head', tail'⟩ := above_eq volumes hi
    have isLower : takeIn enclosed (volumes.take lo).reverse.head? = lower := by
      rw [head]
      exact apply_ite (takeIn enclosed) ..
    have isBoth : takeIn lower (volumes.drop (hi + 1)).head? = both := by
      rw [head']
      exact apply_ite (takeIn lower) ..
    -- a bound that stays where it is has no slots left on its side
    have lo' : (if 0 < lo then lo - 1 else lo) = lo - 1 := by split <;> omega
    have hi' : volumes.drop ((if hi + 1 < volumes.length then hi + 1 else hi) + 1) =
        volumes.drop (hi + 1 + 1) := by
      split
      · rfl
      · rw [List.drop_of_length_le (by omega), List.drop_of_length_le (by omega)]
    simp only [dite_eq_ite] at ih
    have next := ih (by split <;> split <;> omega) (by split <;> omega)
    simp only [lo', hi'] at next
    have grown : k = steps target both
        (rings (volumes.take (lo - 1)).reverse (volumes.drop (hi + 1 + 1))) + 1 := by
      show steps _ _ _ = _
      rw [steps_rings, if_pos ⟨more.1, (left_iff below hi).mpr more.2⟩, isLower, isBoth,
        tail, tail']
    rw [lo', next, grown]
    congr 1
    · omega
    · split <;> omega
  | case2 lo hi enclosed done =>
    intro k
    have none : k = 0 := by
      show steps _ _ _ = 0
      rw [steps_rings, if_neg (mt (And.imp_right (left_iff (ordered.trans_lt inside) hi).mp) done)]
    rw [none]
    congr 1
    omega

/-- **The value area is what the loop over two bounds comes to**, in any arithmetic. -/
theorem valueArea_eq_grow {volumes : List α} {slot : Nat} (inside : slot < volumes.length)
    (share : α) : valueArea volumes slot share =
      grow volumes (Scalar.sum volumes * share) slot slot ((volumes[slot]?).getD 0) :=
  (grow_eq _ _ (Nat.le_refl slot) inside).symm

end Loop

/-! ## The smallest enclosure -/

/-- All slots hold the share of the whole that is asked for, where none holds less
than nothing. -/
theorem share_le_whole {rs : List ℝ} (nonneg : ∀ r ∈ rs, 0 ≤ r) {share : ℝ} (atMost : share ≤ 1) :
    rs.sum * share ≤ rs.sum :=
  mul_le_of_le_one_right (List.sum_nonneg nonneg) atMost

/-- **How far the area reaches**: to the least distance within which the slots hold
the target. -/
theorem valueArea_least {rs : List ℝ} (nonneg : ∀ r ∈ rs, 0 ≤ r) {slot : Nat}
    (inside : slot < rs.length) {share : ℝ} (atMost : share ≤ 1) :
    ∃ k, valueArea (rs.map number) slot (number share) =
      (slot - k, min (slot + k) (rs.length - 1)) ∧
      IsLeast {k | rs.sum * share ≤ (slots (slot - k) (slot + k) rs).sum} k := by
  obtain ⟨k, area, less, done⟩ := valueArea_spec inside share
  refine ⟨k, area, ?_, ?_⟩
  · -- growth ends early only where the target is reached
    rcases done with enough | all
    · exact enough
    · show rs.sum * share ≤ (slots (slot - k) (slot + k) rs).sum
      rw [all]
      exact share_le_whole nonneg atMost
  · intro j enough
    by_contra nearer
    exact absurd enough (not_le.mpr (less j (not_le.mp nearer)))

/-- Volumes that are not below zero are real numbers that are not. -/
theorem exists_real {volumes : List Exact} (nonneg : ∀ v ∈ volumes, IsNonneg v) :
    ∃ rs : List ℝ, volumes = rs.map number ∧ ∀ r ∈ rs, 0 ≤ r := by
  refine ⟨volumes.map real, (map_real fun v hv => (nonneg v hv).isNumber).symm, ?_⟩
  exact List.forall_mem_map.mpr fun v hv => (nonneg v hv).real_nonneg

/-- Slots hold a share of the whole if they do so as real numbers. -/
theorem share_le_iff {rs : List ℝ} (some : 0 < rs.length) (share : ℝ) (first last : Nat) :
    Scalar.sum (rs.map number) * number share ≤
        Scalar.sum (slots first (min last ((rs.map number).length - 1)) (rs.map number)) ↔
      rs.sum * share ≤ (slots first last rs).sum := by
  rw [List.length_map, slots_map, slots_min some, sum_number, sum_number, number_mul, number_le_iff]

/-- **The area holds its share** of the whole, where no slot holds less than nothing. -/
theorem valueArea_holds {volumes : List Exact} (nonneg : ∀ v ∈ volumes, IsNonneg v) {slot : Nat}
    (inside : slot < volumes.length) {share : Exact} (isNumber : IsNumber share)
    (atMost : share ≤ 1) :
    Scalar.sum volumes * share ≤ Scalar.sum
      (slots (valueArea volumes slot share).1 (valueArea volumes slot share).2 volumes) := by
  obtain ⟨share, rfl⟩ := isNumber
  obtain ⟨rs, rfl, above⟩ := exists_real nonneg
  have within : slot < rs.length := by simpa using inside
  have atMost : share ≤ 1 := by simpa using atMost
  obtain ⟨k, area, least⟩ := valueArea_least above within atMost
  rw [area, ← List.length_map (f := number), share_le_iff (Nat.zero_lt_of_lt within)]
  exact least.1

/-- **The value area is the smallest symmetric enclosure.** Take volumes of which none is
below zero, one of their slots, and a share up to the whole. The area goes the least
distance to both sides, cut off at the first and at the last slot, at which the slots
within hold the share of all volume; so it goes no further than there are slots, has the
slot inside, and holds the share. -/
theorem smallest_enclosure {volumes : List Exact} (nonneg : ∀ v ∈ volumes, IsNonneg v) {slot : Nat}
    (inside : slot < volumes.length) {share : Exact} (isNumber : IsNumber share)
    (atMost : share ≤ 1) :
    let area := valueArea volumes slot share
    (∃ k, area = (slot - k, min (slot + k) (volumes.length - 1)) ∧
      IsLeast {k | Scalar.sum volumes * share ≤
        Scalar.sum (slots (slot - k) (min (slot + k) (volumes.length - 1)) volumes)} k ∧
      k ≤ max slot (volumes.length - 1 - slot)) ∧
    (area.1 ≤ slot ∧ slot ≤ area.2 ∧ area.2 < volumes.length) ∧
    Scalar.sum volumes * share ≤ Scalar.sum (slots area.1 area.2 volumes) := by
  refine ⟨?_, valueArea_within inside share, valueArea_holds nonneg inside isNumber atMost⟩
  obtain ⟨share, rfl⟩ := isNumber
  obtain ⟨rs, rfl, above⟩ := exists_real nonneg
  have within : slot < rs.length := by simpa using inside
  have atMost : share ≤ 1 := by simpa using atMost
  obtain ⟨k, area, least⟩ := valueArea_least above within atMost
  have enough : ∀ j, Scalar.sum (rs.map number) * number share ≤ Scalar.sum (slots (slot - j)
      (min (slot + j) ((rs.map number).length - 1)) (rs.map number)) ↔
        rs.sum * share ≤ (slots (slot - j) (slot + j) rs).sum :=
    fun j => share_le_iff (Nat.zero_lt_of_lt within) share _ _
  refine ⟨k, ?_, ?_, ?_⟩
  · rw [area, List.length_map]
  · simpa only [enough] using least
  · -- within the greater of the two distances are all slots
    rw [List.length_map]
    refine least.2 ?_
    show rs.sum * share ≤ (slots _ _ rs).sum
    rw [slots_all (Nat.le_max_left ..) (by omega)]
    exact share_le_whole above atMost

/-- Most volume at the lowest slot: the area grows upwards alone. -/
theorem smallest_enclosure_edge :
    let volumes : List Exact := [10, 1, 1, 1]
    let share := number 0.9
    ((∀ v ∈ volumes, IsNonneg v) ∧ 0 < volumes.length ∧ IsNumber share ∧ share ≤ 1) ∧
    let area := valueArea volumes 0 share
    area = (0, 2) ∧
    (∃ k, area = (0 - k, min (0 + k) (volumes.length - 1)) ∧
      IsLeast {k | Scalar.sum volumes * share ≤
        Scalar.sum (slots (0 - k) (min (0 + k) (volumes.length - 1)) volumes)} k ∧
      k ≤ max 0 (volumes.length - 1 - 0)) ∧
    (area.1 ≤ 0 ∧ 0 ≤ area.2 ∧ area.2 < volumes.length) ∧
    Scalar.sum volumes * share ≤ Scalar.sum (slots area.1 area.2 volumes) := by
  intro volumes share
  have nonneg : ∀ v ∈ volumes, IsNonneg v := by
    intro v hv
    rcases List.mem_cons.mp hv with rfl | hv
    · exact isNonneg_literal 10
    · rw [List.eq_of_mem_replicate (n := 3) hv]
      exact isNonneg_literal 1
  have isNumber : IsNumber share := ⟨0.9, rfl⟩
  have atMost : share ≤ 1 := by
    rw [ofNat_eq, number_le_iff]
    norm_num
  have reaches : valueArea volumes 0 share = (0, 2) := by
    simp [volumes, share, valueArea, steps, rings, Scalar.sum]
    norm_num
  exact ⟨⟨nonneg, by decide, isNumber, atMost⟩, reaches,
    smallest_enclosure nonneg (by decide) isNumber atMost⟩

end MarketConditions.ValueArea
