import MarketConditions.Indicator.Turnover
import MarketConditions.Proofs.Scalar.Totals
import MarketConditions.Proofs.Indicator.Oscillators

/-!
# The day's average price and its profile

The average price of a day is carried forward from bar to bar and begins anew where the
day changes; the profile of a day goes back from each bar for as long as the bars before
fall on its day. Both are about the same bars, in whatever order the days come and however
often one comes again.

- `Profile.dayStart`: the first bar of a day, found by going back.
- `Profile.joinDay`, `Profile.joinDay_eq`: **one bar further**, bars carried forward are
  those found by going back.
- `Turnover.dayStep_totals`: the totals that are carried forward are those of the bars.
- `Profile.getElem?_running_joinDay`: **the run**, for whatever is made of the bars.
- `Turnover.meanPrice`: the mean price of some bars by volume;
  `Turnover.meanPrice_between`: **it lies between their lowest low and their
  highest high**.
- `Turnover.average_shares_day`: the average price at a bar is that of the bars that its
  profile is of.
-/

namespace MarketConditions

open Column

section Generic

variable {α : Type} [Scalar α]

/-! ## The bars of a day -/

namespace Profile

variable {candles : List (Candle α)}

/-- The first bar of a day: back from a bar for as long as the bar before falls
on the day. -/
def dayStart (candles : List (Candle α)) (day : Int) : Nat → Nat
  | 0 => 0
  | bar + 1 =>
    if candles[bar]?.any fun c => c.time.day = day then dayStart candles day bar else bar + 1

omit [Scalar α] in
theorem dayStart_le (candles : List (Candle α)) (day : Int) (bar : Nat) :
    dayStart candles day bar ≤ bar := by
  induction bar with
  | zero => exact Nat.le_refl 0
  | succ bar ih =>
    unfold dayStart
    split
    · exact Nat.le_succ_of_le ih
    · exact Nat.le_refl _

/-- The bars of a day up to one of them. -/
def dayBars (candles : List (Candle α)) (day : Int) (bar : Nat) : List (Candle α) :=
  (candles.take (bar + 1)).drop (dayStart candles day bar)

omit [Scalar α] in
/-- The last of them is the bar itself. -/
theorem getLast?_dayBars {bar : Nat} {c : Candle α} (here : candles[bar]? = some c) (day : Int) :
    (dayBars candles day bar).getLast? = some c := by
  have inside := (List.getElem?_eq_some_iff.mp here).1
  have start := dayStart_le candles day bar
  unfold dayBars
  rw [List.getLast?_drop, if_neg (by rw [List.length_take]; omega), List.take_add_one, here]
  exact List.getLast?_concat

/-- The bars of the day before a bar, if they are carried forward. -/
def carried (candles : List (Candle α)) : Nat → List (Candle α)
  | 0 => []
  | bar + 1 => (candles[bar]?).elim [] fun c => dayBars candles c.time.day bar

omit [Scalar α] in
theorem carried_succ {bar : Nat} {c : Candle α} (here : candles[bar]? = some c) :
    carried candles (bar + 1) = dayBars candles c.time.day bar := by
  show (candles[bar]?).elim [] _ = _
  rw [here]
  rfl

/-- A bar joins the bars before it if it falls on the day of the last of them, and else
begins anew. -/
def joinDay (held : List (Candle α)) (c : Candle α) : List (Candle α) :=
  (if (held.getLast?).any fun previous => previous.time.day = c.time.day then held else []) ++ [c]

omit [Scalar α] in
/-- **One bar further**, what is carried forward is what is found by going back. -/
theorem joinDay_eq {bar : Nat} {c : Candle α} (here : candles[bar]? = some c) :
    joinDay (carried candles bar) c = dayBars candles c.time.day bar := by
  cases bar with
  | zero =>
    show [c] = candles.take (0 + 1)
    rw [List.take_add_one, here, List.take_zero]
    rfl
  | succ bar =>
    have inside := (List.getElem?_eq_some_iff.mp here).1
    have before : candles[bar]? = some candles[bar] := List.getElem?_eq_getElem (by omega)
    have grown : candles.take (bar + 1 + 1) = candles.take (bar + 1) ++ [c] := by
      rw [List.take_add_one, here]
      rfl
    have length : (candles.take (bar + 1)).length = bar + 1 := by
      rw [List.length_take]
      omega
    have start := dayStart_le candles c.time.day bar
    unfold joinDay
    rw [carried_succ before, getLast?_dayBars before, Option.any_some]
    unfold dayBars
    rw [grown, dayStart, before, Option.any_some]
    split
    · -- both go back from the bar before, for the same day
      rename_i same
      rw [of_decide_eq_true same, List.drop_append_of_le_length (by omega)]
    · rw [List.drop_append_of_le_length (by omega), List.drop_of_length_le (by omega)]

omit [Scalar α] in
/-- **The run.** What is made of the bars of the day, as they are carried forward, is made
of the bars found by going back. -/
theorem getElem?_running_joinDay {β : Type} (f : List (Candle α) → β) {bar : Nat} {c : Candle α}
    (here : candles[bar]? = some c) :
    (running (fun held c => (joinDay held c, f (joinDay held c))) [] candles)[bar]? =
      some (f (dayBars candles c.time.day bar)) := by
  have inside := (List.getElem?_eq_some_iff.mp here).1
  rw [← carried_succ here]
  refine getElem?_running_of_states (carried candles) (fun bar => f (carried candles (bar + 1)))
    (fun bar c here => ?_) inside
  rw [joinDay_eq here, carried_succ here]

omit [Scalar α] in
theorem getElem?_sessions_daily {bar : Nat} {c : Candle α} (here : candles[bar]? = some c) :
    (sessions .daily candles)[bar]? = some (some (dayBars candles c.time.day bar)) :=
  getElem?_running_joinDay some here

end Profile

/-- The columns of a profile show some levels at a bar, undefined ones if there are none. -/
structure ProfileSeries.ShowsAt (s : ProfileSeries α) (bar : Nat) (l : Option (ProfileLevels α)) :
    Prop where
  poc : s.poc[bar]? = some (orUndefined (l.map ProfileLevels.poc))
  vah : s.vah[bar]? = some (orUndefined (l.map ProfileLevels.vah))
  val : s.val[bar]? = some (orUndefined (l.map ProfileLevels.val))

/-- A profile shows the levels of its session. -/
theorem showsAt_volumeProfile {session : ProfileSession}
    {candles bars : List (Candle α)} {bar : Nat}
    (found : (Profile.sessions session candles)[bar]? = some (some bars)) (bins : Nat) (share : α) :
    (volumeProfile session bins share candles).ShowsAt bar (Profile.levels bins share bars) := by
  constructor <;>
  · simp only [volumeProfile, List.getElem?_map, found]
    rfl

/-! ## The average price of some bars -/

namespace Turnover

/-- A total from left to right. -/
def total (xs : List α) : α := xs.foldl (· + ·) 0

theorem total_concat (xs : List α) (x : α) : total (xs ++ [x]) = total xs + x :=
  List.foldl_concat ..

/-- What some bars have turned over. -/
def money (bars : List (Candle α)) : α := total (bars.map fun c => c.typicalPrice * c.volume)

/-- The volume of some bars. -/
def volume (bars : List (Candle α)) : α := total (bars.map Candle.volume)

/-- The mean price of some bars, weighted by volume; undefined unless there is volume. -/
def meanPrice (bars : List (Candle α)) : α :=
  if volume bars > 0 then money bars / volume bars else Scalar.undefined

/-- The totals of some bars with the day of the last of them. -/
def totals (bars : List (Candle α)) : Option (DayTotals α) :=
  (bars.getLast?).map fun last => ⟨last.time.day, money bars, volume bars⟩

theorem money_concat (bars : List (Candle α)) (c : Candle α) :
    money (bars ++ [c]) = money bars + c.typicalPrice * c.volume := by
  unfold money
  rw [List.map_append]
  exact total_concat ..

theorem volume_concat (bars : List (Candle α)) (c : Candle α) :
    volume (bars ++ [c]) = volume bars + c.volume := by
  unfold volume
  rw [List.map_append]
  exact total_concat ..

/-- **The totals that are carried forward** are those of the bars that are. -/
theorem dayStep_totals (held : List (Candle α)) (c : Candle α) : dayStep (totals held) c =
    (totals (Profile.joinDay held c), meanPrice (Profile.joinDay held c)) := by
  unfold Profile.joinDay totals meanPrice
  rw [List.getLast?_concat, money_concat, volume_concat]
  cases held.getLast? with
  | none => rfl
  | some last =>
    unfold dayStep
    by_cases same : last.time.day = c.time.day
    · simp only [Option.map_some, Option.any_some, same, decide_true, if_true]
    · simp only [Option.map_some, Option.any_some, same, decide_false, if_false]
      rfl

theorem getElem?_sessionAverage {candles : List (Candle α)} {bar : Nat} {c : Candle α}
    (here : candles[bar]? = some c) :
    (sessionAverage candles)[bar]? = some (meanPrice (Profile.dayBars candles c.time.day bar)) := by
  have forward : running dayStep (totals []) (candles.map id) = running (fun held c =>
      (Profile.joinDay held c, meanPrice (Profile.joinDay held c))) [] candles :=
    running_map totals id dayStep_totals [] candles
  rw [List.map_id] at forward
  show (running dayStep (totals []) candles)[bar]? = _
  rw [forward, Profile.getElem?_running_joinDay meanPrice here]

end Turnover

end Generic

/-! ## Between the lows and the highs -/

namespace Turnover

open Exact

/-- A mean lies between the bounds of what it is the mean of, whatever its weights are. -/
theorem weightedMean_between {β : Type} {xs : List β} {value weight : β → ℝ} {low high : ℝ}
    (weights : ∀ x ∈ xs, 0 ≤ weight x) (between : ∀ x ∈ xs, low ≤ value x ∧ value x ≤ high)
    (positive : 0 < (xs.map weight).sum) :
    low ≤ (xs.map fun x => value x * weight x).sum / (xs.map weight).sum ∧
      (xs.map fun x => value x * weight x).sum / (xs.map weight).sum ≤ high := by
  constructor
  · rw [le_div_iff₀ positive, ← List.sum_map_mul_left]
    exact List.sum_le_sum fun x hx => mul_le_mul_of_nonneg_right (between x hx).1 (weights x hx)
  · rw [div_le_iff₀ positive, ← List.sum_map_mul_left]
    exact List.sum_le_sum fun x hx => mul_le_mul_of_nonneg_right (between x hx).2 (weights x hx)

theorem total_eq (xs : List Exact) : total xs = Scalar.sum xs := by
  unfold total Scalar.sum
  rw [Exact.neg_zero]

/-- The mean of the high, the low and the close of a bar, as a real number. -/
noncomputable def realTypical (c : Candle Exact) : ℝ :=
  (c.high.real + c.low.real + c.close.real) / 3

theorem typicalPrice_eq {c : Candle Exact} (enclosed : c.Enclosed) :
    c.typicalPrice = number (realTypical c) := by
  unfold Candle.typicalPrice realTypical
  rw [← enclosed.high.number_real, ← enclosed.low.number_real,
    ← enclosed.close.number_real, ofNat_eq, number_add, number_add,
    number_div _ (by norm_num)]
  norm_num

/-- It lies between the low and the high. -/
theorem realTypical_between {c : Candle Exact} (enclosed : c.Enclosed) :
    c.low.real ≤ realTypical c ∧ realTypical c ≤ c.high.real := by
  have above := enclosed.above
  have below := enclosed.below
  rw [← enclosed.low.number_real, ← enclosed.close.number_real, number_le_iff] at above
  rw [← enclosed.close.number_real, ← enclosed.high.number_real, number_le_iff] at below
  unfold realTypical
  constructor <;> linarith

variable {bars : List (Candle Exact)}

/-- In exact arithmetic the mean price is the mean of the typical prices, where
there is volume. -/
theorem meanPrice_eq (enclosed : ∀ c ∈ bars, c.Enclosed) (volumes : ∀ c ∈ bars, c.volume.IsNonneg)
    (defined : Scalar.isUndefined (meanPrice bars) = false) :
    0 < (bars.map fun c => c.volume.real).sum ∧
      meanPrice bars = number ((bars.map fun c => realTypical c * c.volume.real).sum /
        (bars.map fun c => c.volume.real).sum) := by
  have volumeEq : volume bars = number (bars.map fun c => c.volume.real).sum := by
    unfold volume
    rw [total_eq, sum_eq (List.forall_mem_map.mpr fun c hc => (volumes c hc).isNumber),
      List.map_map]
    rfl
  have moneyEq : money bars = number (bars.map fun c => realTypical c * c.volume.real).sum := by
    have each : bars.map (fun c => c.typicalPrice * c.volume) =
        (bars.map fun c => realTypical c * c.volume.real).map number := by
      rw [List.map_map]
      refine List.map_congr_left fun c hc => ?_
      rw [typicalPrice_eq (enclosed c hc), ← (volumes c hc).isNumber.number_real, number_mul]
      rfl
    unfold money
    rw [each, total_eq, sum_number]
  unfold meanPrice at defined ⊢
  rw [volumeEq, moneyEq] at defined ⊢
  by_cases positive : 0 < (bars.map fun c => c.volume.real).sum
  · refine ⟨positive, ?_⟩
    rw [if_pos (by simpa using positive), number_div _ positive.ne']
  · rw [if_neg (by simpa using positive)] at defined
    cases defined

/-- **A mean price lies between the lowest low and the highest high.** -/
theorem meanPrice_between (enclosed : ∀ c ∈ bars, c.Enclosed)
    (volumes : ∀ c ∈ bars, c.volume.IsNonneg)
    (defined : Scalar.isUndefined (meanPrice bars) = false) :
    Scalar.least (bars.map Candle.low) ≤ meanPrice bars ∧
      meanPrice bars ≤ Scalar.greatest (bars.map Candle.high) := by
  obtain ⟨positive, mean⟩ := meanPrice_eq enclosed volumes defined
  have some : bars ≠ [] := by
    rintro rfl
    simp at positive
  have lows := isLeast_least (List.forall_mem_map.mpr fun c hc => (enclosed c hc).low)
    (mt List.map_eq_nil_iff.mp some)
  have highs := isGreatest_greatest (List.forall_mem_map.mpr fun c hc => (enclosed c hc).high)
    (mt List.map_eq_nil_iff.mp some)
  obtain ⟨l, hl, low⟩ := List.mem_map.mp lows.1
  obtain ⟨h, hh, high⟩ := List.mem_map.mp highs.1
  have between : ∀ c ∈ bars, l.low.real ≤ realTypical c ∧ realTypical c ≤ h.high.real := by
    intro c hc
    have least := lows.2 (List.mem_map_of_mem hc)
    have greatest := highs.2 (List.mem_map_of_mem hc)
    rw [← low, ← (enclosed l hl).low.number_real, ← (enclosed c hc).low.number_real,
      number_le_iff] at least
    rw [← high, ← (enclosed h hh).high.number_real, ← (enclosed c hc).high.number_real,
      number_le_iff] at greatest
    obtain ⟨above, below⟩ := realTypical_between (enclosed c hc)
    exact ⟨least.trans above, below.trans greatest⟩
  rw [mean, ← low, ← high, ← (enclosed l hl).low.number_real, ← (enclosed h hh).high.number_real]
  exact weightedMean_between (fun c hc => (volumes c hc).real_nonneg) between positive

/-- **The average price of a day and its profile are about the same bars.** Go back from a
bar for as long as the bars before fall on its day. The average price at the bar is the
mean price by volume of the bars from there on, each total taken from left to right, and
undefined unless their volume is above zero; the session of the day has just these bars at
the bar, so its profile there is theirs. That is so in any arithmetic and for times in any
order. In exact arithmetic, over bars that close within their range and whose volumes are
not below zero, the average price then lies between the lowest low and the highest high of
the bars of the session, where it is defined. -/
theorem average_shares_day :
    (∀ (α : Type) [Scalar α] (candles : List (Candle α)) (bar : ℕ) (c : Candle α),
      candles[bar]? = some c →
      let session := (candles.take (bar + 1)).drop (Profile.dayStart candles c.time.day bar)
      (sessionAverage candles)[bar]? = some (meanPrice session) ∧
      (Profile.sessions .daily candles)[bar]? = some (some session) ∧
      ∀ bins share, (volumeProfile .daily bins share candles).ShowsAt bar
        (Profile.levels bins share session)) ∧
    ∀ candles : List (Candle Exact), (∀ c ∈ candles, c.Enclosed) →
      (∀ c ∈ candles, c.volume.IsNonneg) → ∀ (bar : ℕ) (x : Exact),
      (sessionAverage candles)[bar]? = some x → Scalar.isUndefined x = false →
      ∃ session, (Profile.sessions .daily candles)[bar]? = some (some session) ∧
        Scalar.least (session.map Candle.low) ≤ x ∧
        x ≤ Scalar.greatest (session.map Candle.high) := by
  constructor
  · intro α _ candles bar c here session
    have found := Profile.getElem?_sessions_daily here
    exact ⟨getElem?_sessionAverage here, found, showsAt_volumeProfile found⟩
  · intro candles enclosed volumes bar x shown defined
    have inside := (List.getElem?_eq_some_iff.mp shown).1
    rw [sessionAverage, length_running] at inside
    have here : candles[bar]? = some candles[bar] := List.getElem?_eq_getElem inside
    cases shown.symm.trans (getElem?_sessionAverage here)
    have mem : ∀ c ∈ Profile.dayBars candles candles[bar].time.day bar, c ∈ candles :=
      fun c hc => List.mem_of_mem_take (List.mem_of_mem_drop hc)
    exact ⟨_, Profile.getElem?_sessions_daily here,
      meanPrice_between (fun c hc => enclosed c (mem c hc))
        (fun c hc => volumes c (mem c hc)) defined⟩

/-- Three bars, of which the last two are of one day that comes before that of the first.
The average price of the last one is the mean of two prices, the second weighted twice. -/
theorem average_shares_day_earlier :
    let candles : List (Candle Exact) := [.still (.ofMillis 86400000) 7,
      { Candle.still (.ofMillis 0) 1 with volume := 1 },
      { Candle.still (.ofMillis 60000) 4 with volume := 2 }]
    let session := candles.drop 1
    ((candles[2]?.map fun c => c.time.day) = some 0 ∧ (∀ c ∈ candles, c.Enclosed) ∧
      (∀ c ∈ candles, c.volume.IsNonneg)) ∧
    (sessionAverage candles)[2]? = some (number 3) ∧
    (Profile.sessions .daily candles)[2]? = some (some session) ∧
    Scalar.least (session.map Candle.low) ≤ number 3 ∧
      number 3 ≤ Scalar.greatest (session.map Candle.high) := by
  intro candles session
  have enclosed : ∀ c ∈ candles, c.Enclosed := by
    simp only [candles, List.forall_mem_cons]
    have still (time : Instant) (n : ℕ) (volume : Exact) :
        ({ Candle.still time (OfNat.ofNat n) with volume } : Candle Exact).Enclosed :=
      have bar := Candle.enclosed_still time (isNonneg_literal n).isNumber
      ⟨bar.high, bar.low, bar.close, bar.above, bar.below⟩
    exact ⟨still _ 7 _, still _ 1 _, still _ 4 _, fun _ none => nomatch none⟩
  have volumes : ∀ c ∈ candles, c.volume.IsNonneg := by
    simp only [candles, List.forall_mem_cons]
    exact ⟨isNonneg_literal 0, isNonneg_literal 1, isNonneg_literal 2, fun _ none => nomatch none⟩
  obtain ⟨shown, found, -⟩ := average_shares_day.1 Exact candles 2 _ rfl
  have mean : meanPrice session = number 3 := by
    simp [meanPrice, money, volume, total, session, candles, Candle.typicalPrice, Candle.still]
    norm_num [number_div]
  have average : (sessionAverage candles)[2]? = some (number 3) := shown.trans (congrArg some mean)
  obtain ⟨bars, found', bounds⟩ := average_shares_day.2 candles enclosed volumes 2 _ average
    (isUndefined_number 3)
  cases found.symm.trans found'
  exact ⟨⟨rfl, enclosed, volumes⟩, average, found, bounds⟩

end Turnover

end MarketConditions
