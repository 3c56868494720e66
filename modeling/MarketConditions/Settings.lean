import MarketConditions.Error

/-!
# Settings

- `Settings` — what the indicator library takes from its configuration, with defaults
- `Settings.validate` — the ranges they have to lie in
-/

namespace MarketConditions

variable {α : Type} [Scalar α]

/-- Settings of the indicator library. -/
structure Settings (α : Type) where
  /-- Share of the volume that a value area encloses. -/
  valueAreaShare : α
  /-- Strength of the swings that rays run along. -/
  swingStrength : Nat
  /-- Bars that default rays leave out before the current one. -/
  raySkip : Nat
  /-- Least share of its volume by which an exchange has to lean to count for divergence. -/
  divergenceThreshold : α
  imbalanceRatio : α
  /-- Multiple of the average volume that counts as heavy. -/
  absorptionVolumeRatio : α
  /-- Body in percent of the open below which the price did not move. -/
  absorptionMovePercent : α
  absorptionLookback : Nat
  /-- Price step of footprints; zero takes it from the bar's close. -/
  footprintTick : α
  profileBins : Nat

namespace Settings

/-- The settings where nothing is configured. -/
def default : Settings α where
  valueAreaShare := 0.7
  swingStrength := 2
  raySkip := 1
  divergenceThreshold := 0.1
  imbalanceRatio := 3
  absorptionVolumeRatio := 2
  absorptionMovePercent := 0.1
  absorptionLookback := 20
  footprintTick := 0
  profileBins := 24

/-- The group of a configuration that holds these settings. -/
def group : String := "library"

end Settings

/-- The complaint about one setting: its name and what it must be. -/
def SettingsError.mustBe (group key what : String) : SettingsError :=
  .invalid group key s!"{key} must be {what}"

namespace Settings

/-- Complains about a setting unless a condition holds. -/
def require (group key what : String) (holds : Bool) : Except SettingsError Unit :=
  if holds then .ok () else .error (.mustBe group key what)

/-- A count that must not be zero. -/
def requirePositive (group key : String) (n : Nat) : Except SettingsError Unit :=
  require group key "at least 1" (decide (n ≠ 0))

/-- Checks the settings one after the other; the first that is out of its range
is reported. -/
def validate (s : Settings α) : Except SettingsError Unit := do
  require group "value_area_pct" "in (0, 1]" (0 < s.valueAreaShare && s.valueAreaShare ≤ 1)
  requirePositive group "swing_strength" s.swingStrength
  require group "divergence_threshold" "between 0 and 1"
    (0 ≤ s.divergenceThreshold && s.divergenceThreshold ≤ 1)
  require group "imbalance_ratio" "at least 1" (1 ≤ s.imbalanceRatio)
  require group "absorption_volume_ratio" "at least 1" (1 ≤ s.absorptionVolumeRatio)
  require group "absorption_move_pct" "non-negative" (0 ≤ s.absorptionMovePercent)
  requirePositive group "absorption_lookback" s.absorptionLookback
  require group "footprint_tick_size" "non-negative" (0 ≤ s.footprintTick)
  requirePositive group "profile_bins" s.profileBins

end Settings

end MarketConditions
