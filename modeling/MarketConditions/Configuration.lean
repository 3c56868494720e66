import MarketConditions.Settings
import MarketConditions.Text.Lines
import MarketConditions.Text.Letters
import MarketConditions.Text.Decimal

/-!
# Configurations

Configuration text: groups named in brackets, each with lines of a key and a value.

- `Line` — what a line of the text says
- `Configuration` — the values by group and key; `Configuration.read?` takes
  them from a text
- `Configuration.get?`, `integer`, `number`, `bool` — look-up, with a default for what is
  missing or does not read
- `Settings.ofConfiguration`, `workersOfConfiguration` — the settings, checked
-/

namespace MarketConditions

/-! ## Lines -/

/-- What a line says. -/
inductive Line where
  | blank
  | group (name : List Char)
  | key (name : List Char) (value : Option (List Char))
deriving DecidableEq, Repr

namespace Line

/-- Characters that begin a comment. -/
def isComment (c : Char) : Bool := c == ';' || c == '#'

/-- Characters between a key and its value. -/
def isDelimiter (c : Char) : Bool := c == '=' || c == ':'

/-- What stands before the last closing bracket. -/
def beforeBracket? (cs : List Char) : Option (List Char) :=
  match cs.reverse.dropWhile (· != ']') with
  | [] => none
  | _ :: before => some before.reverse

/-- A key with the value behind the first delimiter, if there is one. -/
def readKey (number : Nat) (cs : List Char) : Except String Line :=
  let name := Text.lowercase (Text.trim (cs.takeWhile fun c => !isDelimiter c))
  match cs.dropWhile fun c => !isDelimiter c with
  | [] => .ok (.key name none)
  | _ :: value =>
    if name.isEmpty then .error s!"line {number}:0: Key cannot be empty"
    else .ok (.key name (some (Text.trim value)))

/-- Reads a line with its number; comments and the white space around it do not count. -/
def read (number : Nat) (line : List Char) : Except String Line :=
  match Text.trim ((Text.trim line).takeWhile fun c => !isComment c) with
  | [] => .ok .blank
  | '[' :: rest =>
    match beforeBracket? rest with
    | some name => .ok (.group (Text.lowercase (Text.trim name)))
    | none =>
      .error s!"line {number}: Found opening bracket for section name but no closing bracket"
  | cs => readKey number cs

end Line

/-! ## Configurations -/

/-- Values by group and key, the latest first. A key can stand without a value. -/
abbrev Configuration := List ((List Char × List Char) × Option (List Char))

namespace Configuration

/-- The group of keys that stand before any group. -/
def defaultGroup : List Char := "default".toList

/-- The configuration after some more lines, the first of which has a given number. -/
def readLines (group : List Char) (number : Nat) (held : Configuration) :
    List (List Char) → Except String Configuration
  | [] => .ok held
  | line :: rest =>
    match Line.read number line with
    | .error e => .error e
    | .ok .blank => readLines group (number + 1) held rest
    | .ok (.group name) => readLines name (number + 1) held rest
    | .ok (.key name value) => readLines group (number + 1) (((group, name), value) :: held) rest

/-- The configuration of a text, or what is wrong with the first line that
cannot be read. -/
def read? (text : String) : Except String Configuration :=
  readLines defaultGroup 1 [] (Text.lines text.toList)

/-- The value of a key. The case of letters does not count. -/
def get? (c : Configuration) (group key : String) : Option (List Char) :=
  (c.lookup (Text.lowercase group.toList, Text.lowercase key.toList)).join

/-- The value of a key as an integer of 64 bits. -/
def integer (c : Configuration) (group key : String) (default : Int) : Int :=
  match (c.get? group key).bind Text.readInteger? with
  | some n => if -0x8000000000000000 ≤ n ∧ n < 0x8000000000000000 then n else default
  | none => default

/-- The value of a key as a number. -/
def number {α : Type} [Scalar α] (c : Configuration) (group key : String) (default : α) : α :=
  ((c.get? group key).bind Text.readNumber?).getD default

/-- The truth value that a word stands for. -/
def readBool? (cs : List Char) : Option Bool :=
  let word := String.ofList (Text.lowercase cs)
  if word ∈ ["true", "yes", "1"] then some true
  else if word ∈ ["false", "no", "0"] then some false
  else none

/-- The value of a key as a truth value. -/
def bool (c : Configuration) (group key : String) (default : Bool) : Bool :=
  ((c.get? group key).bind readBool?).getD default

/-- The value of a key as a count. -/
def count (c : Configuration) (group key : String) (default : Nat) : Except SettingsError Nat :=
  match c.integer group key default with
  | .ofNat n => .ok n
  | .negSucc _ => .error (.mustBe group key "non-negative")

end Configuration

/-! ## Settings -/

/-- The settings of the indicator library, each with its default; a negative count is
reported before any number out of its range. -/
def Settings.ofConfiguration {α : Type} [Scalar α] (c : Configuration) :
    Except SettingsError (Settings α) := do
  let d : Settings α := .default
  let s : Settings α := {
    valueAreaShare := c.number group "value_area_pct" d.valueAreaShare
    swingStrength := ← c.count group "swing_strength" d.swingStrength
    raySkip := ← c.count group "default_ray_skip" d.raySkip
    divergenceThreshold := c.number group "divergence_threshold" d.divergenceThreshold
    imbalanceRatio := c.number group "imbalance_ratio" d.imbalanceRatio
    absorptionVolumeRatio := c.number group "absorption_volume_ratio" d.absorptionVolumeRatio
    absorptionMovePercent := c.number group "absorption_move_pct" d.absorptionMovePercent
    absorptionLookback := ← c.count group "absorption_lookback" d.absorptionLookback
    footprintTick := c.number group "footprint_tick_size" d.footprintTick
    profileBins := ← c.count group "profile_bins" d.profileBins }
  s.validate
  return s

/-- Page computations that may run at once where nothing is configured. -/
def defaultWorkers : Nat := 4

/-- How many page computations may run at once. -/
def workersOfConfiguration (c : Configuration) : Except SettingsError Nat := do
  let n ← c.count "pages" "workers" defaultWorkers
  Settings.requirePositive "pages" "workers" n
  return n

end MarketConditions
