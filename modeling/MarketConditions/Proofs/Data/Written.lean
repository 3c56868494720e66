import Mathlib.Algebra.Group.Nat.Defs
import MarketConditions.Data.Codec

/-!
# Ways to write data

Data can be written in more than one way: a field that is null can be left out, and a
number that is whole can be written as one. Reading does not tell these apart.

- `Data.Written`, `Data.WrittenFields`: `c.Written d` says that `d` is a way to write `c`.
- `Data.Reads`: whichever way data is written, a reader finds the same value in it.
- `Data.WrittenFields.required`, `Data.WrittenFields.optional`: **the fields of a
  record are found**.
- `Data.Reads.choice`, `Data.Reads.record`: what there is to show of a choice.
- `Named.Lawful`: a name is that of one value only.
-/

namespace MarketConditions

variable {α β : Type} [Scalar α]

namespace Data

/-! ## Levels -/

omit [Scalar α] in
theorem depth_pos (d : Data α) : 0 < d.depth := by
  cases d <;> simp [depth]

omit [Scalar α] in
theorem depth_object (fields : Record α) : (object fields).depth = depthOfFields fields + 1 := by
  rw [depth]

omit [Scalar α] in
theorem depth_variant (name : String) (payload : Data α) :
    (variant name payload).depth = payload.depth + 1 := by
  simp [variant, depth, depthOfFields]

/-! ## Choices -/

omit [Scalar α] in
@[simp] theorem variant?_variant (name : String) (payload : Data α) :
    (variant name payload).variant? = some (name, some payload) := rfl

omit [Scalar α] in
@[simp] theorem variant?_text (name : String) : (text name : Data α).variant? = some (name, none) :=
  rfl

omit [Scalar α] in
@[simp] theorem record?_object (fields : Record α) : record? (.object fields) = some fields := rfl

/-! ## Writing -/

mutual

/-- The ways to write data. -/
inductive Written : Data α → Data α → Prop where
  | same (d : Data α) : Written d d
  | whole {x : α} {n : Int} (exact : Scalar.ofInt n = x) : Written (.real x) (.int n)
  | object {fields written : Record α} (each : WrittenFields fields written) :
    Written (.object fields) (.object written)

/-- The ways to write the fields of an object, in order. -/
inductive WrittenFields : Record α → Record α → Prop where
  | nil : WrittenFields [] []
  | keep {name : String} {c d : Data α} {fields written : Record α} (first : Written c d)
    (rest : WrittenFields fields written) :
    WrittenFields ((name, c) :: fields) ((name, d) :: written)
  | leaveOut {name : String} {fields written : Record α} (rest : WrittenFields fields written) :
    WrittenFields ((name, .null) :: fields) written

end

variable {name : String} {c d payload : Data α} {fields written : Record α}

theorem WrittenFields.same (fields : Record α) : WrittenFields fields fields := by
  induction fields with
  | nil => exact .nil
  | cons f fields ih => exact .keep (.same f.2) ih

/-- Only null is written as null. -/
theorem Written.ne_null (way : Written c d) (there : c ≠ .null) : d ≠ .null := by
  cases way with
  | same => exact there
  | whole | object => exact nofun

/-- An object is written as an object. -/
theorem Written.of_object (way : Written (.object fields) d) :
    ∃ written, d = .object written ∧ WrittenFields fields written := by
  cases way with
  | same => exact ⟨fields, rfl, .same fields⟩
  | object each => exact ⟨_, rfl, each⟩

/-- A choice keeps its name, and what belongs to it. -/
theorem Written.of_variant (way : Written (.variant name payload) d) (there : payload ≠ .null) :
    ∃ q, d = .variant name q ∧ Written payload q := by
  obtain ⟨written, rfl, each⟩ := way.of_object
  cases each with
  | keep first rest =>
    cases rest with
    | nil => exact ⟨_, rfl, first⟩
  | leaveOut rest => exact absurd rfl there

/-! ## Fields -/

/-- A field that is not null is there. -/
theorem WrittenFields.lookup (each : WrittenFields fields written)
    (found : fields.lookup name = some c) (there : c ≠ .null) :
    ∃ d, written.lookup name = some d ∧ Written c d ∧ d.depth ≤ depthOfFields written := by
  induction fields generalizing written with
  | nil => cases found
  | cons f fields ih =>
    rw [List.lookup_cons] at found
    cases each with
    | @keep other _ d _ written first rest =>
      rw [List.lookup_cons]
      split at found
      · rename_i same
        -- the field asked for, which is kept
        cases found
        rw [same]
        exact ⟨d, rfl, first, Nat.le_max_left _ _⟩
      · rename_i different
        obtain ⟨d', here, way, deep⟩ := ih rest found
        rw [different]
        exact ⟨d', here, way, Nat.le_trans deep (Nat.le_max_right _ _)⟩
    | leaveOut rest =>
      split at found
      · cases found
        exact absurd rfl there
      · exact ih rest found

/-- No field comes up that was not there. -/
theorem WrittenFields.lookup_none (each : WrittenFields fields written)
    (missing : name ∉ fields.map Prod.fst) : written.lookup name = none := by
  induction fields generalizing written with
  | nil =>
    cases each
    rfl
  | cons f fields ih =>
    rw [List.map_cons, List.mem_cons, not_or] at missing
    cases each with
    | keep first rest =>
      rw [List.lookup_cons, beq_false_of_ne missing.1]
      exact ih rest missing.2
    | leaveOut rest => exact ih rest missing.2

/-- A field that is null is null or left out. -/
theorem WrittenFields.lookup_null (each : WrittenFields fields written)
    (distinct : (fields.map Prod.fst).Nodup) (found : fields.lookup name = some .null) :
    written.lookup name = none ∨ written.lookup name = some .null := by
  induction fields generalizing written with
  | nil => cases found
  | cons f fields ih =>
    rw [List.lookup_cons] at found
    obtain ⟨once, others⟩ := List.nodup_cons.mp distinct
    cases each with
    | keep first rest =>
      rw [List.lookup_cons]
      split at found
      · rename_i same
        cases found
        cases first
        rw [same]
        exact .inr rfl
      · rename_i different
        rw [different]
        exact ih rest others found
    | leaveOut rest =>
      split at found
      · rename_i same
        -- left out, and no other field has its name
        rw [eq_of_beq same]
        exact .inl (rest.lookup_none once)
      · exact ih rest others found

/-! ## Reading -/

/-- A reader finds `x` in data, whichever way it is written with at most `levels` levels. -/
structure Reads (levels : Nat) (decode : Data α → Option β) (c : Data α) (x : β) : Prop where
  there : c ≠ .null
  finds : ∀ d, Written c d → d.depth ≤ levels → decode d = some x

variable {levels : Nat} {decode : Data α → Option β} {x : β}

/-- A required field is found. -/
theorem WrittenFields.required (each : WrittenFields fields written) (name : String)
    (field : Reads levels decode c x) (found : fields.lookup name = some c)
    (deep : depthOfFields written ≤ levels) : Record.required written name decode = some x := by
  obtain ⟨d, here, way, within⟩ := each.lookup found field.there
  unfold Record.required
  rw [here]
  exact field.finds d way (Nat.le_trans within deep)

/-- An optional field is found if there is one. -/
theorem WrittenFields.optional (each : WrittenFields fields written) (name : String)
    {encode : β → Data α} (field : ∀ x, Reads levels decode (encode x) x) {o : Option β}
    (found : fields.lookup name = some (ofOption encode o))
    (distinct : (fields.map Prod.fst).Nodup) (deep : depthOfFields written ≤ levels) :
    Record.optional written name decode = some o := by
  unfold Record.optional
  cases o with
  | none =>
    rcases each.lookup_null distinct found with absent | null
    · rw [absent]
    · rw [null]
  | some x =>
    -- what is there is not null, so the reader gets to see it
    obtain ⟨d, here, way, within⟩ := each.lookup found (field x).there
    have value := (field x).finds d way (Nat.le_trans within deep)
    have there := way.ne_null (field x).there
    rw [here]
    cases d with
    | null => exact absurd rfl there
    | _ => exact congrArg (Option.map some) value

namespace Reads

/-- To read a choice to which something belongs. -/
theorem choice (there : payload ≠ .null)
    (finds : ∀ q, Written payload q → q.depth < levels → decode (.variant name q) = some x) :
    Reads levels decode (.variant name payload) x where
  there := nofun
  finds d way deep := by
    obtain ⟨q, rfl, inner⟩ := way.of_variant there
    rw [depth_variant] at deep
    exact finds q inner deep

/-- To read a choice to which something belongs that has a reader of its own. -/
theorem wrap {γ : Type} {read : Data α → Option γ} {y : γ} {inside : Nat}
    (inner : Reads inside read payload y) (fewer : levels ≤ inside + 1)
    (finds : ∀ q, read q = some y → decode (.variant name q) = some x) :
    Reads levels decode (.variant name payload) x := by
  refine choice inner.there fun q way deep => finds q ?_
  exact inner.finds q way (by omega)

/-- To read a choice to which a record belongs. -/
theorem record (finds : ∀ written, WrittenFields fields written →
      depthOfFields written + 1 < levels → decode (.variant name (.object written)) = some x) :
    Reads levels decode (.variant name (.object fields)) x := by
  refine choice nofun fun q way deep => ?_
  obtain ⟨written, rfl, each⟩ := way.of_object
  rw [depth_object] at deep
  exact finds written each deep

/-- To read a choice to which nothing belongs. -/
theorem alone (finds : decode (.text name) = some x) : Reads levels decode (.text name) x where
  there := nofun
  finds d way deep := by
    cases way
    exact finds

theorem real (x : α) : Reads levels number? (.real x) x where
  there := nofun
  finds d way deep := by
    cases way with
    | same => rfl
    | whole exact => exact congrArg some exact

theorem bool (b : Bool) : Reads (α := α) levels bool? (.bool b) b where
  there := nofun
  finds d way deep := by
    cases way
    rfl

theorem text (s : String) : Reads (α := α) levels text? (.text s) s where
  there := nofun
  finds d way deep := by
    cases way
    rfl

theorem below {bound n : Nat} (fits : n < bound) :
    Reads (α := α) levels (below? bound) (.ofNat n) n where
  there := nofun
  finds d way deep := by
    cases way
    exact if_pos fits

theorem count {n : Nat} (fits : n < 2 ^ 64) :
    Reads (α := α) levels count? (.ofNat n) n :=
  below fits

theorem multiple {n : Nat} (fits : n < 2 ^ 32) : Reads (α := α) levels multiple? (.ofNat n) n :=
  below fits

/-- A reader that goes down by levels finds nothing with none of them, and there
is nothing. -/
theorem of_succ {decode : Nat → Data α → Option β}
    (each : ∀ n, Reads (n + 1) (decode (n + 1)) c x) (levels : Nat) :
    Reads levels (decode levels) c x := by
  cases levels with
  | zero => exact ⟨(each 0).there, fun d way deep => absurd d.depth_pos (Nat.not_lt.mpr deep)⟩
  | succ n => exact each n

end Reads

end Data

/-! ## Names -/

/-- Choices of which every one is found by its name. -/
class Named.Lawful (β : Type) [Named β] : Prop where
  ofName?_name : ∀ b : β, ofName? (name b) = some b

theorem Named.reads {levels : Nat} [Named β] [Lawful β] (b : β) :
    Data.Reads (α := α) levels Named.ofData? (Named.toData b) b :=
  .alone (Lawful.ofName?_name b)

instance : Named.Lawful PriceField := ⟨by rintro ⟨⟩ <;> rfl⟩
instance : Named.Lawful Comparison := ⟨by rintro ⟨⟩ <;> rfl⟩
instance : Named.Lawful CrossDirection := ⟨by rintro ⟨⟩ <;> rfl⟩
instance : Named.Lawful Connective := ⟨by rintro ⟨⟩ <;> rfl⟩
instance : Named.Lawful Operation := ⟨by rintro ⟨⟩ <;> rfl⟩
instance : Named.Lawful Aggregate := ⟨by rintro ⟨⟩ <;> rfl⟩
instance : Named.Lawful TimeField := ⟨by rintro ⟨⟩ <;> rfl⟩
instance : Named.Lawful MoonField := ⟨by rintro ⟨⟩ <;> rfl⟩
instance : Named.Lawful OrderFlowField := ⟨by rintro ⟨⟩ <;> rfl⟩
instance : Named.Lawful FootprintLevel := ⟨by rintro ⟨⟩ <;> rfl⟩
instance : Named.Lawful Property := ⟨by rintro ⟨⟩ <;> rfl⟩

end MarketConditions
