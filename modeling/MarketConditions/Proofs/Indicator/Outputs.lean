import MarketConditions.Proofs.Indicator.Prefix

/-!
# The outputs of indicators

An indicator either has one output, which needs no name, or several, each named by a
property. The table of properties, the studies and the types that properties have are
written down apart from each other; here they are shown to agree.

- `Indicator.outputs`: the outputs of an indicator by their properties.
- `Property.valueType`: the type of an output.
- `Indicator.properties_studyOver`, `Indicator.type_of_mem_studyOver`: a study has the
  outputs of its indicator, each of its type.
- `Study.lookup_readAt`, `Study.lookup_isSome_iff`, `Study.type_of_lookup`: what is
  read of an output.
-/

namespace MarketConditions

variable {α : Type}

/-- The type of an output. A single output is a number. -/
def Property.valueType (p : Option Property) : ValueType :=
  if p.any isBoolean then .boolean else .number

/-! ## Keys that stand once -/

/-- What stands beside a key that stands there once. -/
theorem lookup_of_mem {κ β : Type} [BEq κ] [LawfulBEq κ] {pairs : List (κ × β)} {key : κ}
    {value : β} (once : (pairs.map Prod.fst).Nodup) (here : (key, value) ∈ pairs) :
    pairs.lookup key = some value := by
  induction pairs with
  | nil => cases here
  | cons pair pairs ih =>
    rw [List.map_cons, List.nodup_cons] at once
    rcases List.mem_cons.mp here with rfl | later
    · exact List.lookup_cons_self
    · have other : (key == pair.1) = false := by
        rw [beq_eq_false_iff_ne]
        rintro rfl
        exact once.1 (List.mem_map.mpr ⟨_, later, rfl⟩)
      rw [List.lookup_cons, other]
      exact ih once.2 later

/-! ## Outputs and their names -/

namespace Indicator

/-- The outputs of an indicator by their properties; a single output has none. -/
def outputs (i : Indicator) : List (Option Property) :=
  if i.properties.isEmpty then [none] else i.properties.map some

/-- No output is named twice. -/
theorem nodup_outputs (i : Indicator) : i.outputs.Nodup := by
  cases i <;> simp [outputs, properties]

variable [Scalar α]

/-- The outputs of a study, in order. -/
theorem properties_studyOver (share : α) (configured : Nat) (i : Indicator)
    (candles : List (Candle α)) :
    (i.studyOver share configured candles).map Output.property = i.outputs := by
  cases i <;> rfl

/-- Every output of a study is of the type that its property has. -/
theorem type_of_mem_studyOver {share : α} {configured : Nat} {i : Indicator}
    {candles : List (Candle α)} {o : Output α} (here : o ∈ i.studyOver share configured candles) :
    o.cells.type = Property.valueType o.property := by
  have columns : (i.studyOver share configured candles).map (fun o => o.cells.type) =
      (i.studyOver share configured candles).map fun o => Property.valueType o.property := by
    cases i <;> rfl
  exact List.map_inj_left.mp columns o here

end Indicator

/-! ## Reading an output -/

namespace Study

variable [Scalar α]

/-- A study reads what its outputs hold. -/
theorem lookup_readAt {s : Study α} (once : (s.map Output.property).Nodup) {o : Output α}
    (here : o ∈ s) (bar : Nat) : (s.readAt bar).lookup o.property = some (o.cells.valueAt bar) := by
  refine lookup_of_mem ?_ (List.mem_map_of_mem here)
  unfold readAt
  rw [List.map_map]
  exact once

/-- An output that an indicator has is read at every bar. -/
theorem lookup_isSome (share : α) (configured : Nat) {i : Indicator} (candles : List (Candle α))
    {p : Option Property} (named : p ∈ i.outputs) (bar : Nat) :
    (((i.studyOver share configured candles).readAt bar).lookup p).isSome := by
  have once := i.nodup_outputs
  rw [← i.properties_studyOver share configured candles] at once named
  obtain ⟨o, ho, rfl⟩ := List.mem_map.mp named
  rw [lookup_readAt once ho]
  rfl

/-- What is read under a name is what the output of that name holds. -/
theorem exists_of_lookup {s : Study α} {p : Option Property} {bar : Nat} {v : Value α}
    (read : (s.readAt bar).lookup p = some v) :
    ∃ o ∈ s, o.property = p ∧ o.cells.valueAt bar = v := by
  obtain ⟨before, after, split, -⟩ := List.lookup_eq_some_iff.mp read
  have here : (p, v) ∈ s.readAt bar := by
    rw [split]
    exact List.mem_append_right _ List.mem_cons_self
  obtain ⟨o, ho, same⟩ := List.mem_map.mp here
  exact ⟨o, ho, congrArg Prod.fst same, congrArg Prod.snd same⟩

/-- An output is read of a study exactly if its indicator has it. -/
theorem lookup_isSome_iff (share : α) (configured : Nat) (i : Indicator)
    (candles : List (Candle α)) (p : Option Property) (bar : Nat) :
    (((i.studyOver share configured candles).readAt bar).lookup p).isSome ↔ p ∈ i.outputs := by
  refine ⟨fun read => ?_, fun named => lookup_isSome share configured candles named bar⟩
  obtain ⟨v, read⟩ := Option.isSome_iff_exists.mp read
  obtain ⟨o, ho, rfl, -⟩ := exists_of_lookup read
  rw [← i.properties_studyOver share configured candles]
  exact List.mem_map_of_mem ho

/-- What is read of an output is of its type. -/
theorem type_of_lookup {share : α} {configured : Nat} {i : Indicator} {candles : List (Candle α)}
    {p : Option Property} {bar : Nat} {v : Value α}
    (read : ((i.studyOver share configured candles).readAt bar).lookup p = some v) :
    v.type = Property.valueType p := by
  obtain ⟨o, ho, rfl, rfl⟩ := exists_of_lookup read
  rw [Cells.type_valueAt]
  exact Indicator.type_of_mem_studyOver ho

end Study

end MarketConditions
