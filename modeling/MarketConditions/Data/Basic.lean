import MarketConditions.Scalar

/-!
# Data trees

The trees that indicators and expressions are exchanged as.

- `Data` — texts, numbers, lists and objects
- `Data.variant?` — a choice: a name alone, or an object with one field, which names the
  choice and holds what belongs to it
- `Data.Record` — named fields, of which those that are not asked for do not matter
- `Named` — choices that are nothing but a name
-/

namespace MarketConditions

/-- A tree of texts, numbers, lists and objects. Whole numbers are kept apart
from others. -/
inductive Data (α : Type) where
  | null
  | bool (b : Bool)
  | int (n : Int)
  | real (x : α)
  | text (s : String)
  | list (items : List (Data α))
  | object (fields : List (String × Data α))
deriving Inhabited

namespace Data

variable {α β : Type}

/-! ## Depth -/

mutual

/-- Number of levels of a tree. -/
def depth : Data α → Nat
  | .list items => depthOfItems items + 1
  | .object fields => depthOfFields fields + 1
  | _ => 1

/-- Number of levels of the deepest item. -/
def depthOfItems : List (Data α) → Nat
  | [] => 0
  | d :: rest => Nat.max d.depth (depthOfItems rest)

/-- Number of levels of the deepest field. -/
def depthOfFields : List (String × Data α) → Nat
  | [] => 0
  | (_, d) :: rest => Nat.max d.depth (depthOfFields rest)

end

/-! ## Choices -/

/-- A choice with what belongs to it. -/
def variant (name : String) (payload : Data α) : Data α := .object [(name, payload)]

/-- The name of a choice and what belongs to it, if anything. -/
def variant? : Data α → Option (String × Option (Data α))
  | .text name => some (name, none)
  | .object [(name, payload)] => some (name, some payload)
  | _ => none

/-- Accepts a choice to which nothing belongs. -/
def alone? : Option (Data α) → Option Unit
  | none => some ()
  | some .null => some ()
  | _ => none

/-! ## Records -/

/-- Fields by name. -/
abbrev Record (α : Type) := List (String × Data α)

/-- The fields of a record. -/
def record? : Data α → Option (Record α)
  | .object fields => some fields
  | _ => none

/-- A field that has to be there. -/
def Record.required (r : Record α) (name : String) (decode : Data α → Option β) : Option β :=
  (r.lookup name).bind decode

/-- A field that may be absent or null. -/
def Record.optional (r : Record α) (name : String) (decode : Data α → Option β) :
    Option (Option β) :=
  match r.lookup name with
  | none => some none
  | some .null => some none
  | some d => (decode d).map some

/-- An absent value as null. -/
def ofOption (encode : β → Data α) : Option β → Data α
  | none => .null
  | some x => encode x

/-! ## Numbers and texts -/

/-- A whole number from 0 up to, and not including, a bound. -/
def below? (bound : Nat) : Data α → Option Nat
  | .int (.ofNat n) => if n < bound then some n else none
  | _ => none

/-- Any number. -/
def number? [Scalar α] : Data α → Option α
  | .int n => some (Scalar.ofInt n)
  | .real x => some x
  | _ => none

/-- A truth value. -/
def bool? : Data α → Option Bool
  | .bool b => some b
  | _ => none

/-- A text. -/
def text? : Data α → Option String
  | .text s => some s
  | _ => none

/-- A count as data. -/
def ofNat (n : Nat) : Data α := .int n

/-- Counts fit into 64 bits. -/
def count? : Data α → Option Nat := below? 0x10000000000000000

/-- Multipliers fit into 32 bits. -/
def multiple? : Data α → Option Nat := below? 0x100000000

end Data

/-! ## Names -/

/-- A type whose values are written as names. -/
class Named (β : Type) where
  all : List β
  name : β → String

namespace Named

variable {α β : Type} [Named β]

/-- The value of a name. -/
def ofName? (s : String) : Option β := (all : List β).find? fun b => name b = s

/-- A value as data. -/
def toData (b : β) : Data α := .text (name b)

/-- The value of a choice to which nothing belongs. -/
def ofData? (d : Data α) : Option β := do
  let (s, payload) ← d.variant?
  Data.alone? payload
  ofName? s

end Named

end MarketConditions
