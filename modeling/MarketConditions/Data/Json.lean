import MarketConditions.Data.Basic
import MarketConditions.Text.Decimal

/-!
# Data trees written as JSON

- `Json.read?` — the tree of a text. Whole numbers that fit into 64 bits, signed or
  not, stay whole; other numbers become the nearest one. Of fields with one name
  the last counts

Each reader gives what it read with the text behind it.
-/

namespace MarketConditions.Json

variable {α : Type} [Scalar α]

/-- Leaves out blanks in front. -/
def skipBlanks (cs : List Char) : List Char :=
  cs.dropWhile fun c => c = ' ' || c = '\t' || c = '\n' || c = '\r'

/-- Leaves out a word in front. -/
def word? (w : String) (cs : List Char) : Option (List Char) :=
  if w.toList.isPrefixOf cs then some (cs.drop w.length) else none

/-! ## Texts -/

/-- The number of a hexadecimal digit. -/
def hexDigit? (c : Char) : Option Nat :=
  if c.isDigit then some (c.toNat - '0'.toNat)
  else if 'a' ≤ c ∧ c ≤ 'f' then some (c.toNat - 'a'.toNat + 10)
  else if 'A' ≤ c ∧ c ≤ 'F' then some (c.toNat - 'A'.toNat + 10)
  else none

/-- The number of a run of hexadecimal digits. -/
def hex? (cs : List Char) : Option Nat :=
  (cs.mapM hexDigit?).map (·.foldl (fun n d => n * 16 + d) 0)

/-- A number of four hexadecimal digits. -/
def hex4? (cs : List Char) : Option (Nat × List Char) :=
  if 4 ≤ cs.length then (hex? (cs.take 4)).map fun n => (n, cs.drop 4) else none

/-- The character of a numbered escape. One beyond the first 65536 takes two of them. -/
def numbered? (cs : List Char) : Option (Char × List Char) := do
  let (high, rest) ← hex4? cs
  if 0xD800 ≤ high ∧ high < 0xDC00 then
    let rest ← word? "\\u" rest
    let (low, rest) ← hex4? rest
    if 0xDC00 ≤ low ∧ low < 0xE000 then
      return (Char.ofNat (0x10000 + (high - 0xD800) * 0x400 + (low - 0xDC00)), rest)
    else none
  else if 0xDC00 ≤ high ∧ high < 0xE000 then none
  else return (Char.ofNat high, rest)

/-- The character of an escape named by a letter. -/
def named? : Char → Option Char
  | '"' => some '"'
  | '\\' => some '\\'
  | '/' => some '/'
  | 'b' => some (Char.ofNat 8)
  | 'f' => some (Char.ofNat 12)
  | 'n' => some '\n'
  | 'r' => some '\r'
  | 't' => some '\t'
  | _ => none

/-- A text up to its closing quote, given the characters before, last first. -/
def characters? : Nat → List Char → List Char → Option (String × List Char)
  | 0, _, _ => none
  | fuel + 1, before, cs =>
    match cs with
    | [] => none
    | '"' :: rest => some (String.ofList before.reverse, rest)
    | '\\' :: 'u' :: rest => do
      let (c, rest) ← numbered? rest
      characters? fuel (c :: before) rest
    | '\\' :: c :: rest => do characters? fuel ((← named? c) :: before) rest
    | c :: rest => if c.toNat < 32 then none else characters? fuel (c :: before) rest

/-! ## Numbers -/

/-- Whether a character can be part of a number. -/
def isNumeric (c : Char) : Bool :=
  c.isDigit || c = '-' || c = '+' || c = '.' || c = 'e' || c = 'E'

/-- Whether the digits in front are written without sign and superfluous zeros, and a
point is followed by a digit. -/
def isPlain (cs : List Char) : Bool :=
  let (whole, rest) := Text.leadingDigits cs
  match whole, (Text.fraction rest).1 with
  | [], _ => false
  | '0' :: _ :: _, _ => false
  | _, some [] => false
  | _, _ => true

/-- The number that a numeral spells. Minus zero is not whole. -/
def numeral? (cs : List Char) : Option (Data α) :=
  let size := if cs.head? = some '-' then cs.tail else cs
  if isPlain size then
    (Text.Numeral.read? cs).map fun n =>
      match Text.readInteger? cs with
      | some i =>
        if -0x8000000000000000 ≤ i ∧ i < 0x10000000000000000 ∧ cs ≠ ['-', '0'] then .int i
        else .real n.value
      | none => .real n.value
  else none

/-- A number. -/
def number? (cs : List Char) : Option (Data α × List Char) :=
  (numeral? (cs.takeWhile isNumeric)).map fun d => (d, cs.dropWhile isNumeric)

/-- A number, a truth value or null. -/
def scalar? (cs : List Char) : Option (Data α × List Char) :=
  ((word? "null" cs).map fun rest => (Data.null, rest)) <|>
    ((word? "true" cs).map fun rest => (Data.bool true, rest)) <|>
    ((word? "false" cs).map fun rest => (Data.bool false, rest)) <|>
    number? cs

/-! ## Trees -/

/-- Gives a field a value. -/
def setField (fields : List (String × Data α)) (name : String) (d : Data α) :
    List (String × Data α) :=
  (name, d) :: fields.filter (·.1 ≠ name)

mutual

/-- A tree. -/
def value? : Nat → List Char → Option (Data α × List Char)
  | 0, _ => none
  | fuel + 1, cs =>
    match skipBlanks cs with
    | '"' :: rest => (characters? fuel [] rest).map fun (s, rest) => (.text s, rest)
    | '[' :: rest =>
      match skipBlanks rest with
      | ']' :: rest => some (.list [], rest)
      | rest => items? fuel [] rest
    | '\x7b' :: rest =>
      match skipBlanks rest with
      | '\x7d' :: rest => some (.object [], rest)
      | rest => fields? fuel [] rest
    | rest => scalar? rest

/-- The items up to the end of a list, given those before, last first. -/
def items? : Nat → List (Data α) → List Char → Option (Data α × List Char)
  | 0, _, _ => none
  | fuel + 1, before, cs => do
    let (d, rest) ← value? fuel cs
    match skipBlanks rest with
    | ',' :: rest => items? fuel (d :: before) rest
    | ']' :: rest => some (.list (d :: before).reverse, rest)
    | _ => none

/-- The fields up to the end of an object, given those before, last first. -/
def fields? : Nat → List (String × Data α) → List Char → Option (Data α × List Char)
  | 0, _, _ => none
  | fuel + 1, before, cs => do
    let rest ← word? "\"" (skipBlanks cs)
    let (name, rest) ← characters? fuel [] rest
    let rest ← word? ":" (skipBlanks rest)
    let (d, rest) ← value? fuel rest
    let fields := setField before name d
    match skipBlanks rest with
    | ',' :: rest => fields? fuel fields rest
    | '\x7d' :: rest => some (.object fields.reverse, rest)
    | _ => none

end

/-- The tree that a text spells, with blanks around it. -/
def read? (text : String) : Option (Data α) :=
  let cs := text.toList
  match value? (cs.length + 1) cs with
  | some (d, rest) => if (skipBlanks rest).isEmpty then some d else none
  | none => none

end MarketConditions.Json
