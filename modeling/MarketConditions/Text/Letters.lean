import MarketConditions.Text.Property.Cased
import MarketConditions.Text.Property.SmallLetters
import MarketConditions.Text.Property.Invisible

/-!
# Character classes and small letters

- `isBlank` — white space
- `isInvisible` — characters that are not shown, or not alone
- `trim` — a text without the white space at its ends
- `lowercase` — a text in small letters; a sigma at the end of a word takes its final form
-/

namespace MarketConditions.Text

/-- Whether a code point lies in one of some ranges. -/
def inRanges (ranges : List (Nat × Nat)) (c : Char) : Bool :=
  ranges.any fun r => decide (r.1 ≤ c.toNat) && decide (c.toNat ≤ r.2)

/-! ## Classes -/

/-- The white space of Unicode. -/
def blankRanges : List (Nat × Nat) := [
  (0x9, 0xd), (0x20, 0x20), (0x85, 0x85), (0xa0, 0xa0), (0x1680, 0x1680), (0x2000, 0x200a),
  (0x2028, 0x2029), (0x202f, 0x202f), (0x205f, 0x205f), (0x3000, 0x3000)]

/-- White space. -/
def isBlank (c : Char) : Bool := inRanges blankRanges c

/-- Not shown, or not alone. -/
def isInvisible (c : Char) : Bool := inRanges invisibleRanges c

/-- With a case. -/
def isCased (c : Char) : Bool := inRanges casedRanges c

/-- Passed over when the case of a word is looked at. -/
def isCaseIgnorable (c : Char) : Bool := inRanges caseIgnorableRanges c

/-! ## Trimming -/

/-- Drops the white space at the end. -/
def trimEnd (cs : List Char) : List Char := (cs.reverse.dropWhile isBlank).reverse

/-- Drops the white space at both ends. -/
def trim (cs : List Char) : List Char := trimEnd (cs.dropWhile isBlank)

/-! ## Small letters -/

/-- Whether a run holds a code point. -/
def CaseRun.holds (r : CaseRun) (n : Nat) : Bool :=
  decide (r.first ≤ n) && decide (n ≤ r.last) && (n - r.first) % r.step == 0

/-- The small letters of a character. A capital I with a dot becomes an i with a
dot set above. -/
def smallLetters (c : Char) : List Char :=
  if c.toNat < 0x80 then [c.toLower]
  else if c.toNat = 0x130 then ['i', Char.ofNat 0x307]
  else match smallLetterRuns.find? (·.holds c.toNat) with
    | some r => [Char.ofNat ((c.toNat : Int) + r.distance).toNat]
    | none => [c]

/-- Whether the first character that counts for the case of a word has one. -/
def beginsCased (cs : List Char) : Bool :=
  ((cs.dropWhile isCaseIgnorable).head?).any isCased

/-- A sigma between what comes before, nearest first, and what follows: final behind a cased
character unless one follows. -/
def smallSigma (before after : List Char) : Char :=
  if beginsCased before && !beginsCased after then Char.ofNat 0x3c2 else Char.ofNat 0x3c3

/-- Small letters for the rest of a text, the characters already passed being given nearest
first. -/
def lowercaseFrom (before : List Char) : List Char → List Char
  | [] => []
  | c :: after =>
    (if c.toNat = 0x3a3 then [smallSigma before after] else smallLetters c) ++
      lowercaseFrom (c :: before) after

/-- A text in small letters. -/
def lowercase (cs : List Char) : List Char := lowercaseFrom [] cs

end MarketConditions.Text
