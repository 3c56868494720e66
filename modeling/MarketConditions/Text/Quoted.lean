import MarketConditions.Text.Letters

/-!
# Quoted text

A text between quotes in which every character can be seen.

- `Quoted.escape` — the written form of one character
- `Quoted.encode` — the written form of a text
-/

namespace MarketConditions.Text.Quoted

/-- A code point in braces, in hexadecimal digits. -/
def codePoint (c : Char) : List Char :=
  ['\\', 'u', '\x7b'] ++ Nat.toDigits 16 c.toNat ++ ['\x7d']

/-- The written form of a character: a quote and a backslash behind a backslash, the usual
letters for the end of a line and the like, the code point of what cannot be seen, and
itself otherwise. -/
def escape (c : Char) : List Char :=
  if c = '"' ∨ c = '\\' then ['\\', c]
  else if c = '\n' then ['\\', 'n']
  else if c = '\t' then ['\\', 't']
  else if c = '\r' then ['\\', 'r']
  else if c = '\x00' then ['\\', '0']
  else if isInvisible c then codePoint c
  else [c]

/-- A text between quotes. -/
def encode (cs : List Char) : List Char := '"' :: (cs.flatMap escape ++ ['"'])

end MarketConditions.Text.Quoted
