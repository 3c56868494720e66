/-!
# Lines

- `lines` — the lines of a text, without what ends them: a line feed, or a carriage return
  and a line feed. A text that ends with a line feed has no empty line behind it.
-/

namespace MarketConditions.Text

/-- Drops a carriage return at the end. -/
def dropReturn (line : List Char) : List Char :=
  if line.getLast? = some '\r' then line.dropLast else line

/-- The lines of a text, `current` being the characters of the line so far, last one
first. Behind the last line feed there is a line only if it has characters. -/
def linesFrom (current : List Char) : List Char → List (List Char)
  | [] => if current.isEmpty then [] else [current.reverse]
  | '\n' :: rest => dropReturn current.reverse :: linesFrom [] rest
  | c :: rest => linesFrom (c :: current) rest

/-- The lines of a text. -/
def lines (cs : List Char) : List (List Char) := linesFrom [] cs

end MarketConditions.Text
