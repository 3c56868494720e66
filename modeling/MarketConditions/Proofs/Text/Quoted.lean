import Mathlib.Tactic.Common
import MarketConditions.Text.Quoted

/-!
# Quoted text is read back

One character of a quoted text can be read without looking at the next: a backslash says
what kind of escape it is, and a code point ends with its brace. No character is written
with a quote in front, so the quote behind a text is the first one that is met, whatever
the text contains and whatever follows.

- `Quoted.hexSpelled`: the number that hexadecimal digits spell;
  `Quoted.hexSpelled_toDigits`: the digits of a number spell it.
- `Quoted.unescape?`: the first character of a quoted text; `Quoted.unescape?_escape`: **a
  written character is read back**.
- `Quoted.encode_cancel`: **quoted texts that go on alike** are of the same text, and go
  on with the same.
-/

namespace MarketConditions.Text.Quoted

/-! ## Hexadecimal digits -/

/-- What a hexadecimal digit stands for. -/
def hexValue (c : Char) : Nat :=
  if c.isDigit then c.toNat - '0'.toNat else c.toNat - 'a'.toNat + 10

/-- The number that hexadecimal digits spell. -/
def hexSpelled (digits : List Char) : Nat :=
  digits.foldl (fun n c => n * 16 + hexValue c) 0

theorem hexValue_digitChar : ∀ n < 16, hexValue n.digitChar = n := by decide

theorem hexSpelled_toDigits (n : Nat) : hexSpelled (Nat.toDigits 16 n) = n := by
  induction n using Nat.strongRecOn with
  | ind n ih =>
    rw [Nat.toDigits_eq_if (by decide)]
    split
    · rename_i small
      show 0 * 16 + hexValue n.digitChar = n
      rw [hexValue_digitChar n small, Nat.zero_mul, Nat.zero_add]
    · rename_i large
      unfold hexSpelled at ih ⊢
      rw [List.foldl_append, ih (n / 16) (by omega)]
      show n / 16 * 16 + hexValue (n % 16).digitChar = n
      rw [hexValue_digitChar _ (Nat.mod_lt _ (by decide)), Nat.div_add_mod']

/-- No digit is the brace behind them. -/
theorem ne_brace_of_mem_toDigits {n : Nat} {c : Char} (digit : c ∈ Nat.toDigits 16 n) :
    c ≠ '\x7d' := by
  have noBrace : ∀ d < 16, Nat.digitChar d ≠ '\x7d' := by decide
  induction n using Nat.strongRecOn with
  | ind n ih =>
    rw [Nat.toDigits_eq_if (by decide)] at digit
    split at digit
    · rename_i small
      rw [List.mem_singleton.mp digit]
      exact noBrace n small
    · rename_i large
      rcases List.mem_append.mp digit with earlier | last
      · exact ih (n / 16) (by omega) earlier
      · rw [List.mem_singleton.mp last]
        exact noBrace _ (Nat.mod_lt _ (by decide))

/-! ## One character -/

/-- What stands behind a backslash: a code point in braces, a letter for the end of a line
and the like, or the character itself. -/
def escaped? : List Char → Option (Char × List Char)
  | 'u' :: '\x7b' :: rest =>
    some (Char.ofNat (hexSpelled (rest.takeWhile (· ≠ '\x7d'))), (rest.dropWhile (· ≠ '\x7d')).tail)
  | 'n' :: rest => some ('\n', rest)
  | 't' :: rest => some ('\t', rest)
  | 'r' :: rest => some ('\r', rest)
  | '0' :: rest => some ('\x00', rest)
  | c :: rest => some (c, rest)
  | [] => none

/-- The first character of a quoted text, and the rest of it. -/
def unescape? : List Char → Option (Char × List Char)
  | '\\' :: rest => escaped? rest
  | c :: rest => some (c, rest)
  | [] => none

theorem unescape?_codePoint (c : Char) (rest : List Char) :
    unescape? (codePoint c ++ rest) = some (c, rest) := by
  have digits : ∀ d ∈ Nat.toDigits 16 c.toNat, decide (d ≠ '\x7d') = true := fun d hd =>
    decide_eq_true (ne_brace_of_mem_toDigits hd)
  have written : codePoint c ++ rest =
      '\\' :: 'u' :: '\x7b' :: (Nat.toDigits 16 c.toNat ++ '\x7d' :: rest) := by
    simp [codePoint]
  rw [written]
  show some (Char.ofNat (hexSpelled _), _) = _
  rw [List.takeWhile_append_of_pos digits, List.dropWhile_append_of_pos digits,
    List.takeWhile_cons_of_neg (by decide), List.dropWhile_cons_of_neg (by decide), List.append_nil,
    hexSpelled_toDigits, Char.ofNat_toNat, List.tail_cons]

/-- **A written character is read back**, and nothing of what follows is looked at. -/
theorem unescape?_escape (c : Char) (rest : List Char) :
    unescape? (escape c ++ rest) = some (c, rest) := by
  unfold escape
  split_ifs with marked feed tab back null hidden
  · rcases marked with rfl | rfl <;> rfl
  · rw [feed]
    rfl
  · rw [tab]
    rfl
  · rw [back]
    rfl
  · rw [null]
    rfl
  · exact unescape?_codePoint c rest
  · show unescape? (c :: rest) = _
    unfold unescape?
    split
    · rename_i slash
      cases slash
      exact absurd (.inr rfl) marked
    · rename_i same
      cases same
      rfl
    · contradiction

/-- No character is written with a quote in front. -/
theorem escape_ne_quote (c : Char) (u v : List Char) : escape c ++ u ≠ '"' :: v := by
  unfold escape
  split_ifs with marked
  all_goals
    intro same
    cases same
  exact absurd (.inl rfl) marked

theorem escape_cancel {c d : Char} {u v : List Char} (same : escape c ++ u = escape d ++ v) :
    c = d ∧ u = v := by
  have read := congrArg unescape? same
  rw [unescape?_escape, unescape?_escape] at read
  cases read
  exact ⟨rfl, rfl⟩

/-! ## A text -/

theorem flatMap_escape_cancel {cs ds u v : List Char}
    (same : cs.flatMap escape ++ '"' :: u = ds.flatMap escape ++ '"' :: v) : cs = ds ∧ u = v := by
  induction cs generalizing ds with
  | nil =>
    cases ds with
    | nil =>
      cases same
      exact ⟨rfl, rfl⟩
    | cons d ds =>
      rw [List.flatMap_cons, List.append_assoc] at same
      exact absurd same.symm (escape_ne_quote d _ u)
  | cons c cs ih =>
    rw [List.flatMap_cons, List.append_assoc] at same
    cases ds with
    | nil => exact absurd same (escape_ne_quote c _ v)
    | cons d ds =>
      rw [List.flatMap_cons, List.append_assoc] at same
      obtain ⟨rfl, behind⟩ := escape_cancel same
      obtain ⟨rfl, rfl⟩ := ih behind
      exact ⟨rfl, rfl⟩

/-- **Quoted texts that go on alike** are of the same text, and go on with the same. -/
theorem encode_cancel {cs ds u v : List Char} (same : encode cs ++ u = encode ds ++ v) :
    cs = ds ∧ u = v := by
  unfold encode at same
  rw [List.cons_append, List.cons_append, List.append_assoc, List.append_assoc] at same
  exact flatMap_escape_cancel (List.tail_eq_of_cons_eq same)

end MarketConditions.Text.Quoted
