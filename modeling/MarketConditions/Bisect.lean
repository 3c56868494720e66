/-!
# Bisection

- `Bisect.boundary` — how many entries come before the point where a property ends, found
  by halving. It is that number on every list whose entries with the property come first,
  and a fixed number of probes decides it on any other list.
-/

namespace MarketConditions.Bisect

variable {α : Type}

/-- Halves a span of `size` entries from `base` on, moving to its upper half when the
property still holds at the middle. `fuel` bounds the number of halvings. -/
def narrow (p : α → Bool) (xs : Array α) : Nat → Nat → Nat → Nat
  | 0, base, _ => base
  | fuel + 1, base, size =>
    if size ≤ 1 then base
    else
      let half := size / 2
      let kept := if (xs[base + half]?).any p then base + half else base
      narrow p xs fuel kept (size - half)

/-- The first index from which the property no longer holds. -/
def boundary (p : α → Bool) (xs : List α) : Nat :=
  let entries := xs.toArray
  let base := narrow p entries entries.size 0 entries.size
  if (entries[base]?).any p then base + 1 else base

end MarketConditions.Bisect
