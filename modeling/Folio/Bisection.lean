/-!
Search by halves in sequences that are in ascending order. What is found in other sequences follows
from the same steps.
-/

namespace Folio

namespace Bisection

/-- The last of `size` places from `base` on that does not come after what is looked for. -/
def place (order : Nat → Ordering) (base size : Nat) : Nat :=
  if size < 2 then base
  else
    let middle := base + size / 2
    place order (if order middle = .gt then base else middle) (size - size / 2)
termination_by size
decreasing_by omega

/-- An entry that is neither before nor after what is looked for. -/
def find? {α : Type} (order : α → Ordering) (entries : Array α) : Option α := do
  let found ← entries[place (fun index => (entries[index]?.map order).getD .gt) 0 entries.size]?
  if order found = .eq then some found else none

end Bisection

end Folio
