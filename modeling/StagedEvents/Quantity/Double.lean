import StagedEvents.Quantity

/-!
# Double precision as a quantity

The arithmetic the running library uses. Sums, products and comparisons are those
of double precision; every passage to integers and spans is computed exactly on
the fraction that a double stands for.
-/

namespace StagedEvents

instance : Quantity Float where
  decidableLT := fun x y => inferInstanceAs (Decidable (x < y))
  decidableLE := fun x y => inferInstanceAs (Decidable (x ≤ y))
  infinity := 1.0 / 0.0
  ofInt := Float.ofInt
  roundInto lo hi x := (Binary64.ofFloat x).roundInto lo hi
  ceilUpTo hi x := (Binary64.ofFloat x).ceilUpTo hi
  truncUpTo hi x := (Binary64.ofFloat x).truncUpTo hi
  seconds := Span.seconds
  ofSeconds? := Span.ofSeconds?

end StagedEvents
