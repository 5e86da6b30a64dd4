namespace BindingStubs

/-!
# Widths

Numbers of a fixed width in bits are kept as natural numbers below the limit of the width.
-/

namespace Width

/-- The number of values of a width in bits: two to the power of the width. -/
def limit
    (bits : Nat) :
    Nat :=
  Nat.pow 2 bits

end Width

end BindingStubs
