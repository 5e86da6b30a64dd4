namespace BindingStubs.Text

/-!
# Tables of character ranges

A property of characters is kept as the list of the inclusive code point ranges
that have it, in increasing order.
-/

/-- Inclusive code point ranges, in increasing order and without overlap. -/
abbrev RangeTable := List (Nat × Nat)

namespace RangeTable

/-- Whether the code point of `character` lies in one of the ranges. -/
def contains
    (table : RangeTable)
    (character : Char) :
    Bool :=
  table.any fun range => range.1 ≤ character.toNat && character.toNat ≤ range.2

end RangeTable

end BindingStubs.Text
