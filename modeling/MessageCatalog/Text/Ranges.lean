/-!
# Sets of characters given by ranges

A character class of Unicode beyond ASCII is a list of closed ranges of code points. A character is in the class when one of the ranges holds it.
-/

namespace MessageCatalog.Text

abbrev Ranges := List (Nat × Nat)

namespace Ranges

def contains (ranges : Ranges) (c : Char) : Bool :=
  ranges.any fun range => range.1 ≤ c.toNat && c.toNat ≤ range.2

end Ranges

end MessageCatalog.Text
