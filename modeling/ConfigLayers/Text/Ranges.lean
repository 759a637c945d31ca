/-!
# Character ranges

A character class of a standard is a table of inclusive code point ranges in ascending order.
`Ranges.mem` is membership in the class.
-/

namespace ConfigLayers.Text

abbrev Ranges := List (Nat × Nat)

/-- The character lies in one of the ranges. -/
def Ranges.mem (table : Ranges) (c : Char) : Bool :=
  table.any fun range => range.1 ≤ c.toNat && c.toNat ≤ range.2

end ConfigLayers.Text
