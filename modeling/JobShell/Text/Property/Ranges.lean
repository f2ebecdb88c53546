/-
Module: JobShell.Text.Property.Ranges
Purpose: Membership of a code point in a sorted table of closed ranges.
Main exports: inRanges
-/

namespace JobShell.Text.Property

/-- A code point belongs to a table when one of its closed ranges holds it. -/
def inRanges (table : List (Nat × Nat)) (code : Nat) : Bool :=
  table.any fun range => range.1 ≤ code && code ≤ range.2

end JobShell.Text.Property
