/-! Character classes given as tables of inclusive code point ranges. The tables of the
Unicode properties live in `Text/Property`; this file holds only the lookup. -/

namespace CrudScaffold.Text

/-- A set of code points, as inclusive ranges `(lo, hi)` in increasing order. -/
abbrev RangeTable := Array (Nat × Nat)

/-- Whether a code point lies in one of the ranges of the table. -/
def RangeTable.contains (t : RangeTable) (n : Nat) : Bool :=
  t.any fun r => r.1 ≤ n && n ≤ r.2

/-- Whether a character lies in one of the ranges of the table. -/
def RangeTable.containsChar (t : RangeTable) (c : Char) : Bool :=
  t.contains c.toNat

end CrudScaffold.Text
