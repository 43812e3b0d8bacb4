/-!
Character properties given as tables: a property is a list of ranges of code points, both ends
included. The tables of this library come from the Unicode character database, version 14.
-/

namespace LintBridge.Text

/-- Whether the code point of `c` lies in one of the ranges. -/
def inRanges (table : List (Nat × Nat)) (c : Char) : Bool :=
  table.any fun range => range.1 ≤ c.toNat && c.toNat ≤ range.2

theorem inRanges_eq_true {table : List (Nat × Nat)} {c : Char} :
    inRanges table c = true ↔ ∃ range ∈ table, range.1 ≤ c.toNat ∧ c.toNat ≤ range.2 := by
  simp [inRanges]

end LintBridge.Text
