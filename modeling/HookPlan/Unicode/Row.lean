import HookPlan.Unicode.Ranges

/-!
# Rows of the character database

A table of a property has one row for each of its values.

* `Row.find?`: the row with some name.
-/

namespace HookPlan.Unicode

/-- The characters with one value of a property. -/
structure Row where
  /-- The names of the value, in lower case and without separators. -/
  names : List String
  /-- The ranges of its characters. -/
  lines : List String

namespace Row

def ranges (r : Row) : Ranges := Ranges.ofLines r.lines

def find? (rows : List Row) (name : String) : Option Row := rows.find? (·.names.contains name)

/-- The characters that some rows have together. -/
def union (rows : List Row) : Ranges := Ranges.normalize (rows.flatMap ranges)

end Row

end HookPlan.Unicode
