/-!
# Texts by lines
-/

namespace FormScaffold.Shipped

/-- A text of lines, each of which ends with a line break. -/
def ofLines (lines : List String) : String := String.join (lines.map fun l => l ++ "\n")

end FormScaffold.Shipped
