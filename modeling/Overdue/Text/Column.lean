/-!
# Columns

Texts brought to a width, counted in characters. A text that is too long stays as it is.
-/

namespace Overdue.Text

/-- The text with spaces after it, up to `width` characters. -/
def padRight (width : Nat) (s : String) : String :=
  s ++ String.ofList (List.replicate (width - s.toList.length) ' ')

/-- The text with spaces before it, up to `width` characters. The names of kinds fill a column from
either side; the reports have none that is filled like this. -/
def padLeft (width : Nat) (s : String) : String :=
  String.ofList (List.replicate (width - s.toList.length) ' ') ++ s

end Overdue.Text
