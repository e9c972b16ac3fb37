/-!
# Columns

Listings fill a name with spaces up to the width of its column. Widths count code
points.
-/

namespace PrefixCalc.Text

/-- A text with spaces after it up to a width; a longer text stays as it is. -/
def padRight (width : Nat) (text : String) : String :=
  text ++ String.ofList (List.replicate (width - text.length) ' ')

/-- A line of `width` dashes. -/
def rule (width : Nat) : String :=
  String.ofList (List.replicate width '-')

/-- The length of the longest of some texts, at least `least`. -/
def widest (least : Nat) (texts : List String) : Nat :=
  texts.foldl (fun width text => max width text.length) least

/-- Two columns three spaces apart: a header, dashes under both its words, and the rows. The first
column is as wide as its longest name. -/
def columns (header : String × String) (rows : List (String × String)) : List String :=
  let width := widest header.1.length (rows.map Prod.fst)
  let underline := (rule header.1.length, rule header.2.length)
  (header :: underline :: rows).map fun row => padRight width row.1 ++ "   " ++ row.2

end PrefixCalc.Text
