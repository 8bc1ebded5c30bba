/-!
# Writing tables of separated values

A cell stands between quotes if it holds a comma, a quote or an end of a line.  A row that
consists of one empty cell has it in quotes, so that it differs from a row without cells.
-/

namespace RecordFilter.Csv

def needsQuotes (c : Char) : Bool := c == ',' || c == '"' || c == '\r' || c == '\n'

def quoteCell (cell : List Char) : List Char :=
  '"' :: cell.flatMap (fun c => if c == '"' then ['"', '"'] else [c]) ++ ['"']

def cellText (cell : List Char) : List Char :=
  if cell.any needsQuotes then quoteCell cell else cell

def rowText (row : List String) : List Char :=
  match row with
  | [""] => quoteCell []
  | row => [','].intercalate (row.map fun cell => cellText cell.toList)

def lineText (row : List String) : List Char := rowText row ++ ['\r', '\n']

def tableText (header : List String) (rows : List (List String)) : List Char :=
  (header :: rows).flatMap lineText

end RecordFilter.Csv
