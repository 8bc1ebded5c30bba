import RecordFilter.Layout.Wrap

/-!
# Blocks of text

A block is a list of lines for a terminal: a paragraph, a text in a panel with round corners, or a
table with a heavy head.  Panels and tables are as wide as what they hold.
-/

namespace RecordFilter.Layout

open Text

abbrev Block := List (List Char)

def consoleWidth : Nat := 1000

def paragraph (text : String) : Block := wrap .fold consoleWidth (shownText text)

def bar (c : Char) (width : Nat) : List Char := List.replicate width c

/-! ## Panels -/

def centred (c : Char) (width : Nat) (text : List Char) : List Char :=
  let excess := width - columns text
  bar c (excess / 2) ++ text ++ bar c (excess - excess / 2)

def panelTop (title : Option String) (width : Nat) : List Char :=
  match title with
  | none => '╭' :: bar '─' width ++ ['╮']
  | some title =>
      let text := ' ' :: title.toList ++ [' ']
      '╭' :: '─' :: centred '─' (width - 2) text ++ ['─', '╮']

def panel (title : Option String) (text : String) : Block :=
  let body := shownText text
  let titleWidth := (title.map fun title => columns title.toList + 4).getD 0
  let width := max (min (naturalWidth body) (consoleWidth - 4) + 2) titleWidth
  let line (content : List Char) : List Char :=
    '│' :: ' ' :: padTo (width - 2) content ++ [' ', '│']
  panelTop title width :: (wrap .fold (width - 2) body).map line ++
    ['╰' :: bar '─' width ++ ['╯']]

/-! ## Tables -/

structure Edges where
  left : Char
  inner : Char
  right : Char

def joined (edges : Edges) (pieces : List (List Char)) : List Char :=
  edges.left :: [edges.inner].intercalate pieces ++ [edges.right]

def rule (c : Char) (edges : Edges) (widths : List Nat) : List Char :=
  joined edges (widths.map fun width => bar c (width + 2))

inductive Alignment
  | top
  | bottom
  deriving DecidableEq, Repr

def alignLines (a : Alignment) (height : Nat) (lines : Block) : Block :=
  let blank : Block := List.replicate (height - lines.length) []
  match a with
  | .top => lines ++ blank
  | .bottom => blank ++ lines

/-- The lines of a row, which is as high as its highest cell. -/
def rowLines (a : Alignment) (edges : Edges) (widths : List Nat) (cells : List (List Char)) :
    Block :=
  let columns := (widths.zip cells).map fun (width, cell) => (width, wrap .ellipsis width cell)
  let height := (columns.map (·.2.length)).foldl max 1
  let columns := columns.map fun (width, lines) => (width, alignLines a height lines)
  (List.range height).map fun i =>
    joined edges (columns.map fun (width, lines) =>
      ' ' :: padTo width (lines[i]?.getD []) ++ [' '])

def columnWidth (cells : List (List Char)) : Nat := (cells.map naturalWidth).foldl max 0

def table (header : List String) (rows : List (List String)) : Block :=
  if header.isEmpty then [[]]
  else
    let header := header.map shownText
    let rows := rows.map (·.map shownText)
    let widths := header.zipIdx.map fun (name, i) =>
      columnWidth (name :: rows.map fun row => row[i]?.getD [])
    [rule '━' ⟨'┏', '┳', '┓'⟩ widths] ++ rowLines .bottom ⟨'┃', '┃', '┃'⟩ widths header ++
      [rule '━' ⟨'┡', '╇', '┩'⟩ widths] ++ rows.flatMap (rowLines .top ⟨'│', '│', '│'⟩ widths) ++
      [rule '─' ⟨'└', '┴', '┘'⟩ widths]

/-! ## Text -/

def blockText (block : Block) : String :=
  String.ofList (block.flatMap fun line => line ++ ['\n'])

end RecordFilter.Layout
