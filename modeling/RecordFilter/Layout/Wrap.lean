import RecordFilter.Text.Blank
import RecordFilter.Text.Columns
import RecordFilter.Text.Lines

/-!
# Lines of a width

Text that is shown in lines of a given width is broken between words.  A word that is too wide for
any line is folded into several, or stands alone on a line that is cut short.
-/

namespace RecordFilter.Layout

open Text

inductive Overflow
  | fold
  | ellipsis
  deriving DecidableEq, Repr

/-- The characters that would only move the cursor are not shown. -/
def isShown (c : Char) : Bool := c.toNat ≠ 7 && c.toNat ≠ 8 && !(11 ≤ c.toNat && c.toNat ≤ 13)

def shownText (text : String) : List Char := text.toList.filter isShown

def naturalWidth (text : List Char) : Nat := ((splitLines text).map columns).foldl max 0

def tabWidth : Nat := 8

def spaces (n : Nat) : List Char := List.replicate n ' '

def expandTabs (column : Nat) : List Char → List Char
  | [] => []
  | c :: rest =>
      if c == '\t' then
        let gap := tabWidth - column % tabWidth
        spaces gap ++ expandTabs (column + gap) rest
      else c :: expandTabs (column + charColumns c) rest

def wordsFrom (word : List Char) (hasWord inGap : Bool) : List Char → List (List Char)
  | [] => if hasWord then [word.reverse] else []
  | c :: rest =>
      if isBlank c then wordsFrom (c :: word) hasWord hasWord rest
      else if inGap then word.reverse :: wordsFrom [c] true false rest
      else wordsFrom (c :: word) true false rest

def wordsWithBlanks (text : List Char) : List (List Char) := wordsFrom [] false false text

def foldFrom (width used : Nat) (piece : List Char) : List Char → List (List Char)
  | [] => [piece.reverse]
  | c :: rest =>
      let needed := charColumns c
      if used + needed > width then piece.reverse :: foldFrom width needed [c] rest
      else foldFrom width (used + needed) (c :: piece) rest

def foldWord (width : Nat) (word : List Char) : List (List Char) := foldFrom width 0 [] word

def trimRight (text : List Char) : List Char := (trimLeft text.reverse).reverse

/-- The lines that are full, from the last one on, and the line that is being filled. -/
structure Filling where
  full : List (List Char)
  line : List Char

namespace Filling

def start (f : Filling) (line : List Char) : Filling :=
  if f.line.isEmpty then { f with line } else ⟨f.line :: f.full, line⟩

def lines (f : Filling) : List (List Char) := (f.line :: f.full).reverse

def place (overflow : Overflow) (width : Nat) (f : Filling) (word : List Char) : Filling :=
  let needed := columns (trimRight word)
  if columns f.line + needed ≤ width then { f with line := f.line ++ word }
  else if needed > width && overflow = .fold then (foldWord width word).foldl start f
  else f.start word

end Filling

def breakLines (overflow : Overflow) (width : Nat) (text : List Char) : List (List Char) :=
  match wordsWithBlanks text with
  | [] => [text]
  | words => (words.foldl (Filling.place overflow width) ⟨[], []⟩).lines

def dropExcess (width : Nat) (line : List Char) : List Char :=
  let blanks := (line.reverse.takeWhile isBlank).length
  line.take (line.length - min blanks (line.length - width))

/-- As much of a line as a width allows; half a wide character becomes a space. -/
def cropTo : Nat → List Char → List Char
  | _, [] => []
  | width, c :: rest =>
      let needed := charColumns c
      if needed ≤ width then c :: cropTo (width - needed) rest else spaces width

def fitLine (overflow : Overflow) (width : Nat) (line : List Char) : List Char :=
  if columns line ≤ width then line
  else
    match overflow with
    | .fold => cropTo width line
    | .ellipsis => cropTo (width - 1) line ++ ['…']

/-- The lines of a text that are no wider than a width; without any width there are none. -/
def wrap (overflow : Overflow) (width : Nat) (text : List Char) : List (List Char) :=
  if width = 0 then []
  else
    (splitAtLineFeeds text).flatMap fun line =>
      (breakLines overflow width (expandTabs 0 line)).map fun line =>
        fitLine overflow width (dropExcess width line)

end RecordFilter.Layout
