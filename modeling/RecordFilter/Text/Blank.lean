import RecordFilter.Text.Spans

/-!
# Blank characters

The blank characters separate tokens, and are trimmed from both ends of numerals,
truth words and timestamps.  They are the white space of Unicode together with
the four information separators of ASCII.
-/

namespace RecordFilter.Text

def blankSpans : Spans := [
    (0x85, 0x85), (0xa0, 0xa0), (0x1680, 0x1680), (0x2000, 0x200a), (0x2028, 0x2029),
    (0x202f, 0x202f), (0x205f, 0x205f), (0x3000, 0x3000)]

def isBlank (c : Char) : Bool :=
  if isAscii c then (9 ≤ c.toNat && c.toNat ≤ 13) || (28 ≤ c.toNat && c.toNat ≤ 32)
  else blankSpans.contains c

theorem isBlank_space : isBlank ' ' = true := by decide

def trimLeft (text : List Char) : List Char := text.dropWhile isBlank

def trim (text : List Char) : List Char :=
  (trimLeft (trimLeft text).reverse).reverse

def isBlankText (text : List Char) : Bool := text.all isBlank

def words : List Char → List (List Char)
  | [] => []
  | c :: rest =>
      if isBlank c then words rest
      else match rest, words rest with
        | d :: _, word :: others =>
            if isBlank d then [c] :: word :: others else (c :: word) :: others
        | _, others => [c] :: others

end RecordFilter.Text
