/-!
# Lines of a text

Files end their lines in several ways; texts that are read from files have only line feeds.  A text
splits into lines also at separators that are no line feeds.
-/

namespace RecordFilter.Text

def normalizeNewlines : List Char → List Char
  | '\r' :: '\n' :: rest => '\n' :: normalizeNewlines rest
  | '\r' :: rest => '\n' :: normalizeNewlines rest
  | c :: rest => c :: normalizeNewlines rest
  | [] => []

def isLineEnd (c : Char) : Bool :=
  (10 ≤ c.toNat && c.toNat ≤ 13) || (28 ≤ c.toNat && c.toNat ≤ 30) || c.toNat = 0x85 ||
    c.toNat = 0x2028 || c.toNat = 0x2029

/-- The lines of a text; an end of a line at the end of the text begins no other line. -/
def splitLines : List Char → List (List Char)
  | [] => []
  | '\r' :: '\n' :: rest => [] :: splitLines rest
  | c :: rest =>
      if isLineEnd c then [] :: splitLines rest
      else
        match splitLines rest with
        | [] => [[c]]
        | line :: lines => (c :: line) :: lines

/-- The pieces of a text between line feeds. -/
def splitAtLineFeeds : List Char → List (List Char)
  | [] => [[]]
  | c :: rest =>
      match splitAtLineFeeds rest with
      | [] => [[c]]
      | line :: lines => if c == '\n' then [] :: line :: lines else (c :: line) :: lines

end RecordFilter.Text
