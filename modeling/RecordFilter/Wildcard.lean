import RecordFilter.Text.Letter

/-!
# Wildcard patterns

In a pattern a percent sign stands for any run of characters, also an empty one, and an underscore
for any single character.  Every other character stands for itself without regard to its case.  A
pattern has to match a text as a whole.
-/

namespace RecordFilter

open Text

inductive Wildcard
  | anyRun
  | anyChar
  | letter (c : Char)
  deriving DecidableEq, Repr

namespace Wildcard

def ofChar (c : Char) : Wildcard :=
  if c == '%' then anyRun else if c == '_' then anyChar else letter c

def accepts : Wildcard → Char → Bool
  | anyRun, _ => true
  | anyChar, _ => true
  | letter c, d => sameLetter c d

def anyFrom : List Bool → List Bool
  | [] => []
  | flag :: flags =>
      let later := anyFrom flags
      (flag || later.head?.getD false) :: later

/-- For a text and each of its tails, the empty one last, whether a pattern matches it. -/
def matchTails : List Wildcard → List Char → List Bool
  | [], text => text.map (fun _ => false) ++ [true]
  | anyRun :: pattern, text => anyFrom (matchTails pattern text)
  | w :: pattern, text =>
      List.zipWith (fun c flag => w.accepts c && flag) text (matchTails pattern text).tail ++
        [false]

end Wildcard

def matchesPattern (pattern text : List Char) : Bool :=
  (Wildcard.matchTails (pattern.map Wildcard.ofChar) text).head?.getD false

end RecordFilter
