/-!
# Similar words

Two words are as similar as the share of their characters that match: those of the longest piece
that they have in common, and those that match on either side of it.
-/

namespace RecordFilter.Text

def commonStart : List Char → List Char → Nat
  | a :: as, b :: bs => if a == b then commonStart as bs + 1 else 0
  | _, _ => 0

/-- The place and the length of the longest piece that two words have in common, as early as
possible in the first and then in the second. -/
def longestCommon (a b : List Char) : Nat × Nat × Nat :=
  (List.range a.length).foldl
    (fun best i =>
      (List.range b.length).foldl
        (fun best j =>
          let length := commonStart (a.drop i) (b.drop j)
          if length > best.2.2 then (i, j, length) else best)
        best)
    (0, 0, 0)

def matchCount (fuel : Nat) (a b : List Char) : Nat :=
  match fuel, longestCommon a b with
  | 0, _ | _, (_, _, 0) => 0
  | fuel + 1, (i, j, length) =>
      length + matchCount fuel (a.take i) (b.take j) +
        matchCount fuel (a.drop (i + length)) (b.drop (j + length))

def similarity (a b : String) : Nat × Nat :=
  (2 * matchCount a.length a.toList b.toList, a.length + b.length)

def isSimilar (share : Nat × Nat) : Bool := 3 * share.2 ≤ 5 * share.1

/-- The word in front of another one among the candidates: it is more similar, or it is as
similar and comes later in the order of texts. -/
def ranksBefore (a b : String × Nat × Nat) : Bool :=
  let left := a.2.1 * b.2.2
  let right := b.2.1 * a.2.2
  left > right || (left == right && b.1 < a.1)

def suggestions (word : String) (candidates : List String) : List String :=
  let ranked := (candidates.map fun candidate => (candidate, similarity candidate word)).filter
    fun candidate => isSimilar candidate.2
  let best := ((ranked.mergeSort fun a b => ranksBefore a b || !ranksBefore b a).take 3).map (·.1)
  best.mergeSort fun a b => a ≤ b

end RecordFilter.Text
