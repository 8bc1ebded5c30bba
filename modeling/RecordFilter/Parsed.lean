/-!
# Results of reading

A reader takes something from the front of a list and leaves the rest.  The rest is known to be
shorter than a bound, which is what makes readers that call each other come to an end: the rank of
what they are called on goes down.
-/

namespace RecordFilter

/-- What was read from a list of items, and the items behind it, which are fewer than `bound`. -/
structure Parsed (ι α : Type) (bound : Nat) where
  result : α
  rest : List ι
  short : rest.length < bound

namespace Parsed

variable {ι α β γ : Type} {bound wider : Nat}

def before (result : α) (rest : List ι) : Parsed ι α (rest.length + 1) :=
  ⟨result, rest, Nat.lt_succ_self _⟩

def map (f : α → β) (p : Parsed ι α bound) : Parsed ι β bound := ⟨f p.result, p.rest, p.short⟩

def widen (p : Parsed ι α bound) (h : bound ≤ wider) : Parsed ι α wider :=
  ⟨p.result, p.rest, Nat.lt_of_lt_of_le p.short h⟩

def past (p : Parsed ι α bound) : Parsed ι α (bound + 1) := p.widen (Nat.le_succ bound)

def drop (count : Nat) (p : Parsed ι α bound) : Parsed ι α bound :=
  ⟨p.result, p.rest.drop count,
    Nat.lt_of_le_of_lt (List.drop_sublist count p.rest).length_le p.short⟩

def dropWhile (test : ι → Bool) (p : Parsed ι α bound) : Parsed ι α bound :=
  ⟨p.result, p.rest.dropWhile test,
    Nat.lt_of_le_of_lt (List.dropWhile_sublist test).length_le p.short⟩

/-- The item behind what was read, and the same result with that item passed over. -/
def next? : Parsed ι α (bound + 1) → Option (ι × Parsed ι α bound)
  | ⟨_, [], _⟩ => none
  | ⟨result, c :: rest, short⟩ => some (c, ⟨result, rest, Nat.lt_of_succ_lt_succ short⟩)

def followedBy (p : Parsed ι α bound) (combine : α → β → γ) (q : Parsed ι β (p.rest.length + 1)) :
    Parsed ι γ bound :=
  ⟨combine p.result q.result, q.rest, Nat.lt_of_lt_of_le q.short p.short⟩

def andThen (p : Parsed ι α bound) (q : Parsed ι β (p.rest.length + 1)) : Parsed ι β bound :=
  p.followedBy (fun _ result => result) q

def skip (p : Parsed ι α bound) (q : Parsed ι β (p.rest.length + 1)) : Parsed ι α bound :=
  p.followedBy (fun result _ => result) q

end Parsed

/-! ## Ranks of calls -/

/-- The rank of a call on a list of a length.  Among the calls on lists of one length, those that
pass the whole list on to another reader are on a higher level. -/
def rank (length level : Nat) : Nat := 16 * length + level

theorem rank_lt_of_shorter {m n level : Nat} (other : Nat) (h : m < n) (below : level < 16) :
    rank m level < rank n other := by
  unfold rank
  omega

theorem rank_lt_of_lower {level other : Nat} (n : Nat) (h : level < other) :
    rank n level < rank n other :=
  Nat.add_lt_add_left h _

end RecordFilter
