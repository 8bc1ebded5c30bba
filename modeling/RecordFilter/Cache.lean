import RecordFilter.Query

/-!
# Cache of predicates

Predicates are kept under the text of their filter and a name for their resolver.  When the cache is
full, the one that was not used for the longest time is dropped.
-/

namespace RecordFilter

abbrev CacheKey := String × Nat

structure CachedPredicate where
  serial : Nat
  predicate : Predicate

structure Cache where
  capacity : Nat
  entries : List (CacheKey × CachedPredicate)
  compiled : Nat

namespace Cache

def empty? (capacity : Nat) : Option Cache :=
  if capacity = 0 then none else some ⟨capacity, [], 0⟩

def capacityMessage : String := "max_size must be >= 1"

def keys (c : Cache) : List CacheKey := c.entries.map (·.1)

def size (c : Cache) : Nat := c.entries.length

def find? (c : Cache) (key : CacheKey) : Option CachedPredicate := c.entries.lookup key

def without (c : Cache) (key : CacheKey) : List (CacheKey × CachedPredicate) :=
  c.entries.filter (·.1 != key)

def touch (c : Cache) (key : CacheKey) (cached : CachedPredicate) : Cache :=
  { c with entries := c.without key ++ [(key, cached)] }

/-- The cache with a new entry, without the least recent ones that have no room any more. -/
def insert (c : Cache) (key : CacheKey) (cached : CachedPredicate) : Cache :=
  let entries := c.without key ++ [(key, cached)]
  { c with entries := entries.drop (entries.length - c.capacity), compiled := c.compiled + 1 }

def clear (c : Cache) : Cache := { c with entries := [] }

/-- The predicate of a filter and the cache after its use.  A filter that fails leaves the cache as
it was. -/
def get (c : Cache) (expression : String) (resolver : Nat) (r : Resolver) :
    Except QueryFailure (CachedPredicate × Cache) :=
  let key := (expression, resolver)
  match c.find? key with
  | some cached => .ok (cached, c.touch key cached)
  | none =>
      match (Filter.text expression).compile r with
      | .ok p =>
          let cached : CachedPredicate := ⟨c.compiled, p⟩
          .ok (cached, c.insert key cached)
      | .error failure => .error failure

end Cache

end RecordFilter
