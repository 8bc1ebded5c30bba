import Mathlib.Data.List.Dedup
import Mathlib.Data.List.DropRight
import Mathlib.Data.List.Infix
import RecordFilter.Cache
import RecordFilter.Proofs.Outcomes

/-!
# The cache holds what was used last

A cache goes through a run of calls, each a request for the predicate of a filter or an order to
forget everything.  However the calls follow one another, the cache holds the predicates of the
filters that were last used, as many as it has room for, in the order of their last use.  What it
returns is the predicate that was stored when its key came in, or a new one.
-/

namespace RecordFilter

/-! ## Lists without repetitions -/

section

variable {α : Type} [BEq α] [LawfulBEq α]

theorem dedup_concat [DecidableEq α] (l : List α) (a : α) :
    (l ++ [a]).dedup = l.dedup.filter (· != a) ++ [a] := by
  induction l with
  | nil => simp
  | cons b l ih =>
      by_cases known : b ∈ l
      · rw [List.cons_append, List.dedup_cons_of_mem (by simp [known]), ih,
          List.dedup_cons_of_mem known]
      · rw [List.dedup_cons_of_notMem known]
        by_cases same : b = a
        · subst same
          rw [List.cons_append, List.dedup_cons_of_mem (by simp), ih]
          simp
        · rw [List.cons_append, List.dedup_cons_of_notMem (by simp [known, same]), ih]
          simp [same]

theorem take_filter_take {l : List α} (distinct : l.Nodup) (a : α) (n : Nat) :
    ((l.take (n + 1)).filter (· != a)).take n = (l.filter (· != a)).take n := by
  induction l generalizing n with
  | nil => simp
  | cons b l ih =>
      obtain ⟨new, distinct⟩ := List.nodup_cons.mp distinct
      cases n with
      | zero => simp
      | succ n =>
          by_cases same : b = a
          · subst same
            have kept : ∀ m, (l.take m).filter (· != b) = l.take m := by
              intro m
              rw [List.filter_eq_self]
              intro c found
              simpa using fun same : c = b => new (same ▸ List.mem_of_mem_take found)
            have all := kept l.length
            rw [List.take_length] at all
            simp [kept, all, List.take_take]
          · simpa [same] using ih distinct n

/-- Of the last elements of a list only those that stay are needed to add one more. -/
theorem rtake_filter_rtake {l : List α} (distinct : l.Nodup) (a : α) (n : Nat) :
    ((l.rtake (n + 1)).filter (· != a) ++ [a]).rtake (n + 1) =
      (l.filter (· != a) ++ [a]).rtake (n + 1) := by
  rw [List.rtake_concat_succ, List.rtake_concat_succ]
  simp only [List.rtake_eq_reverse_take_reverse, List.filter_reverse, List.reverse_reverse]
  rw [take_filter_take (List.nodup_reverse.mpr distinct), List.filter_reverse]

end

/-! ## Runs -/

inductive CacheCall
  | get (key : CacheKey)
  | clear
  deriving DecidableEq, Repr

namespace Cache

section

variable (resolvers : Nat → Resolver)

def compileKey (key : CacheKey) : Except QueryFailure Predicate :=
  (Filter.text key.1).compile (resolvers key.2)

def answer (c : Cache) (key : CacheKey) : Except QueryFailure CachedPredicate :=
  (c.get key.1 key.2 (resolvers key.2)).map (·.1)

def call (c : Cache) : CacheCall → Cache
  | .get key =>
      match c.get key.1 key.2 (resolvers key.2) with
      | .ok (_, next) => next
      | .error _ => c
  | .clear => c.clear

def run (c : Cache) (calls : List CacheCall) : Cache := calls.foldl (call resolvers) c

/-- The keys of the requests that succeed, in their order, from the last clearing on. -/
def usesSinceClear (calls : List CacheCall) : List CacheKey :=
  calls.foldl
    (fun uses call =>
      match call with
      | .get key => if (compileKey resolvers key).isOk then uses ++ [key] else uses
      | .clear => [])
    []

end

section

variable {resolvers : Nat → Resolver} {c : Cache} {key : CacheKey} {cached : CachedPredicate}

theorem run_concat (calls : List CacheCall) (x : CacheCall) :
    c.run resolvers (calls ++ [x]) = (c.run resolvers calls).call resolvers x := by
  simp [run]

theorem usesSinceClear_get (calls : List CacheCall) :
    usesSinceClear resolvers (calls ++ [.get key]) =
      if (compileKey resolvers key).isOk then usesSinceClear resolvers calls ++ [key]
      else usesSinceClear resolvers calls := by
  simp [usesSinceClear]

theorem usesSinceClear_clear (calls : List CacheCall) :
    usesSinceClear resolvers (calls ++ [.clear]) = [] := by
  simp [usesSinceClear]

/-! ## One call -/

theorem mem_keys {k : CacheKey} : k ∈ c.keys ↔ ∃ p, (k, p) ∈ c.entries := by
  simp [keys]

theorem find?_eq_none_iff : c.find? key = none ↔ key ∉ c.keys := by
  rw [find?, List.lookup_eq_none_iff, mem_keys]
  constructor
  · rintro others ⟨p, found⟩
    simpa using others _ found
  · rintro absent ⟨k, p⟩ found
    simp only [bne_iff_ne, ne_eq]
    rintro rfl
    exact absent ⟨p, found⟩

theorem mem_of_find? (found : c.find? key = some cached) : (key, cached) ∈ c.entries := by
  obtain ⟨before, after, split, -⟩ := List.lookup_eq_some_iff.mp found
  rw [split]
  simp

theorem keys_without : (c.without key).map (·.1) = c.keys.filter (· != key) := by
  rw [without, keys, List.filter_map]
  rfl

/-- A request finds its key, or compiles the filter and stores it, or fails. -/
theorem get_cases (resolvers : Nat → Resolver) (c : Cache) (key : CacheKey) :
    (∃ cached, c.find? key = some cached ∧ c.answer resolvers key = .ok cached ∧
      c.call resolvers (.get key) = c.touch key cached) ∨
    (c.find? key = none ∧ ∃ p, compileKey resolvers key = .ok p ∧
      c.answer resolvers key = .ok ⟨c.compiled, p⟩ ∧
      c.call resolvers (.get key) = c.insert key ⟨c.compiled, p⟩) ∨
    (c.find? key = none ∧ ∃ failure, compileKey resolvers key = .error failure ∧
      c.answer resolvers key = .error failure ∧ c.call resolvers (.get key) = c) := by
  obtain ⟨expression, resolver⟩ := key
  simp only [answer, call, get, compileKey]
  cases found : c.find? (expression, resolver) with
  | some cached => exact .inl ⟨cached, rfl, rfl, rfl⟩
  | none =>
      cases (Filter.text expression).compile (resolvers resolver) with
      | ok p => exact .inr (.inl ⟨rfl, p, rfl, rfl, rfl⟩)
      | error failure => exact .inr (.inr ⟨rfl, failure, rfl, rfl, rfl⟩)

theorem mem_entries_insert {k : CacheKey} {p q : CachedPredicate}
    (found : (k, p) ∈ (c.insert key q).entries) : (k, p) ∈ c.entries ∨ (k = key ∧ p = q) := by
  have found := List.mem_of_mem_drop found
  rcases List.mem_append.mp found with old | new
  · exact .inl (List.mem_of_mem_filter old)
  · exact .inr (by simpa using new)

theorem mem_entries_call {x : CacheCall} {k : CacheKey} {p : CachedPredicate}
    (found : (k, p) ∈ (c.call resolvers x).entries) :
    (k, p) ∈ c.entries ∨
      (x = .get k ∧ k ∉ c.keys ∧ c.answer resolvers k = .ok p) := by
  cases x with
  | clear => simp [call, clear] at found
  | get key =>
      rcases get_cases resolvers c key with
        ⟨cached, known, -, next⟩ | ⟨new, q, -, answered, next⟩ | ⟨-, failure, -, -, next⟩
      · rw [next] at found
        rcases List.mem_append.mp found with old | touched
        · exact .inl (List.mem_of_mem_filter old)
        · simp only [List.mem_singleton, Prod.mk.injEq] at touched
          obtain ⟨rfl, rfl⟩ := touched
          exact .inl (mem_of_find? known)
      · rw [next] at found
        rcases mem_entries_insert found with old | ⟨rfl, rfl⟩
        · exact .inl old
        · exact .inr ⟨rfl, find?_eq_none_iff.mp new, answered⟩
      · rw [next] at found
        exact .inl found

theorem compiled_le_call (x : CacheCall) : c.compiled ≤ (c.call resolvers x).compiled := by
  cases x with
  | clear => exact Nat.le_refl _
  | get key =>
      rcases get_cases resolvers c key with
        ⟨cached, -, -, next⟩ | ⟨-, q, -, -, next⟩ | ⟨-, failure, -, -, next⟩
      · rw [next]
        exact Nat.le_refl _
      · rw [next]
        exact Nat.le_succ _
      · rw [next]

theorem compiled_le_run (resolvers : Nat → Resolver) (c : Cache) (calls : List CacheCall) :
    c.compiled ≤ (c.run resolvers calls).compiled := by
  induction calls using List.reverseRecOn with
  | nil => exact Nat.le_refl _
  | append_singleton calls x ih =>
      rw [run_concat]
      exact Nat.le_trans ih (compiled_le_call x)

end

/-! ## What a run leaves in the cache -/

structure Holds (resolvers : Nat → Resolver) (capacity : Nat) (calls : List CacheCall)
    (c : Cache) : Prop where
  room : c.capacity = capacity
  keys : c.keys = (usesSinceClear resolvers calls).dedup.rtake capacity
  predicates : ∀ k p, (k, p) ∈ c.entries → compileKey resolvers k = .ok p.predicate
  serials : ∀ k p, (k, p) ∈ c.entries → p.serial < c.compiled

section

variable {resolvers : Nat → Resolver} {capacity : Nat} {calls : List CacheCall} {c : Cache}

theorem Holds.size_le (holds : Holds resolvers capacity calls c) : c.size ≤ capacity := by
  have length : c.size = c.keys.length := by simp [size, Cache.keys]
  rw [length, holds.keys, List.rtake, List.length_drop]
  omega

theorem Holds.use (holds : Holds resolvers capacity calls c) (positive : 0 < capacity)
    {key : CacheKey} {p : Predicate} (compiles : compileKey resolvers key = .ok p) :
    (c.keys.filter (· != key) ++ [key]).rtake capacity =
      (usesSinceClear resolvers (calls ++ [.get key])).dedup.rtake capacity := by
  obtain ⟨n, rfl⟩ := Nat.exists_eq_add_one_of_ne_zero (Nat.pos_iff_ne_zero.mp positive)
  rw [usesSinceClear_get, if_pos (by rw [compiles]; rfl), dedup_concat, holds.keys,
    rtake_filter_rtake (List.nodup_dedup _)]

theorem Holds.touch (holds : Holds resolvers capacity calls c) (positive : 0 < capacity)
    {key : CacheKey} {cached : CachedPredicate} (known : c.find? key = some cached) :
    Holds resolvers capacity (calls ++ [.get key]) (c.touch key cached) := by
  have found := mem_of_find? known
  refine ⟨holds.room, ?_, fun k p entry => ?_, fun k p entry => ?_⟩
  · rw [← holds.use positive (holds.predicates key cached found)]
    have fewer : (c.keys.filter (· != key)).length < c.keys.length :=
      List.length_filter_lt_length_iff_exists.mpr ⟨key, mem_keys.mpr ⟨cached, found⟩, by simp⟩
    have bound := holds.size_le
    have size : c.size = c.keys.length := by simp [size, Cache.keys]
    have short : (c.keys.filter (· != key) ++ [key]).length - capacity = 0 := by
      rw [List.length_append, List.length_singleton]
      omega
    rw [List.rtake, short, List.drop_zero, ← keys_without]
    simp [Cache.keys, Cache.touch]
  all_goals
    have old : (k, p) ∈ c.entries := by
      rcases List.mem_append.mp entry with old | same
      · exact List.mem_of_mem_filter old
      · simp only [List.mem_singleton, Prod.mk.injEq] at same
        obtain ⟨rfl, rfl⟩ := same
        exact found
  · exact holds.predicates k p old
  · exact holds.serials k p old

theorem Holds.insert (holds : Holds resolvers capacity calls c) (positive : 0 < capacity)
    {key : CacheKey} {p : Predicate} (compiles : compileKey resolvers key = .ok p) :
    Holds resolvers capacity (calls ++ [.get key]) (c.insert key ⟨c.compiled, p⟩) := by
  refine ⟨holds.room, ?_, fun k q entry => ?_, fun k q entry => ?_⟩
  · rw [← holds.use positive compiles, ← keys_without]
    simp [Cache.keys, Cache.insert, List.rtake, List.map_drop, holds.room]
  · rcases mem_entries_insert entry with old | ⟨rfl, rfl⟩
    · exact holds.predicates k q old
    · exact compiles
  · rcases mem_entries_insert entry with old | ⟨rfl, rfl⟩
    · exact Nat.lt_succ_of_lt (holds.serials k q old)
    · exact Nat.lt_succ_self _

theorem Holds.call (holds : Holds resolvers capacity calls c) (positive : 0 < capacity)
    (x : CacheCall) : Holds resolvers capacity (calls ++ [x]) (c.call resolvers x) := by
  cases x with
  | clear =>
      refine ⟨holds.room, ?_, nofun, nofun⟩
      simp [usesSinceClear_clear, Cache.call, Cache.clear, Cache.keys]
  | get key =>
      rcases get_cases resolvers c key with
        ⟨cached, known, -, next⟩ | ⟨-, p, compiles, -, next⟩ | ⟨-, failure, fails, -, next⟩
      · rw [next]
        exact holds.touch positive known
      · rw [next]
        exact holds.insert positive compiles
      · rw [next]
        have same : usesSinceClear resolvers (calls ++ [.get key]) =
            usesSinceClear resolvers calls := by
          rw [usesSinceClear_get, fails]
          rfl
        exact ⟨holds.room, by rw [same]; exact holds.keys, holds.predicates, holds.serials⟩

theorem holds_run (resolvers : Nat → Resolver) (positive : 0 < capacity)
    (calls : List CacheCall) :
    Holds resolvers capacity calls (run resolvers ⟨capacity, [], 0⟩ calls) := by
  induction calls using List.reverseRecOn with
  | nil => exact ⟨rfl, by simp [run, usesSinceClear, Cache.keys], nofun, nofun⟩
  | append_singleton calls x ih =>
      rw [run_concat]
      exact ih.call positive x

/-! ## What requests return -/

/-- In a run of calls, `cached` was stored by the request that brought its key in, and the key has
been there ever since. -/
def StoredIn (resolvers : Nat → Resolver) (start : Cache) (calls : List CacheCall)
    (key : CacheKey) (cached : CachedPredicate) : Prop :=
  ∃ before after, calls = before ++ .get key :: after ∧
    key ∉ (start.run resolvers before).keys ∧
    (start.run resolvers before).answer resolvers key = .ok cached ∧
    ∀ some, some <+: after → key ∈ (start.run resolvers (before ++ .get key :: some)).keys

theorem storedIn_of_mem {start : Cache} (empty : start.entries = []) {key : CacheKey}
    {cached : CachedPredicate} (found : (key, cached) ∈ (start.run resolvers calls).entries) :
    StoredIn resolvers start calls key cached := by
  induction calls using List.reverseRecOn with
  | nil => simp [run, empty] at found
  | append_singleton calls x ih =>
      have present : key ∈ (start.run resolvers (calls ++ [x])).keys := mem_keys.mpr ⟨_, found⟩
      rw [run_concat] at found
      rcases mem_entries_call found with old | ⟨rfl, absent, answered⟩
      · obtain ⟨before, after, rfl, absent, answered, stays⟩ := ih old
        refine ⟨before, after ++ [x], by simp, absent, answered, fun some first => ?_⟩
        rcases List.prefix_concat_iff.mp first with rfl | first
        · simpa using present
        · exact stays some first
      · refine ⟨calls, [], rfl, absent, answered, fun some first => ?_⟩
        rw [List.prefix_nil.mp first]
        exact present

def NewIn (resolvers : Nat → Resolver) (start : Cache) (calls : List CacheCall)
    (serial : Nat) : Prop :=
  ∀ before key after cached, calls = before ++ .get key :: after →
    (start.run resolvers before).answer resolvers key = .ok cached → cached.serial ≠ serial

theorem Holds.serial_lt (holds : Holds resolvers capacity calls c) {key : CacheKey}
    {cached : CachedPredicate} (answered : c.answer resolvers key = .ok cached) :
    cached.serial < (c.call resolvers (.get key)).compiled := by
  rcases get_cases resolvers c key with
    ⟨known, found, same, next⟩ | ⟨-, p, -, same, next⟩ | ⟨-, failure, -, fails, -⟩
  · rw [same] at answered
    cases answered
    rw [next]
    exact holds.serials _ _ (mem_of_find? found)
  · rw [same] at answered
    cases answered
    rw [next]
    exact Nat.lt_succ_self _
  · rw [fails] at answered
    cases answered

theorem newIn_compiled (resolvers : Nat → Resolver) (positive : 0 < capacity)
    (calls : List CacheCall) :
    NewIn resolvers ⟨capacity, [], 0⟩ calls (run resolvers ⟨capacity, [], 0⟩ calls).compiled := by
  rintro before key after cached rfl answered
  have past := (holds_run resolvers positive before).serial_lt answered
  rw [← run_concat] at past
  have grows := compiled_le_run resolvers
    (run resolvers ⟨capacity, [], 0⟩ (before ++ [.get key])) after
  have split : run resolvers ⟨capacity, [], 0⟩ (before ++ .get key :: after) =
      run resolvers (run resolvers ⟨capacity, [], 0⟩ (before ++ [.get key])) after := by
    simp [run]
  rw [split]
  omega

end

/-- After every run of calls the cache holds the keys of the last successful requests, as many
different ones as it has room for and in the order of their last use.  A request fails where
compiling its filter fails, and leaves the cache as it is.  Otherwise it returns what compiling
returns: the very predicate that was stored when the key came in, or a new one if the key is not
there. -/
theorem run_keepsLastUsed (resolvers : Nat → Resolver) (capacity : Nat) (positive : 0 < capacity) :
    ∃ start, empty? capacity = some start ∧ ∀ calls : List CacheCall,
      (start.run resolvers calls).keys =
        (usesSinceClear resolvers calls).dedup.rtake capacity ∧
      (start.run resolvers calls).size ≤ capacity ∧
      ∀ key,
        match (start.run resolvers calls).answer resolvers key with
        | .ok cached =>
            (Filter.text key.1).compile (resolvers key.2) = .ok cached.predicate ∧
            (key ∈ (start.run resolvers calls).keys →
              StoredIn resolvers start calls key cached) ∧
            (key ∉ (start.run resolvers calls).keys →
              NewIn resolvers start calls cached.serial)
        | .error failure =>
            (Filter.text key.1).compile (resolvers key.2) = .error failure ∧
            start.run resolvers (calls ++ [.get key]) = start.run resolvers calls := by
  refine ⟨⟨capacity, [], 0⟩, if_neg (by omega), fun calls => ?_⟩
  have holds := holds_run resolvers positive calls
  refine ⟨holds.keys, holds.size_le, fun key => ?_⟩
  rcases get_cases resolvers (run resolvers ⟨capacity, [], 0⟩ calls) key with
    ⟨cached, known, answered, -⟩ | ⟨absent, p, compiles, answered, -⟩ |
      ⟨-, failure, fails, answered, next⟩
  · have found := mem_of_find? known
    rw [answered]
    refine ⟨holds.predicates _ _ found, fun _ => storedIn_of_mem rfl found, fun absent => ?_⟩
    exact absurd (mem_keys.mpr ⟨_, found⟩) absent
  · rw [answered]
    refine ⟨compiles, fun present => absurd present (find?_eq_none_iff.mp absent), fun _ => ?_⟩
    exact newIn_compiled resolvers positive calls
  · rw [answered]
    exact ⟨fails, by rw [run_concat, next]⟩

/-- Three filters that compile, the first of them twice, and one that does not. -/
def fiveCalls : List CacheCall :=
  [.get ("[a] > 1", 0), .get ("[a] > 2", 0), .get ("[b] > 1", 0), .get ("[a] > 1", 0),
    .get ("[a] > 3", 0)]

def oneResolver (_ : Nat) : Resolver := (⟨[("a", .number)]⟩ : Schema).resolver .byName

theorem run_keepsLastUsed_two :
    0 < 2 ∧ ∃ start, empty? 2 = some start ∧
      (start.run oneResolver fiveCalls).keys = [("[a] > 1", 0), ("[a] > 3", 0)] ∧
      (start.run oneResolver fiveCalls).size ≤ 2 := by
  obtain ⟨start, made, holds⟩ := run_keepsLastUsed oneResolver 2 (by decide)
  obtain ⟨keys, size, -⟩ := holds fiveCalls
  refine ⟨by decide, start, made, ?_, size⟩
  rw [keys]
  decide +kernel

end Cache

end RecordFilter
