import Mathlib.Data.List.Induction
import RecordFilter.Expr.Walk

/-!
# A walk takes every node once

The nodes of a tree are told apart by their places.  A place is a path from the root: it says which
of the trees below a node to go on with.  A walk takes the nodes in the order of their places, in
which a node is before those below it and these from left to right.
-/

namespace RecordFilter

namespace Expr

def at? (e : Expr) : List Nat → Option Expr
  | [] => some e
  | i :: path =>
      match e.children[i]? with
      | some child => child.at? path
      | none => none

def atOf? (es : List Expr) : List Nat → Option Expr
  | [] => none
  | i :: path =>
      match es[i]? with
      | some e => e.at? path
      | none => none

/-- A list gives the trees that `find` knows in the order of their places, the tree at each place
once. -/
structure VisitsAt (find : List Nat → Option Expr) (walked : List Expr)
    (places : List (List Nat)) : Prop where
  found : walked.map some = places.map find
  everywhere : ∀ place, (find place).isSome → place ∈ places
  inOrder : places.Pairwise (· < ·)

theorem VisitsAt.isSome {find : List Nat → Option Expr} {walked : List Expr}
    {places : List (List Nat)} (h : VisitsAt find walked places) {place : List Nat}
    (visited : place ∈ places) : (find place).isSome := by
  have member := List.mem_map_of_mem (f := find) visited
  rw [← h.found, List.mem_map] at member
  obtain ⟨node, -, same⟩ := member
  rw [← same]
  rfl

theorem VisitsAt.aboveFirst {find : List Nat → Option Expr} {walked : List Expr}
    {places : List (List Nat)} (h : VisitsAt find walked places) :
    places.Pairwise fun place later => ¬ later <+: place := by
  refine h.inOrder.imp fun {place later} before below => ?_
  obtain ⟨path, rfl⟩ := below
  exact List.le_append_left before

theorem head_lt_of_atOf? {es : List Expr} {place : List Nat} (some : (atOf? es place).isSome) :
    ∃ i path, place = i :: path ∧ i < es.length := by
  cases place with
  | nil => cases some
  | cons i path =>
      refine ⟨i, path, rfl, Nat.lt_of_not_le fun beyond => ?_⟩
      rw [atOf?, List.getElem?_eq_none beyond] at some
      cases some

theorem atOf?_append_left (es : List Expr) (e : Expr) {i : Nat} (path : List Nat)
    (inside : i < es.length) : atOf? (es ++ [e]) (i :: path) = atOf? es (i :: path) := by
  rw [atOf?, atOf?, List.getElem?_append_left inside]

theorem atOf?_append_last (es : List Expr) (e : Expr) (path : List Nat) :
    atOf? (es ++ [e]) (es.length :: path) = e.at? path := by
  rw [atOf?, List.getElem?_append_right (Nat.le_refl _), Nat.sub_self, List.getElem?_cons_zero]

theorem VisitsAt.append {es : List Expr} {e : Expr} {before places : List (List Nat)}
    (first : VisitsAt (atOf? es) (nodesOf es) before) (last : VisitsAt e.at? e.nodes places) :
    VisitsAt (atOf? (es ++ [e])) (nodesOf (es ++ [e]))
      (before ++ places.map (es.length :: ·)) where
  found := by
    have same : before.map (atOf? es) = before.map (atOf? (es ++ [e])) := by
      refine List.map_congr_left fun place visited => ?_
      obtain ⟨i, path, rfl, inside⟩ := head_lt_of_atOf? (first.isSome visited)
      exact (atOf?_append_left es e path inside).symm
    have lasts : (places.map (es.length :: ·)).map (atOf? (es ++ [e])) = places.map e.at? := by
      rw [List.map_map]
      exact List.map_congr_left fun path _ => atOf?_append_last es e path
    rw [nodesOf_append, List.map_append, List.map_append, lasts, ← last.found, ← same,
      first.found, nodesOf, nodesOf, List.append_nil]
  everywhere place some := by
    obtain ⟨i, path, rfl, inside⟩ := head_lt_of_atOf? some
    rw [List.length_append, List.length_singleton] at inside
    rcases Nat.lt_succ_iff_lt_or_eq.mp inside with inside | rfl
    · rw [atOf?_append_left es e path inside] at some
      exact List.mem_append_left _ (first.everywhere _ some)
    · rw [atOf?_append_last] at some
      exact List.mem_append_right _ (List.mem_map_of_mem (last.everywhere _ some))
  inOrder := by
    refine List.pairwise_append.mpr ⟨first.inOrder, ?_, ?_⟩
    · exact List.pairwise_map.mpr (last.inOrder.imp fun before => List.Lex.cons before)
    · intro place visited later behind
      obtain ⟨i, path, rfl, inside⟩ := head_lt_of_atOf? (first.isSome visited)
      obtain ⟨path', -, rfl⟩ := List.mem_map.mp behind
      exact List.Lex.rel inside

theorem VisitsAt.node {e : Expr} {below : List (List Nat)}
    (h : VisitsAt (atOf? e.children) (nodesOf e.children) below) :
    VisitsAt e.at? e.nodes ([] :: below) where
  found := by
    have same : below.map (atOf? e.children) = below.map e.at? := by
      refine List.map_congr_left fun place visited => ?_
      obtain ⟨i, path, rfl, -⟩ := head_lt_of_atOf? (h.isSome visited)
      rw [atOf?, at?]
    rw [nodes_eq, List.map_cons, List.map_cons, ← same, ← h.found, at?]
  everywhere place some := by
    cases place with
    | nil => exact List.mem_cons_self
    | cons i path => exact List.mem_cons_of_mem _ (h.everywhere _ (by rwa [at?] at some))
  inOrder := by
    refine List.pairwise_cons.mpr ⟨fun place visited => ?_, h.inOrder⟩
    obtain ⟨i, path, rfl, -⟩ := head_lt_of_atOf? (h.isSome visited)
    exact List.Lex.nil

/-- What holds of a tree if it holds of those right below its root holds of every tree. -/
theorem induction_children {good : Expr → Prop}
    (step : ∀ e, (∀ child ∈ e.children, good child) → good e) (e : Expr) : good e := by
  refine step e fun child below => ?_
  have smaller : child.nodes.length < e.nodes.length := by
    obtain ⟨before, behind, same⟩ := List.append_of_mem below
    rw [nodes_eq e, same, nodesOf_append, nodesOf, List.length_cons, List.length_append,
      List.length_append]
    omega
  exact induction_children step child
  termination_by e.nodes.length

theorem exists_visitsAt_of {es : List Expr}
    (each : ∀ e ∈ es, ∃ places, VisitsAt e.at? e.nodes places) :
    ∃ places, VisitsAt (atOf? es) (nodesOf es) places := by
  induction es using List.reverseRecOn with
  | nil =>
      refine ⟨[], rfl, fun place some => ?_, .nil⟩
      obtain ⟨i, path, -, inside⟩ := head_lt_of_atOf? some
      exact absurd inside (Nat.not_lt_zero i)
  | append_singleton es e ih =>
      rw [List.forall_mem_append] at each
      obtain ⟨before, first⟩ := ih each.1
      obtain ⟨places, last⟩ := each.2 e (List.mem_singleton_self e)
      exact ⟨_, first.append last⟩

theorem exists_visitsAt (e : Expr) : ∃ places, VisitsAt e.at? e.nodes places := by
  induction e using induction_children with
  | step e each =>
      obtain ⟨below, visits⟩ := exists_visitsAt_of each
      exact ⟨_, visits.node⟩

end Expr

end RecordFilter
