import Mathlib.Data.List.Induction
import RecordFilter.Payload.Basic

/-!
# First appearances

Names are kept once each, in the order in which they first appear: the names of a schema that is
made from samples, and those of fields of which the last counts.
-/

namespace RecordFilter

section

variable {α : Type} [BEq α] [LawfulBEq α]

theorem pairwise_idxOf_eraseDups (l : List α) :
    l.eraseDups.Pairwise fun a b => l.idxOf a < l.idxOf b := by
  induction l using List.reverseRecOn with
  | nil => exact .nil
  | append_singleton l a ih =>
      have first {b : α} (found : b ∈ l) : (l ++ [a]).idxOf b = l.idxOf b := by
        rw [List.idxOf_append, if_pos found]
      have earlier : l.eraseDups.Pairwise fun b c => (l ++ [a]).idxOf b < (l ++ [a]).idxOf c := by
        refine ih.imp_of_mem fun {b c} hb hc before => ?_
        rw [first (List.mem_eraseDups.mp hb), first (List.mem_eraseDups.mp hc)]
        exact before
      rw [List.eraseDups_append]
      by_cases known : a ∈ l
      · simpa [List.removeAll, known] using earlier
      · have last : ([a].removeAll l).eraseDups = [a] := by
          simp [List.removeAll, known, List.eraseDups_cons]
        rw [last, List.pairwise_append]
        refine ⟨earlier, List.pairwise_singleton _ _, fun b hb c hc => ?_⟩
        obtain rfl := List.mem_singleton.mp hc
        have found := List.mem_eraseDups.mp hb
        rw [first found, List.idxOf_append, if_neg known]
        exact Nat.lt_of_lt_of_le (List.idxOf_lt_length_of_mem found) (Nat.le_add_left _ _)

/-- The members of a list, each once and in the order in which they first appear there. -/
structure FirstAppearances (found l : List α) : Prop where
  mem_iff : ∀ a, a ∈ found ↔ a ∈ l
  inOrder : found.Pairwise fun a b => l.idxOf a < l.idxOf b

theorem firstAppearances_eraseDups (l : List α) : FirstAppearances l.eraseDups l where
  mem_iff _ := List.mem_eraseDups
  inOrder := pairwise_idxOf_eraseDups l

theorem nodup_eraseDups (l : List α) : l.eraseDups.Nodup :=
  (pairwise_idxOf_eraseDups l).imp fun before same => by
    subst same
    exact absurd before (Nat.lt_irrefl _)

theorem eraseDups_of_nodup {l : List α} (distinct : l.Nodup) : l.eraseDups = l := by
  induction l using List.reverseRecOn with
  | nil => rfl
  | append_singleton l a ih =>
      obtain ⟨distinct, -, apart⟩ := List.nodup_append.mp distinct
      have unknown : a ∉ l := fun known => apart a known a (List.mem_singleton_self a) rfl
      rw [List.eraseDups_append, ih distinct]
      simp [List.removeAll, unknown, List.eraseDups_cons]

theorem eraseDups_append_of_subset {l m : List α} (distinct : l.Nodup) (known : m ⊆ l) :
    (l ++ m).eraseDups = l := by
  have nothing : m.removeAll l = [] := by
    rw [List.removeAll, List.filter_eq_nil_iff]
    intro a found
    simp [known found]
  rw [List.eraseDups_append, nothing, eraseDups_of_nodup distinct]
  exact List.append_nil l

end

/-! ## Fields of which the last counts -/

theorem names_insertField (fields : List (String × Payload)) (name : String) (p : Payload) :
    (insertField fields name p).map (·.1) =
      if name ∈ fields.map (·.1) then fields.map (·.1) else fields.map (·.1) ++ [name] := by
  have kept : (fields.map fun field => if field.1 == name then (name, p) else field).map (·.1) =
      fields.map (·.1) := by
    rw [List.map_map]
    refine List.map_congr_left fun field _ => ?_
    by_cases same : field.1 = name
    · simp [same]
    · simp [same]
  have known : fields.any (·.1 == name) = true ↔ name ∈ fields.map (·.1) := by
    simp [List.any_eq_true]
  unfold insertField
  by_cases found : name ∈ fields.map (·.1)
  · rw [if_pos (known.mpr found), if_pos found, kept]
  · rw [if_neg (mt known.mp found), if_neg found, List.map_append]
    rfl

theorem distinctFields_append (fields : List (String × Payload)) (field : String × Payload) :
    distinctFields (fields ++ [field]) = insertField (distinctFields fields) field.1 field.2 := by
  simp [distinctFields]

theorem names_distinctFields (fields : List (String × Payload)) :
    (distinctFields fields).map (·.1) = (fields.map (·.1)).eraseDups := by
  induction fields using List.reverseRecOn with
  | nil => rfl
  | append_singleton fields field ih =>
      rw [distinctFields_append, names_insertField, ih, List.map_append, List.eraseDups_append]
      by_cases known : field.1 ∈ fields.map (·.1)
      · rw [if_pos (List.mem_eraseDups.mpr known)]
        simp [List.removeAll, List.mem_map.mp known]
      · rw [if_neg (mt List.mem_eraseDups.mp known)]
        have unknown : ∀ p, (field.1, p) ∉ fields := fun p found =>
          known (List.mem_map_of_mem (f := (·.1)) found)
        simp [List.removeAll, List.eraseDups_cons, unknown]

theorem distinctFields_of_nodup {fields : List (String × Payload)}
    (distinct : (fields.map (·.1)).Nodup) : distinctFields fields = fields := by
  induction fields using List.reverseRecOn with
  | nil => rfl
  | append_singleton fields field ih =>
      rw [List.map_append, List.nodup_append] at distinct
      obtain ⟨distinct, -, apart⟩ := distinct
      have unknown : fields.any (·.1 == field.1) = false := by
        rw [List.any_eq_false]
        intro other found same
        exact apart other.1 (List.mem_map_of_mem found) field.1 (List.mem_singleton_self _)
          (eq_of_beq same)
      rw [distinctFields_append, ih distinct, insertField, if_neg (by simp [unknown])]

end RecordFilter
