import Mathlib.Data.List.Forall2

/-!
# Calls that may fail

A chain of calls succeeds if all of them do, each on what the one before it gave, and fails where
the first of them does.
-/

namespace RecordFilter

section

variable {ε α β : Type}

@[simp] theorem ok_bind (a : α) (next : α → Except ε β) : (Except.ok a >>= next) = next a := rfl

@[simp] theorem map_ok (f : α → β) (a : α) : f <$> (Except.ok a : Except ε α) = .ok (f a) := rfl

@[simp] theorem pure_eq_ok {a b : α} : (pure a : Except ε α) = .ok b ↔ a = b := by
  constructor
  · intro h
    cases h
    rfl
  · rintro rfl
    rfl

theorem bind_eq_ok {x : Except ε α} {next : α → Except ε β} {b : β} :
    (x >>= next) = .ok b ↔ ∃ a, x = .ok a ∧ next a = .ok b := by
  cases x with
  | error e =>
      constructor
      · intro h
        cases h
      · rintro ⟨a, h, -⟩
        cases h
  | ok a => simp

theorem map_eq_ok {x : Except ε α} {f : α → β} {b : β} :
    x.map f = .ok b ↔ ∃ a, x = .ok a ∧ f a = b := by
  cases x with
  | error e =>
      constructor
      · intro h
        cases h
      · rintro ⟨a, h, -⟩
        cases h
  | ok a => simp [Except.map]

theorem bind_eq_error {x : Except ε α} {next : α → Except ε β} {e : ε} :
    (x >>= next) = .error e ↔ x = .error e ∨ ∃ a, x = .ok a ∧ next a = .error e := by
  cases x with
  | error f =>
      constructor
      · intro h
        cases h
        exact .inl rfl
      · rintro (h | ⟨a, h, -⟩)
        · cases h
          rfl
        · cases h
  | ok a => simp

theorem bind_pure_eq_error {x : Except ε α} {make : α → β} {e : ε} :
    (x >>= fun a => pure (make a)) = .error e ↔ x = .error e := by
  rw [bind_eq_error]
  constructor
  · rintro (h | ⟨a, -, h⟩)
    · exact h
    · cases h
  · exact .inl

@[simp] theorem toOption_ok (a : α) : (Except.ok a : Except ε α).toOption = some a := rfl

@[simp] theorem toOption_error (e : ε) : (Except.error e : Except ε α).toOption = none := rfl

theorem toOption_eq_some {x : Except ε α} {a : α} : x.toOption = some a ↔ x = .ok a := by
  cases x <;> simp

@[simp] theorem toOption_map (f : α → β) (x : Except ε α) :
    (x.map f).toOption = x.toOption.map f := by
  cases x <;> rfl

theorem map_eq_error {x : Except ε α} {f : α → β} {e : ε} :
    x.map f = .error e ↔ x = .error e := by
  cases x <;> simp [Except.map]

theorem mapError_eq_ok {δ : Type} {x : Except ε α} {f : ε → δ} {a : α} :
    x.mapError f = .ok a ↔ x = .ok a := by
  cases x with
  | error e => exact iff_of_false nofun nofun
  | ok b => constructor <;> intro same <;> cases same <;> rfl

theorem mapError_eq_error {δ : Type} {x : Except ε α} {f : ε → δ} {e : δ} :
    x.mapError f = .error e ↔ ∃ e', x = .error e' ∧ f e' = e := by
  cases x <;> simp [Except.mapError]

/-! ## A call for each member of a list -/

theorem mapM_eq_ok {f : α → Except ε β} {as : List α} {bs : List β} :
    as.mapM f = .ok bs ↔ List.Forall₂ (fun a b => f a = .ok b) as bs := by
  induction as generalizing bs with
  | nil => rw [List.mapM_nil, pure_eq_ok, List.forall₂_nil_left_iff, eq_comm]
  | cons a as ih =>
      simp only [List.mapM_cons, bind_eq_ok, pure_eq_ok, ih, List.forall₂_cons_left_iff]
      constructor
      · rintro ⟨b, made, rest, others, rfl⟩
        exact ⟨b, rest, made, others, rfl⟩
      · rintro ⟨b, rest, made, others, rfl⟩
        exact ⟨b, made, rest, others, rfl⟩

theorem mapM_eq_ok_map {f : α → Except ε β} {g : α → β} {as : List α}
    (each : ∀ a ∈ as, f a = .ok (g a)) : as.mapM f = .ok (as.map g) :=
  mapM_eq_ok.mpr (List.forall₂_map_right_iff.mpr (List.forall₂_same.mpr each))

theorem map_of_mapM {γ : Type} {f : α → Except ε β} (key : β → γ) (key' : α → γ) {as : List α}
    {bs : List β} (keeps : ∀ a b, f a = .ok b → key b = key' a) (h : as.mapM f = .ok bs) :
    bs.map key = as.map key' := by
  rw [mapM_eq_ok] at h
  induction h with
  | nil => rfl
  | cons made _ ih => rw [List.map_cons, List.map_cons, keeps _ _ made, ih]

theorem forall_of_mapM {f : α → Except ε β} {good : β → Prop} {as : List α} {bs : List β}
    (each : ∀ a b, f a = .ok b → good b) (h : as.mapM f = .ok bs) : ∀ b ∈ bs, good b := by
  rw [mapM_eq_ok] at h
  induction h with
  | nil => exact nofun
  | cons made _ ih => exact List.forall_mem_cons.mpr ⟨each _ _ made, ih⟩

theorem mapM_eq_error_of_mem {f : α → Except ε β} {as : List α} {a : α} {e : ε} (mem : a ∈ as)
    (failed : f a = .error e) : ∃ e', as.mapM f = .error e' := by
  induction as with
  | nil => cases mem
  | cons first as ih =>
      rw [List.mapM_cons]
      cases begun : f first with
      | error e' => exact ⟨e', rfl⟩
      | ok b =>
          rcases List.mem_cons.mp mem with rfl | mem
          · cases begun.symm.trans failed
          · obtain ⟨e', others⟩ := ih mem
            exact ⟨e', by rw [ok_bind, others]; rfl⟩

theorem mapM_eq_error {f : α → Except ε β} {as : List α} {e : ε} (h : as.mapM f = .error e) :
    ∃ a ∈ as, f a = .error e := by
  induction as with
  | nil => cases h
  | cons a as ih =>
      rw [List.mapM_cons, bind_eq_error] at h
      rcases h with h | ⟨b, -, h⟩
      · exact ⟨a, List.mem_cons_self, h⟩
      · obtain ⟨c, found, failed⟩ := ih (bind_pure_eq_error.mp h)
        exact ⟨c, List.mem_cons_of_mem a found, failed⟩

end

/-! ## Two calls -/

inductive Alike {ε α β : Type} (related : α → β → Prop) : Except ε α → Except ε β → Prop
  | ok {a : α} {b : β} (h : related a b) : Alike related (.ok a) (.ok b)
  | error (e f : ε) : Alike related (.error e) (.error f)

namespace Alike

variable {ε α β γ δ : Type} {related : α → β → Prop} {related' : γ → δ → Prop}

theorem refl {related : α → α → Prop} (h : ∀ a, related a a) (x : Except ε α) :
    Alike related x x := by
  cases x with
  | ok a => exact .ok (h a)
  | error e => exact .error e e

theorem bind {x : Except ε α} {y : Except ε β} {next : α → Except ε γ} {next' : β → Except ε δ}
    (h : Alike related x y)
    (step : ∀ a b, x = .ok a → related a b → Alike related' (next a) (next' b)) :
    Alike related' (x >>= next) (y >>= next') := by
  cases h with
  | ok h => exact step _ _ rfl h
  | error e f => exact .error e f

theorem bind_self {x : Except ε α} {next : α → Except ε γ} {next' : α → Except ε δ}
    (step : ∀ a, x = .ok a → Alike related' (next a) (next' a)) :
    Alike related' (x >>= next) (x >>= next') := by
  cases x with
  | ok a => exact step a rfl
  | error e => exact .error e e

theorem map {x : Except ε α} {y : Except ε β} {f : α → γ} {g : β → δ} (h : Alike related x y)
    (step : ∀ a b, related a b → related' (f a) (g b)) : Alike related' (x.map f) (y.map g) := by
  cases h with
  | ok h => exact .ok (step _ _ h)
  | error e f => exact .error e f

theorem bind_swap {x : Except ε α} {y : Except ε β} {next : α → β → Except ε γ}
    {next' : β → α → Except ε δ}
    (step : ∀ a b, x = .ok a → y = .ok b → Alike related' (next a b) (next' b a)) :
    Alike related' (x >>= fun a => y >>= next a) (y >>= fun b => x >>= next' b) := by
  cases x with
  | ok a =>
      cases y with
      | ok b => exact step a b rfl rfl
      | error f => exact .error f f
  | error e =>
      cases y with
      | ok b => exact .error e e
      | error f => exact .error e f

theorem symm {x : Except ε α} {y : Except ε β} (h : Alike related x y) :
    Alike (fun b a => related a b) y x := by
  cases h with
  | ok h => exact .ok h
  | error e f => exact .error f e

theorem mono {related' : α → β → Prop} {x : Except ε α} {y : Except ε β} (h : Alike related x y)
    (step : ∀ a b, related a b → related' a b) : Alike related' x y := by
  cases h with
  | ok h => exact .ok (step _ _ h)
  | error e f => exact .error e f

theorem ok_iff {x : Except ε α} {y : Except ε β} (h : Alike related x y) :
    (∃ a, x = .ok a) ↔ ∃ b, y = .ok b := by
  cases h with
  | ok h => exact ⟨fun _ => ⟨_, rfl⟩, fun _ => ⟨_, rfl⟩⟩
  | error e f => exact ⟨nofun, nofun⟩

theorem related_of_ok {x : Except ε α} {y : Except ε β} {a : α} {b : β} (h : Alike related x y)
    (hx : x = .ok a) (hy : y = .ok b) : related a b := by
  subst hx hy
  cases h with
  | ok h => exact h

theorem eq_ok {x y : Except ε α} {a : α} (h : Alike Eq x y) (hx : x = .ok a) : y = .ok a := by
  subst hx
  cases h with
  | ok same => rw [same]

theorem of_ne_ok {x : Except ε α} {y : Except ε β} (hx : ∀ a, x ≠ .ok a) (hy : ∀ b, y ≠ .ok b) :
    Alike related x y := by
  cases x with
  | ok a => exact absurd rfl (hx a)
  | error e =>
      cases y with
      | ok b => exact absurd rfl (hy b)
      | error f => exact .error e f

theorem of_eq_ok {x : Except ε α} {y : Except ε β} {o : Option γ} {o' : Option δ} {f : γ → α}
    {g : δ → β} (h : Option.Rel related' o o') (hx : ∀ a, x = .ok a ↔ ∃ c, o = some c ∧ a = f c)
    (hy : ∀ b, y = .ok b ↔ ∃ d, o' = some d ∧ b = g d)
    (step : ∀ c d, related' c d → related (f c) (g d)) : Alike related x y := by
  cases h with
  | @some c d h =>
      rw [(hx (f c)).mpr ⟨c, rfl, rfl⟩, (hy (g d)).mpr ⟨d, rfl, rfl⟩]
      exact .ok (step c d h)
  | none => exact of_ne_ok (fun a => by simp [hx]) fun b => by simp [hy]

end Alike

inductive UpTo {ε α : Type} (related : α → α → Prop) : Except ε α → Except ε α → Prop
  | same (x : Except ε α) : UpTo related x x
  | results {a b : α} (h : related a b) : UpTo related (.ok a) (.ok b)

namespace UpTo

variable {ε α β : Type} {related : α → α → Prop} {related' : β → β → Prop} {x y : Except ε α}

theorem eq (h : UpTo related x y) (never : ∀ a b, ¬ related a b) : x = y := by
  cases h with
  | same => rfl
  | results h => exact absurd h (never _ _)

theorem bind {next next' : α → Except ε β} (h : UpTo related x y)
    (refl : ∀ a, x = .ok a → related a a)
    (step : ∀ a b, x = .ok a → y = .ok b → related a b → UpTo related' (next a) (next' b)) :
    UpTo related' (x >>= next) (y >>= next') := by
  cases h with
  | same x =>
      cases x with
      | ok a => exact step a a rfl rfl (refl a rfl)
      | error e => exact .same _
  | results h => exact step _ _ rfl rfl h

theorem bind_eq {next : α → Except ε β} (h : UpTo related x y)
    (step : ∀ a b, related a b → next a = next b) : (x >>= next) = (y >>= next) := by
  cases h with
  | same => rfl
  | results h => exact step _ _ h

end UpTo

end RecordFilter
