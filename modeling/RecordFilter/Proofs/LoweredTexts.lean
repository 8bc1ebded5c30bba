import Mathlib.Data.List.Induction
import Mathlib.Tactic.SplitIfs
import RecordFilter.Text.Letter

/-!
# Lower case of a piece of a text

A text is written in lower case letter by letter, but for the capital sigma, whose lower form
tells whether a word ends with it.  So the lower form of a piece of a text is a piece of the lower
form of the text if every capital sigma of the piece ends a word on its own exactly where it does
within the text.  Without such letters in it this is so wherever the piece stands.
-/

namespace RecordFilter.Text

/-- Whether a text ends within a word, if it began within one as `inWord` says. -/
def inWordAfter (inWord : Bool) : List Char → Bool
  | [] => inWord
  | c :: rest => inWordAfter (if isCaseIgnorable c then inWord else isCased c) rest

theorem inWordAfter_append (inWord : Bool) (first second : List Char) :
    inWordAfter inWord (first ++ second) = inWordAfter (inWordAfter inWord first) second := by
  induction first generalizing inWord with
  | nil => rfl
  | cons c first ih => exact ih _

theorem inWordAfter_eq (text : List Char) : inWordAfter false text = startsCased text.reverse := by
  induction text using List.reverseRecOn with
  | nil => rfl
  | append_singleton text c ih =>
      rw [inWordAfter_append, ih, List.reverse_append, List.reverse_singleton,
        List.singleton_append, startsCased, startsCased, List.dropWhile_cons, inWordAfter,
        inWordAfter]
      split_ifs with ignorable
      · rfl
      · rfl

/-- A capital sigma between two pieces of a text ends a word: a cased letter stands before it and
none behind it, apart from what does not count. -/
def endsWord (before after : List Char) : Bool := startsCased before.reverse && !startsCased after

/-- Every capital sigma of a piece ends a word within a text exactly if it does in the piece. -/
def KeepsSigmas (before piece after : List Char) : Prop :=
  ∀ first second, piece = first ++ 'Σ' :: second →
    endsWord (before ++ first) (second ++ after) = endsWord first second

theorem keepsSigmas_of_not_mem {piece : List Char} (without : 'Σ' ∉ piece)
    (before after : List Char) : KeepsSigmas before piece after := by
  rintro first second rfl
  exact absurd (List.mem_append_right _ List.mem_cons_self) without

theorem lowerFrom_append (inWord inPiece : Bool) {piece after : List Char}
    (keeps : ∀ first second, piece = first ++ 'Σ' :: second →
      (inWordAfter inWord first && !startsCased (second ++ after)) =
        (inWordAfter inPiece first && !startsCased second)) :
    lowerFrom inWord (piece ++ after) =
      lowerFrom inPiece piece ++ lowerFrom (inWordAfter inWord piece) after := by
  induction piece generalizing inWord inPiece with
  | nil => rfl
  | cons c piece ih =>
      have later := ih (if isCaseIgnorable c then inWord else isCased c)
        (if isCaseIgnorable c then inPiece else isCased c) fun first second same =>
          keeps (c :: first) second (congrArg (c :: ·) same)
      rw [List.cons_append, lowerFrom, lowerFrom, inWordAfter, later, ← List.append_assoc]
      by_cases sigma : c = 'Σ'
      · subst sigma
        have form := keeps [] piece rfl
        rw [inWordAfter, inWordAfter] at form
        rw [form]
      · simp only [beq_eq_false_iff_ne.mpr sigma, Bool.false_eq_true, if_false]

theorem exists_lowerFrom_append (inWord : Bool) (before text : List Char) :
    ∃ front, lowerFrom inWord (before ++ text) =
      front ++ lowerFrom (inWordAfter inWord before) text := by
  induction before generalizing inWord with
  | nil => exact ⟨[], rfl⟩
  | cons c before ih =>
      obtain ⟨front, rest⟩ := ih (if isCaseIgnorable c then inWord else isCased c)
      rw [List.cons_append, lowerFrom, rest, ← List.append_assoc]
      exact ⟨_, rfl⟩

/-- A piece of a text that keeps its capital sigmas is still a piece of it in lower case. -/
theorem lowerText_infix {before piece after : List Char} (keeps : KeepsSigmas before piece after) :
    lowerText piece <:+: lowerText (before ++ piece ++ after) := by
  obtain ⟨front, split⟩ := exists_lowerFrom_append false before (piece ++ after)
  have agree : ∀ first second, piece = first ++ 'Σ' :: second →
      (inWordAfter (inWordAfter false before) first && !startsCased (second ++ after)) =
        (inWordAfter false first && !startsCased second) := by
    intro first second same
    rw [← inWordAfter_append, inWordAfter_eq, inWordAfter_eq]
    exact keeps first second same
  rw [lowerFrom_append _ false agree, ← List.append_assoc, ← List.append_assoc] at split
  rw [lowerText, lowerText, split]
  exact ⟨_, _, rfl⟩

theorem lowerFrom_eq_map (inWord : Bool) {text : List Char} (noSigma : 'Σ' ∉ text)
    (noDot : 'İ' ∉ text) : lowerFrom inWord text = text.map lowerChar := by
  induction text generalizing inWord with
  | nil => rfl
  | cons c text ih =>
      simp only [List.mem_cons, not_or] at noSigma noDot
      have plainSigma : (c == 'Σ') = false := beq_eq_false_iff_ne.mpr (Ne.symm noSigma.1)
      have plainDot : (c == 'İ') = false := beq_eq_false_iff_ne.mpr (Ne.symm noDot.1)
      simp only [lowerFrom, ih _ noSigma.2 noDot.2, plainSigma, plainDot, Bool.false_eq_true,
        if_false, List.map_cons, List.singleton_append]

theorem lowerText_ne_nil {text : List Char} (some : text ≠ []) : lowerText text ≠ [] := by
  obtain ⟨c, rest, rfl⟩ := List.exists_cons_of_ne_nil some
  rw [lowerText, lowerFrom]
  split_ifs <;> exact nofun

end RecordFilter.Text
