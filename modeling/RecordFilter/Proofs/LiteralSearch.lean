import RecordFilter.Condition
import RecordFilter.Proofs.Outcomes
import RecordFilter.Proofs.WildcardPatterns

/-!
# Looking for a text in a field

That a field contains a text, begins with it or ends with it is asked for by a wildcard pattern, the
text with a percent sign on either side or on one.  The text is not escaped, and there is no way to
escape it: percent signs and underscores in it are wildcards too.  So the field has to hold a piece
that the text, taken as a pattern, matches.  That is a piece equal to the text, letter by letter,
for all fields exactly if there is no wildcard in the text.
-/

namespace RecordFilter

open Text

inductive Placement
  | anywhere | atStart | atEnd
  deriving DecidableEq, Repr

namespace Placement

def before : Placement → String
  | anywhere | atEnd => "%"
  | atStart => ""

def after : Placement → String
  | anywhere | atStart => "%"
  | atEnd => ""

def Finds : Placement → List Char → List Char → Prop
  | anywhere, piece, text => piece <:+: text
  | atStart, piece, text => piece <+: text
  | atEnd, piece, text => piece <:+ text

theorem Finds.isInfix {placement : Placement} {piece text : List Char}
    (h : placement.Finds piece text) : piece <:+: text := by
  cases placement with
  | anywhere => exact h
  | atStart => exact List.IsPrefix.isInfix h
  | atEnd => exact List.IsSuffix.isInfix h

theorem finds_self (placement : Placement) (text : List Char) : placement.Finds text text := by
  cases placement with
  | anywhere => exact List.infix_refl text
  | atStart => exact List.prefix_refl text
  | atEnd => exact List.suffix_refl text

end Placement

def SameText (text piece : List Char) : Prop :=
  List.Forall₂ (fun c d => sameLetter c d = true) text piece

/-! ## Pieces that a text matches -/

namespace Wildcard

theorem cuts_percent {text : List Char} : Cuts ['%'] text ↔ True := by
  refine iff_true_intro ⟨[text], by simp, ?_⟩
  exact .cons (.anyRun text) .nil

/-- The pattern of a search matches a text if there is a piece in its place that the text looked for
matches. -/
theorem cuts_placed {placement : Placement} {pattern text : List Char} :
    Cuts (placement.before.toList ++ pattern ++ placement.after.toList) text ↔
      ∃ piece, placement.Finds piece text ∧ Cuts pattern piece := by
  have percent : "%".toList = ['%'] := rfl
  have nothing : "".toList = [] := rfl
  cases placement with
  | anywhere =>
      simp only [Placement.before, Placement.after, percent, cuts_append, cuts_percent]
      constructor
      · rintro ⟨_, right, rfl, ⟨left, piece, rfl, -, cut⟩, -⟩
        exact ⟨piece, ⟨left, right, rfl⟩, cut⟩
      · rintro ⟨piece, ⟨left, right, rfl⟩, cut⟩
        exact ⟨left ++ piece, right, rfl, ⟨left, piece, rfl, trivial, cut⟩, trivial⟩
  | atStart =>
      simp only [Placement.before, Placement.after, percent, nothing, List.nil_append, cuts_append,
        cuts_percent]
      constructor
      · rintro ⟨piece, right, rfl, cut, -⟩
        exact ⟨piece, ⟨right, rfl⟩, cut⟩
      · rintro ⟨piece, ⟨right, rfl⟩, cut⟩
        exact ⟨piece, right, rfl, cut, trivial⟩
  | atEnd =>
      simp only [Placement.before, Placement.after, percent, nothing, List.append_nil, cuts_append,
        cuts_percent]
      constructor
      · rintro ⟨left, piece, rfl, -, cut⟩
        exact ⟨piece, ⟨left, rfl⟩, cut⟩
      · rintro ⟨piece, ⟨left, rfl⟩, cut⟩
        exact ⟨left, piece, rfl, trivial, cut⟩

theorem cuts_iff_sameText {text piece : List Char} (noRun : '%' ∉ text) (noChar : '_' ∉ text) :
    Cuts text piece ↔ SameText text piece := by
  induction text generalizing piece with
  | nil => simp [cuts_nil, SameText]
  | cons c text ih =>
      simp only [List.mem_cons, not_or] at noRun noChar
      have single : c ≠ '%' := Ne.symm noRun.1
      have letter : ofChar c = .letter c := by simp [ofChar, single, Ne.symm noChar.1]
      simp only [cuts_single single, letter, ih noRun.2 noChar.2, SameText,
        List.forall₂_cons_left_iff]
      constructor
      · rintro ⟨d, rest, rfl, same, others⟩
        exact ⟨d, rest, same, others, rfl⟩
      · rintro ⟨d, rest, same, others, rfl⟩
        exact ⟨d, rest, rfl, same, others⟩

/-- A text that a pattern matches, with other characters in place of the wildcards. -/
def filledIn (pattern : List Char) : List Char :=
  pattern.map fun c => if c = '%' ∨ c = '_' then 'x' else c

theorem cuts_filledIn (pattern : List Char) : Cuts pattern (filledIn pattern) := by
  induction pattern with
  | nil => exact cuts_nil.mpr rfl
  | cons c pattern ih =>
      refine cuts_cons.mpr ⟨[if c = '%' ∨ c = '_' then 'x' else c], filledIn pattern, rfl, ?_, ih⟩
      split_ifs with wildcard
      · rcases wildcard with rfl | rfl
        · exact .anyRun _
        · exact .anyChar _
      · rw [not_or] at wildcard
        exact .letter wildcard.1 wildcard.2 (beq_self_eq_true _)

theorem noWildcard_of_sameText {pattern : List Char} (h : SameText pattern (filledIn pattern)) :
    '%' ∉ pattern ∧ '_' ∉ pattern := by
  induction pattern with
  | nil => simp
  | cons c pattern ih =>
      obtain ⟨same, others⟩ := List.forall₂_cons.mp h
      obtain ⟨noRun, noChar⟩ := ih others
      have letter : c ≠ '%' ∧ c ≠ '_' := by
        constructor
        · rintro rfl
          revert same
          decide
        · rintro rfl
          revert same
          decide
      simp [letter.1.symm, letter.2.symm, noRun, noChar]

end Wildcard

open Wildcard

theorem finds_literally_iff (placement : Placement) (pattern : List Char) :
    (∀ text : List Char, (∃ piece, placement.Finds piece text ∧ Cuts pattern piece) ↔
      ∃ piece, placement.Finds piece text ∧ SameText pattern piece) ↔
    '%' ∉ pattern ∧ '_' ∉ pattern := by
  constructor
  · intro literal
    obtain ⟨piece, found, same⟩ := (literal (filledIn pattern)).mp
      ⟨_, placement.finds_self _, cuts_filledIn pattern⟩
    have length : piece.length = (filledIn pattern).length := by
      rw [← same.length_eq, filledIn, List.length_map]
    have whole := found.isInfix.eq_of_length length
    exact noWildcard_of_sameText (whole ▸ same)
  · rintro ⟨noRun, noChar⟩ text
    simp only [cuts_iff_sameText noRun noChar]

/-! ## Conditions -/

namespace Condition

def likePattern (name pattern : String) : Condition :=
  ⟨.binary .like (.field name) (.const ⟨.text, .text pattern⟩)⟩

theorem text_likePattern {name pattern : String} (writable : ']' ∉ name.toList)
    (plain : apostrophe ∉ pattern.toList) : ∃ text, (likePattern name pattern).text = .ok text := by
  have field : Expr.fieldText name = .ok ("[" ++ name ++ "]") := by
    simp [Expr.fieldText, writable]
  simp [likePattern, text, print, Expr.print, field, literalText, textLiteral, plain]

end Condition

def likePredicate (s : Schema) (expression : Option String) (name pattern : String) :
    Predicate where
  term := .like pattern.toList true (.field name)
  source := (Condition.likePattern name pattern).expr
  expression := expression
  resolver := s.resolver .byName

section

variable {s : Schema} {name : String} (declared : s.declared? name = some .text)

include declared

theorem compileTo_likePattern (expression : Option String) (pattern : String) :
    compileTo (s.resolver .byName) expression (Condition.likePattern name pattern).expr =
      .ok (likePredicate s expression name pattern) := by
  have canonical := Schema.canonical?_of_declared declared
  have field : compileField (s.resolver .byName) name = .ok ⟨.text, .field name⟩ := by
    simp [compileField, Schema.resolver, Schema.kind?, canonical, declared]
  simp only [Condition.likePattern, compileTo, compileFilter, compileExpr, field, ok_bind]
  rfl

theorem accepts_likePredicate (expression : Option String) (pattern text : String) :
    (likePredicate s expression name pattern).accepts (.record [(name, .text text)]) =
      .ok (matchesPattern pattern.toList text.toList) := by
  have canonical := Schema.canonical?_of_declared declared
  have read : s.read .byName name (.record [(name, .text text)]) = .ok (.text text) := by
    simp [Schema.read, canonical, declared, Lookup.find?, Payload.normalize, Payload.isNull]
  simp only [Predicate.accepts, likePredicate, Schema.resolver, Term.eval, read, ok_bind]
  rfl

end

/-- That a field contains a text, begins or ends with it, is a filter that can be used, as long as
name and text can be written, and that is answered for every content of the field: it accepts what
holds, in the place that is asked for, a piece that the text matches as a pattern.  The piece has to
be the text itself, letter by letter, exactly if there is no wildcard in the text. -/
theorem like_placed_finds (placement : Placement) (s : Schema) {name t : String}
    (declared : s.declared? name = some .text) (writable : ']' ∉ name.toList)
    (plain : apostrophe ∉ t.toList) :
    ∃ c p, Condition.like placement.before placement.after name (.text t) = .ok c ∧
      c.compile (s.resolver .byName) = .ok p ∧
      (∀ text : String, ∃ b, p.accepts (.record [(name, .text text)]) = .ok b ∧
        (b = true ↔ ∃ piece, placement.Finds piece text.toList ∧ Cuts t.toList piece)) ∧
      ((∀ text : String, p.accepts (.record [(name, .text text)]) = .ok true ↔
          ∃ piece, placement.Finds piece text.toList ∧ SameText t.toList piece) ↔
        '%' ∉ t.toList ∧ '_' ∉ t.toList) := by
  have finds (text : String) :
      matchesPattern (placement.before ++ t ++ placement.after).toList text.toList = true ↔
        ∃ piece, placement.Finds piece text.toList ∧ Cuts t.toList piece := by
    rw [matchesPattern_iff_cuts, String.toList_append, String.toList_append, cuts_placed]
  have unquoted : apostrophe ∉ (placement.before ++ t ++ placement.after).toList := by
    have percent : apostrophe ≠ '%' := by decide
    cases placement <;> simp [Placement.before, Placement.after, plain, percent]
  obtain ⟨written, text⟩ := Condition.text_likePattern writable unquoted
  refine ⟨Condition.likePattern name (placement.before ++ t ++ placement.after),
    likePredicate s (some written) name (placement.before ++ t ++ placement.after), rfl, ?_, ?_, ?_⟩
  · simp only [Condition.compile, text, compileTo_likePattern declared]
    rfl
  · intro text
    exact ⟨_, accepts_likePredicate declared _ _ _, finds text⟩
  · rw [← finds_literally_iff placement]
    simp only [accepts_likePredicate declared, Except.ok.injEq, finds]
    exact ⟨fun literal text => by simpa using literal (.ofList text),
      fun literal text => literal text.toList⟩

def titleSchema : Schema := ⟨[("Title", .text)]⟩

theorem like_placed_finds_point :
    titleSchema.declared? "Title" = some .text ∧ ']' ∉ "Title".toList ∧
    apostrophe ∉ "a.b".toList ∧
    ∃ c p, Condition.like "%" "%" "Title" (.text "a.b") = .ok c ∧
      c.compile (titleSchema.resolver .byName) = .ok p ∧
      ∀ text : String, p.accepts (.record [("Title", .text text)]) = .ok true ↔
        ∃ piece, piece <:+: text.toList ∧ SameText ['a', '.', 'b'] piece := by
  have declared : titleSchema.declared? "Title" = some .text := by decide
  have writable : ']' ∉ "Title".toList := by decide
  have plain : apostrophe ∉ "a.b".toList := by decide
  obtain ⟨c, p, made, compiled, -, literal⟩ :=
    like_placed_finds .anywhere titleSchema declared writable plain
  exact ⟨declared, writable, plain, c, p, made, compiled, literal.mpr (by decide)⟩

theorem like_placed_not_literal :
    ¬ ∀ (placement : Placement) (s : Schema) (name t text : String) (c : Condition) (p : Predicate),
      s.declared? name = some .text → apostrophe ∉ t.toList →
      Condition.like placement.before placement.after name (.text t) = .ok c →
      c.compile (s.resolver .byName) = .ok p →
      (p.accepts (.record [(name, .text text)]) = .ok true ↔
        ∃ piece, placement.Finds piece text.toList ∧ SameText t.toList piece) := by
  intro claim
  have accepted : (likePredicate titleSchema (some "[Title] like '%50%%'") "Title" "%50%%").accepts
      (.record [("Title", .text "500")]) = .ok true := by rfl
  obtain ⟨piece, found, same⟩ := (claim .anywhere titleSchema "Title" "50%" "500" _ _ (by decide)
    (by decide) rfl rfl).mp accepted
  have whole : piece = ['5', '0', '0'] :=
    List.IsInfix.eq_of_length found same.length_eq.symm
  rw [whole] at same
  obtain ⟨-, others⟩ := List.forall₂_cons.mp same
  obtain ⟨-, others⟩ := List.forall₂_cons.mp others
  obtain ⟨percent, -⟩ := List.forall₂_cons.mp others
  revert percent
  decide

end RecordFilter
