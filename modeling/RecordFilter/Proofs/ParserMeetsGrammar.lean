import RecordFilter.Proofs.ParserCompleteness

/-!
# The parser accepts exactly its grammar

Both directions, for whole lists of tokens: a list ends with its only end of text, and its literals
and field references have the forms that scanning gives them.
-/

namespace RecordFilter

theorem parseTokens_append {tokens : List Token} {finish : Token}
    (ends : finish.kind = .finish) (only : ∀ t ∈ tokens, t.kind ≠ .finish) (behind : List Token) :
    parseTokens (tokens ++ finish :: behind) = parseBefore finish tokens := by
  have last : isFinish finish = true := by simp [isFinish, ends]
  have before : ∀ t ∈ tokens, isFinish t = false := fun t ht => by simp [isFinish, only t ht]
  have first : tokens.find? isFinish = none := by simpa using before
  have taken : (tokens ++ finish :: behind).takeWhile (!isFinish ·) =
      tokens ++ (finish :: behind).takeWhile (!isFinish ·) :=
    List.takeWhile_append_of_pos fun t ht => by simp [before t ht]
  rw [parseTokens, List.find?_append, first, taken]
  simp [last]

theorem parseTokens_append_finish {tokens : List Token} {finish : Token}
    (ends : finish.kind = .finish) (only : ∀ t ∈ tokens, t.kind ≠ .finish) :
    parseTokens (tokens ++ [finish]) = parseBefore finish tokens :=
  parseTokens_append ends only []

theorem parseBefore_eq (finish : Token) {tokens : List Token} (nonempty : tokens ≠ []) :
    parseBefore finish tokens = (do
      let (e, rest) ← outcome (parseTier finish .disjunction tokens)
      match rest with
      | [] => return e
      | t :: _ => t.fail t.trailingProblem) := by
  rw [parseBefore, if_neg (by simpa using nonempty)]
  cases parseTier finish .disjunction tokens with
  | error => rfl
  | ok read => rfl

theorem parseBefore_of_derives (finish : Token) {tokens : List Token} {e : Expr}
    (derived : Derives .disjunction tokens e) : parseBefore finish tokens = .ok e := by
  have goesOn : GoesOn finish .disjunction tokens e := derived.isRead
  have read := goesOn.read .disjunction (Category.stopsBefore_nil .disjunction)
  rw [List.append_nil] at read
  rw [parseBefore_eq finish derived.ne_nil, read]
  rfl

theorem parseBefore_yields (finish : Token) {tokens : List Token} (formed : Formed tokens) :
    match parseBefore finish tokens with
    | .ok e => Derives .disjunction tokens e
    | .error error => error.problem ≠ .malformedNumeral := by
  cases tokens with
  | nil => exact ParseProblem.noConfusion
  | cons t rest =>
      rw [parseBefore_eq finish (List.cons_ne_nil t rest)]
      have yields := parseTier_yields finish .disjunction formed
      cases read : outcome (parseTier finish .disjunction (t :: rest)) with
      | error error =>
          rw [read] at yields
          exact yields
      | ok result =>
          obtain ⟨e, behind⟩ := result
          rw [read] at yields
          obtain ⟨ts, same, derived⟩ := yields
          cases behind with
          | nil =>
              rw [List.append_nil] at same
              rwa [same]
          | cons u behind => exact trailingProblem_ne u

/-- Two derivations of one list of tokens have the same tree. -/
theorem Derives.unique {tokens : List Token} {e e' : Expr} (h : Derives .disjunction tokens e)
    (h' : Derives .disjunction tokens e') : e = e' := by
  have parsed := parseBefore_of_derives default h
  rw [parseBefore_of_derives default h'] at parsed
  exact (Except.ok.inj parsed).symm

/-- Parsing a list of tokens succeeds with a tree if and only if the grammar derives the whole list
with this tree.  There is one such tree at most, and a list without one is rejected with an error
of the filter. -/
theorem parseTokens_iff_derives {tokens : List Token} {finish : Token}
    (ends : finish.kind = .finish) (only : ∀ t ∈ tokens, t.kind ≠ .finish)
    (formed : Formed tokens) :
    (∀ e, parseTokens (tokens ++ [finish]) = .ok e ↔ Derives .disjunction tokens e) ∧
    (∀ e e', Derives .disjunction tokens e → Derives .disjunction tokens e' → e = e') ∧
    ((¬ ∃ e, Derives .disjunction tokens e) → ∃ error,
      parseTokens (tokens ++ [finish]) = .error error ∧ error.problem ≠ .malformedNumeral) := by
  have yields := parseBefore_yields finish formed
  rw [parseTokens_append_finish ends only]
  refine ⟨fun e => ⟨fun parsed => ?_, parseBefore_of_derives finish⟩,
    fun e e' => Derives.unique, fun none => ?_⟩
  · simpa [parsed] using yields
  · cases parsed : parseBefore finish tokens with
    | ok e =>
        rw [parsed] at yields
        exact absurd ⟨e, yields⟩ none
    | error error =>
        rw [parsed] at yields
        exact ⟨error, rfl, yields⟩

/-- The tokens of `[a] * 1.5 != NULL`, a test for Null of a product. -/
def productNotNull : List Token := [
    ⟨.field, "[a]", 0⟩, ⟨.symbol, "*", 4⟩, ⟨.number, "1.5", 6⟩, ⟨.symbol, "!=", 10⟩,
    ⟨.null, "NULL", 13⟩]

theorem spells_oneAndHalf : SpellsNumber "1.5".toList ⟨false, 15, -1⟩ :=
  .fractional (List.cons_ne_nil '1' []) (List.all_eq_true.mp (by decide)) (List.cons_ne_nil '5' [])
    (List.all_eq_true.mp (by decide))

theorem productNotNull_formed : Formed productNotNull := by
  intro t ht
  simp only [productNotNull, List.mem_cons, List.not_mem_nil, or_false] at ht
  rcases ht with rfl | rfl | rfl | rfl | rfl
  · exact ⟨['a'], rfl, by decide⟩
  · trivial
  · exact ⟨_, spells_oneAndHalf⟩
  · trivial
  · trivial

theorem productNotNull_derives :
    Derives .disjunction productNotNull (.state .isNotNull (.binary (.arithmetic .multiply)
      (.field "a") (.const ⟨.number, .decimal ⟨false, 15, -1⟩⟩))) := by
  have field : Derives .primary [⟨.field, "[a]", 0⟩] (.field (String.ofList ['a'])) :=
    .field rfl ⟨rfl, by decide⟩ ⟨'a', by simp, by decide⟩
  have number : Derives .primary [⟨.number, "1.5", 6⟩] _ := .number rfl spells_oneAndHalf
  have null : Derives .primary [⟨.null, "NULL", 13⟩] (.const .null) := .null rfl
  have times :
      (Category.product, "*", BinaryOp.arithmetic .multiply, Category.signed) ∈ infixes := by
    simp [infixes]
  have differs : ("!=", Comparison.notEqual) ∈ comparisonSigns := by simp [comparisonSigns]
  have tests : (Comparison.notEqual, StateTest.isNotNull) ∈ nullTests := by simp [nullTests]
  have product := Derives.infixed (t := ⟨.symbol, "*", 4⟩) times
    (.tighter rfl (.tighter rfl field)) (by decide) (.tighter rfl number)
  have test := Derives.comparedWithNull (t := ⟨.symbol, "!=", 10⟩) differs tests
    (.tighter rfl product) (by decide) (.tighter rfl (.tighter rfl (.tighter rfl null)))
  exact .tighter rfl (.tighter rfl test)

theorem parseTokens_productNotNull :
    (∀ t ∈ productNotNull, t.kind ≠ .finish) ∧ Formed productNotNull ∧
    parseTokens (productNotNull ++ [⟨.finish, "", 17⟩]) = .ok (.state .isNotNull
      (.binary (.arithmetic .multiply) (.field "a")
        (.const ⟨.number, .decimal ⟨false, 15, -1⟩⟩))) := by
  have only : ∀ t ∈ productNotNull, t.kind ≠ .finish := by decide
  have ends : (⟨.finish, "", 17⟩ : Token).kind = .finish := rfl
  have meets := parseTokens_iff_derives ends only productNotNull_formed
  exact ⟨only, productNotNull_formed, (meets.1 _).mpr productNotNull_derives⟩

end RecordFilter
