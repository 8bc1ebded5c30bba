import Mathlib.Control.Monad.Basic
import RecordFilter.Proofs.FirstWrongToken
import RecordFilter.Proofs.Scanning
import RecordFilter.Query

/-!
# Where a filter is wrong

A text that does not parse is refused at the first of its tokens that cannot stand where it does.
Whether a text or a field reference that is not closed is reported as such depends on what could
stand in its place: it is where the filter could have ended or an operand could have begun, but not
where only a mark or the keyword of a range was looked for.
-/

namespace RecordFilter

/-! ## Whole filters -/

def NeverParses (before : List Token) (t : Token) : Prop :=
  ∀ finish behind tree, parseBefore finish (before ++ t :: behind) ≠ .ok tree

/-- A failed parse is about the token `t` behind `before`.  If that token is invalid, it is
reported as such where the filter could have ended or an operand could have begun. -/
structure FirstWrong (finish : Token) (tokens : List Token) (e : ParseError) (before : List Token)
    (t : Token) : Prop where
  met : before ++ [t] <+: tokens ++ [finish]
  position : e.position = t.position
  begun : Viable .disjunction before
  refused : ∀ position, NeverParses before (t.movedTo position)
  unfinished : t.kind = .finish → ∀ tree, ¬ Derives .disjunction before tree
  invalid : t.kind = .invalid →
    (e.problem = t.invalidProblem ∧ ((∃ tree, Derives .disjunction before tree) ∨
      ∀ u : Token, u.kind = .null → Viable .disjunction (before ++ [u]))) ∨
    (e.isUnclosed = false ∧ (∀ tree, ¬ Derives .disjunction before tree) ∧
      ∀ u : Token, u.kind = .null → NeverParses before u)

theorem Refuses.neverParses {before : List Token} {t : Token}
    (h : Refuses (fun finish tokens => outcome (parseTier finish .disjunction tokens)) before t) :
    NeverParses before t := by
  intro finish behind tree parsed
  rw [parseBefore_eq finish (by simp)] at parsed
  obtain ⟨read, accepted, -⟩ := bind_eq_ok.mp parsed
  exact h finish behind read accepted

theorem stops_of_inert {t : Token} (inert : t.Inert) (c : Category) : c.Stops t where
  operators tier _ := Token.operator?_of_kind inert.symbol tier
  tail _ := by
    simp [Token.tail?, Token.comparison?_of_kind inert.symbol,
      Token.keyword_of_kind inert.keyword]

theorem Refuses.not_derives {before : List Token} {t : Token} (inert : t.Inert)
    (h : Refuses (fun finish tokens => outcome (parseTier finish .disjunction tokens)) before t)
    (tree : Expr) : ¬ Derives .disjunction before tree := by
  intro derived
  have goesOn : GoesOn t .disjunction before tree := derived.isRead
  exact h t [] _ (goesOn.read .disjunction (Category.stopsBefore_cons (stops_of_inert inert _) []))

theorem invalidProblem_of_trailing {t : Token} (invalid : t.kind = .invalid) :
    t.trailingProblem = t.invalidProblem := by
  rw [Token.trailingProblem, if_pos invalid]

/-- Every error of a parse is about the first token that cannot stand where it does. -/
theorem parseBefore_firstWrong {finish : Token} {tokens : List Token} {e : ParseError}
    (ends : finish.kind = .finish) (only : ∀ t ∈ tokens, t.kind ≠ .finish) (formed : Formed tokens)
    (nonempty : tokens ≠ []) (failed : parseBefore finish tokens = .error e) :
    ∃ before t, FirstWrong finish tokens e before t := by
  have locates := tiersLocate ends _ .disjunction tokens (Nat.lt_succ_self _) formed
  rw [parseBefore_eq finish nonempty] at failed
  cases read : outcome (parseTier finish .disjunction tokens) with
  | error e' =>
      rw [read] at failed
      cases failed
      obtain ⟨before, t, blames⟩ := (locates_of_error read).mp locates
      refine ⟨before, t, blames.met, blames.position, blames.begun,
        fun position => (blames.refused position).neverParses,
        fun finished => ?_, fun invalid => ?_⟩
      · have inert : (t.movedTo t.position).Inert := Token.inert_of_kind finished (by decide)
        exact (blames.refused t.position).not_derives inert
      · obtain operand | mark := blames.invalid invalid
        · exact .inl ⟨operand.reported, .inr operand.operand⟩
        · refine .inr ⟨mark.reported e.position, ?_, fun u null => ?_⟩
          · have inert : t.Inert := Token.inert_of_kind invalid (by decide)
            exact (mark.refused t inert).not_derives inert
          · exact (mark.refused u (Token.inert_of_kind null (by decide))).neverParses
  | ok result =>
      obtain ⟨tree, rest⟩ := result
      obtain ⟨ts, rfl, again⟩ := (locates_of_ok read).mp locates
      have yields := parseTier_yields finish .disjunction formed
      rw [read] at failed yields
      obtain ⟨ts', same, derived⟩ := yields
      obtain rfl : ts' = ts := (List.append_cancel_right same).symm
      cases rest with
      | nil => cases failed
      | cons t rest =>
          cases failed
          refine ⟨ts', t, ⟨rest ++ [finish], by simp⟩, rfl, derived.viable, fun position => ?_,
            fun finished => absurd finished (only t (by simp)),
            fun invalid => .inl ⟨invalidProblem_of_trailing invalid, .inl ⟨tree, derived⟩⟩⟩
          intro finish' behind tree' parsed
          rw [parseBefore_eq finish' (by simp), again _ (.movedTo t position)] at parsed
          cases parsed

/-! ## Lists of tokens -/

structure Token.Meaningful (t : Token) : Prop where
  going : t.kind ≠ .finish
  valid : t.kind ≠ .invalid

namespace Token

variable {t : Token}

theorem meaningful_of_kind {kind : TokenKind} (same : t.kind = kind)
    (other : kind ≠ .finish ∧ kind ≠ .invalid) : t.Meaningful := by
  subst same
  exact ⟨other.1, other.2⟩

theorem meaningful_of_symbol {symbol : String} (h : t.isSymbol symbol) : t.Meaningful := by
  simp only [isSymbol, Bool.and_eq_true, beq_iff_eq] at h
  exact meaningful_of_kind h.1 (by decide)

theorem meaningful_of_punctuation {mark : String} (h : t.isPunctuation mark) : t.Meaningful := by
  simp only [isPunctuation, Bool.and_eq_true, beq_iff_eq] at h
  exact meaningful_of_kind h.1 (by decide)

theorem meaningful_of_tail (tail : Tail) (h : tail.BeginsWith t) : t.Meaningful := by
  have begins := tail?_eq_some.mpr h
  constructor <;> intro kind <;> simp [tail?, comparison?, keyword, kind] at begins

end Token

theorem Derives.meaningful {c : Category} {ts : List Token} {e : Expr} (h : Derives c ts e) :
    ∀ t ∈ ts, t.Meaningful := by
  induction h with
  | number kind _ | text kind _ | null kind | field kind _ _ =>
      simpa using Token.meaningful_of_kind kind (by decide)
  | parenthesized opens _ closes ih =>
      have opening := Token.meaningful_of_punctuation opens
      have closing := Token.meaningful_of_punctuation closes
      simp only [List.forall_mem_cons, List.forall_mem_append, List.not_mem_nil, false_imp_iff]
      exact ⟨opening, ih, closing, fun _ => trivial⟩
  | tighter _ _ ih => exact ih
  | prefixed _ written _ ih =>
      exact List.forall_mem_cons.mpr ⟨Token.meaningful_of_symbol written, ih⟩
  | infixed _ _ written _ ih ih' | compared _ _ written _ _ ih ih'
  | comparedWithNull _ _ _ written _ ih ih' =>
      have operator := Token.meaningful_of_symbol written
      exact List.forall_mem_append.mpr ⟨ih, List.forall_mem_cons.mpr ⟨operator, ih'⟩⟩
  | like _ written _ ih ih' =>
      have word : Token.Meaningful _ := Token.meaningful_of_tail (.like false) written
      exact List.forall_mem_append.mpr ⟨ih, List.forall_mem_cons.mpr ⟨word, ih'⟩⟩
  | notLike _ written _ ih ih' =>
      have word : Token.Meaningful _ := Token.meaningful_of_tail (.like true) written
      exact List.forall_mem_append.mpr ⟨ih, List.forall_mem_cons.mpr ⟨word, ih'⟩⟩
  | between known _ written _ joined _ ih ih' ih'' =>
      have word := Token.meaningful_of_tail (.between _) ⟨_, known, written⟩
      have and := Token.meaningful_of_kind (Token.kind_of_keyword joined (by decide)) (by decide)
      simp only [List.forall_mem_cons, List.forall_mem_append]
      exact ⟨ih, word, ih', and, ih''⟩
  | @among _ _ _ _ _ _ _ _ _ others known _ written opens _ separated _ closes ih ih' ih'' =>
      have word := Token.meaningful_of_tail (.among _) ⟨_, known, written⟩
      have opening := Token.meaningful_of_punctuation opens
      have closing := Token.meaningful_of_punctuation closes
      have listed : ∀ t ∈ listedTokens others, t.Meaningful := by
        intro t found
        obtain ⟨o, member, inside⟩ := List.mem_flatMap.mp found
        obtain rfl | inside := List.mem_cons.mp inside
        · exact Token.meaningful_of_punctuation (separated o member)
        · exact ih'' o member t inside
      simp only [List.forall_mem_cons, List.forall_mem_append, List.not_mem_nil, false_imp_iff]
      exact ⟨ih, word, opening, ih', listed, closing, fun _ => trivial⟩
  | state known _ written ih =>
      have word := Token.meaningful_of_tail (.state _) ⟨_, known, written⟩
      exact List.forall_mem_append.mpr ⟨ih, by simpa using word⟩

theorem takeWhile_of_only {tokens : List Token} (only : ∀ t ∈ tokens, t.kind ≠ .finish)
    (rest : List Token) :
    (tokens ++ rest).takeWhile (!isFinish ·) = tokens ++ rest.takeWhile (!isFinish ·) :=
  List.takeWhile_append_of_pos fun t found => by simp [isFinish, only t found]

theorem parseTokens_eq {tokens : List Token} (only : ∀ t ∈ tokens, t.kind ≠ .finish)
    (rest : List Token) :
    ∃ finish, parseTokens (tokens ++ rest) =
      parseBefore finish (tokens ++ rest.takeWhile (!isFinish ·)) :=
  ⟨_, by rw [parseTokens, takeWhile_of_only only]⟩

theorem Derives.parses {tokens : List Token} {e : Expr} (h : Derives .disjunction tokens e) :
    parseTokens tokens = .ok e := by
  obtain ⟨finish, parsed⟩ := parseTokens_eq (fun t found => (h.meaningful t found).going) []
  rw [List.append_nil, List.takeWhile_nil, List.append_nil] at parsed
  rw [parsed, parseBefore_of_derives finish h]

theorem Viable.parses {before : List Token} (h : Viable .disjunction before) :
    ∃ ws tree, parseTokens (before ++ ws) = .ok tree := by
  obtain ⟨ws, tree, derived⟩ := h
  exact ⟨ws, tree, derived.parses⟩

theorem derives_of_parsesTo {tokens rest : List Token} {e : Expr}
    (only : ∀ t ∈ tokens, t.kind ≠ .finish) (formed : Formed tokens)
    (ended : ∀ t ∈ rest.head?, t.kind = .finish) (h : parseTokens (tokens ++ rest) = .ok e) :
    Derives .disjunction tokens e := by
  obtain ⟨finish, parsed⟩ := parseTokens_eq only rest
  have nothing : rest.takeWhile (!isFinish ·) = [] := by
    cases rest with
    | nil => rfl
    | cons t rest => simp [isFinish, ended t rfl]
  rw [nothing, List.append_nil, h] at parsed
  have yields := parseBefore_yields finish formed
  rw [← parsed] at yields
  exact yields

theorem NeverParses.not_parses {before : List Token} {t : Token} (h : NeverParses before t)
    (only : ∀ t ∈ before, t.kind ≠ .finish) (going : t.kind ≠ .finish) (behind : List Token)
    (tree : Expr) : parseTokens (before ++ t :: behind) ≠ .ok tree := by
  obtain ⟨finish, parsed⟩ := parseTokens_eq only (t :: behind)
  have more : isFinish t = false := by simp [isFinish, going]
  rw [parsed, List.takeWhile_cons, more]
  exact h finish _ tree

namespace FirstWrong

variable {finish t : Token} {tokens before : List Token} {e : ParseError}

theorem subset (h : FirstWrong finish tokens e before t) : before ⊆ tokens := by
  obtain whole | part := List.prefix_concat_iff.mp h.met
  · exact (List.append_inj' whole rfl).1 ▸ List.Subset.refl _
  · exact ((List.prefix_append before [t]).trans part).subset

theorem derives_of_parses (h : FirstWrong finish tokens e before t)
    (only : ∀ t ∈ tokens, t.kind ≠ .finish) (formed : Formed tokens) (rest : List Token)
    (ended : ∀ t ∈ rest.head?, t.kind = .finish) {tree : Expr}
    (parsed : parseTokens (before ++ rest) = .ok tree) : Derives .disjunction before tree :=
  derives_of_parsesTo (fun u found => only u (h.subset found))
    (fun u found => formed u (h.subset found)) ended parsed

theorem derives_of_complete (h : FirstWrong finish tokens e before t)
    (only : ∀ t ∈ tokens, t.kind ≠ .finish) (formed : Formed tokens) {tree : Expr}
    (complete : parseTokens before = .ok tree) : Derives .disjunction before tree :=
  h.derives_of_parses only formed [] (by simp) (by rwa [List.append_nil])

theorem not_parses (h : FirstWrong finish tokens e before t) (only : ∀ t ∈ tokens, t.kind ≠ .finish)
    (formed : Formed tokens) {u : Token} (kind : u.kind = t.kind) (text : u.text = t.text)
    (behind : List Token) (tree : Expr) : parseTokens (before ++ u :: behind) ≠ .ok tree := by
  by_cases finished : t.kind = .finish
  · intro parsed
    refine h.unfinished finished tree (h.derives_of_parses only formed (u :: behind) ?_ parsed)
    rintro u ⟨⟩
    exact kind.trans finished
  · rw [Token.eq_movedTo kind text]
    exact (h.refused u.position).not_parses (fun u found => only u (h.subset found)) finished
      behind tree

theorem eq_last {span : Token} {front : List Token}
    (h : FirstWrong finish (front ++ [span]) e before t) (invalid : span.kind = .invalid)
    (only : ∀ t ∈ front ++ [span], t.kind ≠ .finish) (formed : Formed (front ++ [span]))
    (begun : ∃ ws tree, parseTokens (front ++ ws) = .ok tree) : before = front ∧ t = span := by
  obtain behind | within := List.prefix_concat_iff.mp h.met
  · -- The end of text cannot be the first wrong token, as nothing that is derived is invalid.
    obtain ⟨rfl, -⟩ := List.append_inj' behind rfl
    obtain ⟨ws, tree, derived⟩ := h.begun
    exact absurd invalid (derived.meaningful span (by simp)).valid
  obtain here | sooner := List.prefix_concat_iff.mp within
  · obtain ⟨rfl, same⟩ := List.append_inj' here rfl
    exact ⟨rfl, List.head_eq_of_cons_eq same⟩
  · obtain ⟨others, rfl⟩ := sooner
    obtain ⟨ws, tree, parsed⟩ := begun
    rw [List.append_assoc, List.append_assoc, List.singleton_append] at parsed
    exact absurd parsed (h.not_parses only formed rfl rfl (others ++ ws) tree)

end FirstWrong

/-! ## Errors of texts -/

theorem parse_eq (text : String) :
    ∃ tokens finish, Token.scan text = tokens ++ [finish] ∧ finish.kind = .finish ∧
      (∀ t ∈ tokens, t.kind ≠ .finish) ∧ Formed tokens ∧
      parse text = parseBefore finish tokens := by
  obtain ⟨tokens, finish, scanned, ends, only, formed⟩ := Token.scanFrom_formed 0 text.toList
  refine ⟨tokens, finish, scanned, ends, only, formed, ?_⟩
  rw [parse, Token.scan, scanned, parseTokens_append_finish ends only]

/-- An error of a text stands at the token `t`.  The tokens before it begin a list that parses, and
no list that parses goes on with a token of its kind and text; where it is the end of text, the
tokens before it do not parse. -/
structure PointsAt (text : String) (e : ParseError) (before : List Token) (t : Token)
    (behind : List Token) : Prop where
  scanned : Token.scan text = before ++ t :: behind
  position : e.position = t.position
  begun : ∃ ws tree, parseTokens (before ++ ws) = .ok tree
  refused : ∀ u behind tree, u.kind = t.kind → u.text = t.text →
    parseTokens (before ++ u :: behind) ≠ .ok tree
  unfinished : t.kind = .finish → ∀ tree, parseTokens before ≠ .ok tree

/-- A text that holds a token and does not parse is refused with an error of the filter, which names
the text and points at its first wrong token. -/
theorem parseExpression_pointsAt {text : String} {error : FilterError}
    (holds : ∃ t ∈ Token.scan text, t.kind ≠ .finish)
    (failed : parseExpression text = .error error) :
    ∃ e before t behind, error = ⟨.syntactic e, some text⟩ ∧ e.problem ≠ .malformedNumeral ∧
      PointsAt text e before t behind := by
  obtain ⟨tokens, finish, scanned, ends, only, formed, parsed⟩ := parse_eq text
  have nonempty : tokens ≠ [] := by
    rintro rfl
    obtain ⟨t, found, going⟩ := holds
    rw [scanned, List.nil_append, List.mem_singleton] at found
    exact going (found ▸ ends)
  have yields := parseBefore_yields finish formed
  rw [parseExpression, parsed] at failed
  cases result : parseBefore finish tokens with
  | ok tree =>
      rw [result] at failed
      cases failed
  | error e =>
      rw [result] at failed yields
      cases failed
      obtain ⟨before, t, first⟩ := parseBefore_firstWrong ends only formed nonempty result
      obtain ⟨behind, met⟩ := first.met
      refine ⟨e, before, t, behind, rfl, yields, ?_, first.position, first.begun.parses, ?_, ?_⟩
      · rw [scanned, ← met, List.append_assoc, List.singleton_append]
      · exact fun u behind tree kind text => first.not_parses only formed kind text behind tree
      · intro finished tree complete
        exact first.unfinished finished tree (first.derives_of_complete only formed complete)

def rangeWithOr : String := "[a] between 1 or 2"

def rangeWithOrError : ParseError := ⟨.rangeWithoutAnd "between" "or", 14⟩

theorem parseExpression_pointsAt_rangeWithOr :
    (∃ t ∈ Token.scan rangeWithOr, t.kind ≠ .finish) ∧
    parseExpression rangeWithOr = .error ⟨.syntactic rangeWithOrError, some rangeWithOr⟩ ∧
    ∃ before t behind, PointsAt rangeWithOr rangeWithOrError before t behind := by
  have holds : ∃ t ∈ Token.scan rangeWithOr, t.kind ≠ .finish := by decide +kernel
  have actual : (parseExpression rangeWithOr).map (fun _ => ()) =
      .error ⟨.syntactic rangeWithOrError, some rangeWithOr⟩ := by
    decide +kernel
  have failed := map_eq_error.mp actual
  obtain ⟨e, before, t, behind, same, -, points⟩ := parseExpression_pointsAt holds failed
  cases same
  exact ⟨holds, failed, before, t, behind, points⟩

/-! ## Spans that are not closed -/

structure Token.Unclosed (t : Token) : Prop where
  invalid : t.kind = .invalid
  opens : t.text.toList.head? = some '[' ∨ t.text.toList.head? = some Text.apostrophe

theorem Token.Unclosed.isUnclosed {t : Token} (h : t.Unclosed) (position : Nat) :
    (⟨t.invalidProblem, position⟩ : ParseError).isUnclosed = true := by
  have reported : t.invalidProblem = .unclosedField ∨ t.invalidProblem = .unclosedText := by
    obtain opens | opens := h.opens <;> obtain ⟨rest, text⟩ := List.head?_eq_some_iff.mp opens
    · exact .inl (by rw [Token.invalidProblem, text]; rfl)
    · exact .inr (by rw [Token.invalidProblem, text]; rfl)
  obtain reported | reported := reported <;> rw [reported] <;> rfl

/-- A text whose last token is not closed, behind tokens that begin a list which parses, is refused
at that token.  The error is that of an unclosed span if and only if the filter could have ended
there or an operand could have begun. -/
theorem parseExpression_unclosed {text : String} {before : List Token} {span finish : Token}
    (scanned : Token.scan text = before ++ [span, finish]) (unclosed : span.Unclosed)
    (begun : ∃ ws tree, parseTokens (before ++ ws) = .ok tree) :
    ∃ e, parseExpression text = .error ⟨.syntactic e, some text⟩ ∧ e.position = span.position ∧
      (e.isUnclosed = true ↔ (∃ tree, parseTokens before = .ok tree) ∨
        ∃ u ws tree, u.kind = .null ∧ parseTokens (before ++ u :: ws) = .ok tree) := by
  obtain ⟨tokens, end', scanned', ends, only, formed, parsed⟩ := parse_eq text
  obtain ⟨rfl, -⟩ : tokens = before ++ [span] ∧ [end'] = [finish] := by
    refine List.append_inj' ?_ rfl
    rw [← scanned', scanned, List.append_assoc, List.singleton_append]
  have yields := parseBefore_yields end' formed
  rw [parseExpression, parsed]
  cases result : parseBefore end' (before ++ [span]) with
  | ok tree =>
      rw [result] at yields
      exact absurd unclosed.invalid (yields.meaningful span (by simp)).valid
  | error e =>
      obtain ⟨front, t, first⟩ := parseBefore_firstWrong ends only formed (by simp) result
      obtain ⟨rfl, rfl⟩ := first.eq_last unclosed.invalid only formed begun
      refine ⟨e, rfl, first.position, ?_⟩
      obtain ⟨reported, room⟩ | ⟨reported, incomplete, noOperand⟩ := first.invalid unclosed.invalid
      · have known := unclosed.isUnclosed e.position
        rw [← reported] at known
        refine iff_of_true known ?_
        obtain ⟨tree, derived⟩ | operand := room
        · exact .inl ⟨tree, derived.parses⟩
        · obtain ⟨ws, tree, parsed⟩ := (operand nullToken rfl).parses
          exact .inr ⟨nullToken, ws, tree, rfl, by simpa using parsed⟩
      · refine iff_of_false (by simp [reported]) ?_
        rintro (⟨tree, complete⟩ | ⟨u, ws, tree, null, parsed⟩)
        · exact incomplete tree (first.derives_of_complete only formed complete)
        · exact (noOperand u null).not_parses (fun u found => only u (first.subset found))
            (by simp [null]) ws tree parsed

def unclosedInParentheses : String := "([a] 'x"

def openedParentheses : List Token := [⟨.punctuation, "(", 0⟩, ⟨.field, "[a]", 1⟩]

def unclosedSpan : Token := ⟨.invalid, "'x", 5⟩

theorem scan_unclosedInParentheses :
    Token.scan unclosedInParentheses = openedParentheses ++ [unclosedSpan, ⟨.finish, "", 7⟩] := by
  decide +kernel

theorem unclosed_unclosedSpan : unclosedSpan.Unclosed := ⟨rfl, .inr (by decide)⟩

theorem openedParentheses_begun :
    ∃ ws tree, parseTokens (openedParentheses ++ ws) = .ok tree := by
  have parsed : (parseTokens (openedParentheses ++ [markToken ")"])).map (fun _ => ()) =
      .ok () := by
    decide +kernel
  obtain ⟨tree, parsed, -⟩ := map_eq_ok.mp parsed
  exact ⟨[markToken ")"], tree, parsed⟩

theorem parseExpression_unclosed_inParentheses :
    Token.scan unclosedInParentheses = openedParentheses ++ [unclosedSpan, ⟨.finish, "", 7⟩] ∧
    unclosedSpan.Unclosed ∧ (∃ ws tree, parseTokens (openedParentheses ++ ws) = .ok tree) ∧
    ∃ e, parseExpression unclosedInParentheses =
        .error ⟨.syntactic e, some unclosedInParentheses⟩ ∧ e.position = unclosedSpan.position ∧
      (e.isUnclosed = true ↔ (∃ tree, parseTokens openedParentheses = .ok tree) ∨
        ∃ u ws tree, u.kind = .null ∧ parseTokens (openedParentheses ++ u :: ws) = .ok tree) :=
  ⟨scan_unclosedInParentheses, unclosed_unclosedSpan, openedParentheses_begun,
    parseExpression_unclosed scan_unclosedInParentheses unclosed_unclosedSpan
      openedParentheses_begun⟩

theorem parseExpression_unclosed_notReported :
    ¬ ∀ (text : String) (before : List Token) (span finish : Token),
      Token.scan text = before ++ [span, finish] → span.Unclosed →
        (∃ ws tree, parseTokens (before ++ ws) = .ok tree) →
          ∃ e, parseExpression text = .error ⟨.syntactic e, some text⟩ ∧
            e.position = span.position ∧ e.isUnclosed = true := by
  intro reported
  obtain ⟨e, failed, -, unclosed⟩ := reported _ _ _ _ scan_unclosedInParentheses
    unclosed_unclosedSpan openedParentheses_begun
  have actual : (parseExpression unclosedInParentheses).map (fun _ => ()) =
      .error ⟨.syntactic ⟨.openParenthesis (some "'x"), 5⟩, some unclosedInParentheses⟩ := by
    decide +kernel
  rw [map_eq_error.mp actual] at failed
  cases failed
  exact absurd unclosed (by decide)

end RecordFilter
