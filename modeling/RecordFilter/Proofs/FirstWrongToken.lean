import RecordFilter.Proofs.Lookahead

/-!
# Errors are about the first wrong token

Each function of the parser fails at the first token that cannot stand where it does.  What comes
before that token is completed by hand: an operand by `NULL`, a parenthesis or a list of values by
its closing mark, a range by the rest of it.
-/

namespace RecordFilter

/-! ## Beginnings of what is derived -/

def Viable (c : Category) (before : List Token) : Prop := ∃ ws e, Derives c (before ++ ws) e

theorem derives_null (c : Category) {u : Token} (kind : u.kind = .null) :
    Derives c [u] (.const .null) := by
  have signed : Derives .signed [u] (.const .null) := .tighter rfl (.null kind)
  have sum : Derives .sum [u] (.const .null) := .tighter rfl (.tighter rfl signed)
  cases c with
  | primary => exact .null kind
  | signed => exact signed
  | product => exact .tighter rfl signed
  | sum => exact sum
  | comparison => exact .tighter rfl sum
  | conjunction => exact .tighter rfl (.tighter rfl sum)
  | disjunction => exact .tighter rfl (.tighter rfl (.tighter rfl sum))

def nullToken : Token := ⟨.null, "NULL", 0⟩

def markToken (mark : String) : Token := ⟨.punctuation, mark, 0⟩

theorem isPunctuation_markToken (mark : String) : (markToken mark).isPunctuation mark := by
  simp [markToken, Token.isPunctuation]

def andToken : Token := ⟨.keyword, "and", 0⟩

theorem keyword_andToken : andToken.keyword = "and" := by decide

theorem viable_nil (c : Category) : Viable c [] := ⟨[nullToken], _, derives_null c rfl⟩

theorem Derives.viable {c : Category} {ts : List Token} {e : Expr} (h : Derives c ts e) :
    Viable c ts :=
  ⟨[], e, by rwa [List.append_nil]⟩

theorem Viable.tighter {c d : Category} {before : List Token} (next : c.tighter? = some d)
    (h : Viable d before) : Viable c before := by
  obtain ⟨ws, e, derived⟩ := h
  exact ⟨ws, e, .tighter next derived⟩

theorem literal_eq_ok {t : Token} (form : t.HasForm)
    (kind : t.kind = .number ∨ t.kind = .text ∨ t.kind = .null) : ∃ v, t.literal = .ok v := by
  rcases kind with kind | kind | kind
  · simp only [Token.HasForm, kind] at form
    obtain ⟨d, spelled⟩ := form
    exact ⟨⟨.number, .decimal d⟩, by simp only [Token.literal, kind, read?_spelled spelled]⟩
  · exact ⟨⟨.text, .text t.inner⟩, by simp only [Token.literal, kind]⟩
  · exact ⟨.null, by simp only [Token.literal, kind]⟩

theorem parseOperand_yields (finish : Token) (tier : Tier) {tokens : List Token}
    (formed : Formed tokens) :
    Yields (Derives tier.operandCategory) tokens (outcome (parseOperand finish tier tokens)) := by
  cases tier with
  | disjunction =>
      rw [parseOperand]
      exact parseTier_yields finish .conjunction formed
  | conjunction =>
      rw [parseOperand, outcome_parseComparison]
      refine (parseTier_yields finish .sum formed).bind fun ts left rest same derived => ?_
      subst same
      exact parseTail_yields (tiersYield rest.length) derived (Nat.lt_succ_self _) formed.suffix
  | sum =>
      rw [parseOperand]
      exact parseTier_yields finish .product formed
  | product =>
      rw [parseOperand]
      exact parseSigned_yields (tiersYield tokens.length) (Nat.lt_succ_self _) formed

/-! ## Marks and keywords -/

section

variable {finish : Token} {viable : List Token → Prop}

theorem expectMark_expects (mark : String) {problem : Option String → ParseProblem}
    (reported : ∀ found position, (⟨problem found, position⟩ : ParseError).isUnclosed = false) :
    Expects (fun finish tokens => outcome (expectMark finish mark problem tokens))
      (·.isPunctuation mark) (fun t => problem t.found) where
  takes finish t rest expected := outcome_expectMark_cons finish expected rest
  fails finish t rest other := outcome_expectMark_fail finish (by simp [other]) rest
  nothing _ := rfl
  moved _ _ := rfl
  inert t inert := by simp [Token.isPunctuation, inert.punctuation]
  reported _ := reported _

theorem expectAnd_expects (operator : String) :
    Expects (fun finish tokens => outcome (expectAnd finish operator tokens)) (·.keyword == "and")
      (fun t => .rangeWithoutAnd operator t.text) where
  takes finish t rest expected := outcome_expectAnd_cons finish (beq_iff_eq.mp expected) rest
  fails finish t rest other := outcome_expectAnd_fail finish (by simpa using other) rest
  nothing _ := rfl
  moved _ _ := rfl
  inert t inert := by simp [Token.keyword_of_kind inert.keyword]
  reported _ _ := rfl

theorem refuseEmpty_locates (ends : finish.kind = .finish) (operator : String) (begun : viable [])
    (tokens : List Token) :
    Locates viable (fun _ tokens => (refuseEmpty operator tokens).map (·, tokens)) finish
      tokens := by
  by_cases empty : (current finish tokens).isPunctuation "\x7d"
  · cases tokens with
    | nil => simp [current, Token.isPunctuation, ends] at empty
    | cons t rest =>
        have fails (position : Nat) (_ : Token) (rest : List Token) :
            (refuseEmpty operator (t.movedTo position :: rest)).map
                (·, t.movedTo position :: rest) =
              (t.movedTo position).fail (.emptyValueList operator) := by
          rw [refuseEmpty_fail (t := t.movedTo position) empty]
          rfl
        refine .fail_cons fails begun (fun invalid => ?_) rest
        simp [current, Token.isPunctuation, invalid] at empty
  · have goesOn (u : Token) (looks : u.LooksLike (current finish tokens)) (behind : List Token) :
        (refuseEmpty operator (u :: behind)).map (·, u :: behind) = .ok ((), u :: behind) := by
      rw [refuseEmpty_cons (looks.not_isPunctuation empty)]
      rfl
    refine .stop ?_ fun u looks _ behind => goesOn u looks behind
    cases tokens with
    | nil => rfl
    | cons t rest => exact goesOn t (.refl t) rest

end

/-! ## Operators and tails -/

section

variable {finish : Token} {n : Nat}

variable (finish) in
def TiersLocate (n : Nat) : Prop :=
  ∀ (tier : Tier) (tokens : List Token), tokens.length < n → Formed tokens →
    Locates (Viable tier.category) (fun finish tokens => outcome (parseTier finish tier tokens))
      finish tokens

variable (finish) in
def OperandsLocate (tier : Tier) (n : Nat) : Prop :=
  ∀ tokens : List Token, tokens.length < n → Formed tokens →
    Locates (Viable tier.operandCategory)
      (fun finish tokens => outcome (parseOperand finish tier tokens)) finish tokens

theorem parseChain_locates (ends : finish.kind = .finish) {tier : Tier}
    (operand : OperandsLocate finish tier n) {before tokens : List Token} {left : Expr}
    (derived : Derives tier.category before left)
    (bound : tokens.length < n + 1) (formed : Formed tokens) :
    Locates (fun us => Viable tier.category (before ++ us))
      (fun finish tokens => outcome (parseChain finish tier left tokens)) finish tokens := by
  match tokens with
  | [] =>
      refine .stop (outcome_parseChain_nil finish tier left) fun u looks finish' behind => ?_
      have stops : tier.operator? finish = none := Token.operator?_of_kind (by simp [ends]) tier
      exact outcome_parseChain_stop finish' (looks.operator?_eq_none stops) left behind
  | t :: rest =>
      cases operator : tier.operator? t with
      | none =>
          refine .stop (outcome_parseChain_stop finish operator left rest) ?_
          intro u looks finish' behind
          exact outcome_parseChain_stop finish' (looks.operator?_eq_none operator) left behind
      | some op =>
          obtain ⟨symbol, known, written⟩ := Tier.operator?_eq_some.mp operator
          rw [List.length_cons] at bound
          have rightFormed := formed.tail
          refine .past (fun finish rest => outcome_parseChain_cons finish operator left rest) ?_
          refine .bind (fun _ _ => rfl) (operand rest (by omega) rightFormed)
            (parseOperand_yields finish tier rightFormed) ?_ ?_
          · rintro us ⟨ws, e, right⟩
            have longer := Derives.infixed known derived written right
            exact ⟨ws, _, by simpa using longer⟩
          · intro us right behind same derivedRight
            subst same
            have longer := Derives.infixed known derived written derivedRight
            have behindBound : behind.length < n + 1 := by
              rw [List.length_append] at bound
              omega
            have chain := parseChain_locates ends operand longer behindBound rightFormed.suffix
            simpa using chain
  termination_by tokens.length
  decreasing_by
    subst_vars
    simp only [List.length_cons, List.length_append]
    omega

theorem parseTier_locates_of_operand (ends : finish.kind = .finish) (tier : Tier)
    (operand : OperandsLocate finish tier (n + 1)) {tokens : List Token}
    (bound : tokens.length < n + 1) (formed : Formed tokens) :
    Locates (Viable tier.category) (fun finish tokens => outcome (parseTier finish tier tokens))
      finish tokens := by
  refine .bind (fun finish tokens => outcome_parseTier finish tier tokens)
    (operand tokens bound formed) (parseOperand_yields finish tier formed)
    (fun us => Viable.tighter tier.category_tighter) fun ts left rest same derived => ?_
  subst same
  have positive := List.length_pos_iff.mpr derived.ne_nil
  rw [List.length_append] at bound
  exact parseChain_locates ends (fun tokens below => operand tokens (by omega))
    (.tighter tier.category_tighter derived) (by omega) formed.suffix

def ViableItems (before : List Token) : Prop := ∃ ws values, ListsValues (before ++ ws) values

theorem ListsValues.cons {comma : Token} {ts us : List Token} {e : Expr} {values : List Expr}
    (separates : comma.isPunctuation ",") (derived : Derives .sum ts e)
    (h : ListsValues us values) :
    ListsValues (comma :: (ts ++ us)) (e :: values) := by
  obtain ⟨others, rfl, rfl, commas, derivations⟩ := h
  refine ⟨⟨comma, ts, e⟩ :: others, rfl, rfl, ?_, ?_⟩
  · simpa using ⟨separates, commas⟩
  · simpa using ⟨derived, derivations⟩

theorem listsValues_nil : ListsValues [] [] := ⟨[], rfl, rfl, by simp, by simp⟩

theorem parseItems_locates (ends : finish.kind = .finish) (shorter : TiersLocate finish n)
    {tokens : List Token} (bound : tokens.length < n + 1) (formed : Formed tokens) :
    Locates ViableItems (fun finish tokens => outcome (parseItems finish tokens)) finish
      tokens := by
  match tokens with
  | [] =>
      refine .stop (outcome_parseItems_nil finish) fun u looks finish' behind => ?_
      have stops : ¬ finish.isPunctuation "," := by simp [Token.isPunctuation, ends]
      exact outcome_parseItems_stop finish' (looks.not_isPunctuation stops) behind
  | t :: rest =>
      by_cases comma : t.isPunctuation ","
      · rw [List.length_cons] at bound
        have restFormed := formed.tail
        refine .past (fun finish rest => outcome_parseItems_cons finish comma rest) ?_
        refine .bind (fun _ _ => rfl) (shorter .sum rest (by omega) restFormed)
          (parseTier_yields finish .sum restFormed) ?_ ?_
        · rintro us ⟨ws, e, item⟩
          exact ⟨ws, _, by simpa using ListsValues.cons comma item listsValues_nil⟩
        · intro ts item behind same derived
          subst same
          have behindBound : behind.length < n + 1 := by
            rw [List.length_append] at bound
            omega
          have items := parseItems_locates ends shorter behindBound restFormed.suffix
          refine .bind (fun _ _ => rfl) items
            (parseItems_yields (tiersYield behind.length) (Nat.lt_succ_self _) restFormed.suffix) ?_
            fun us values rest' _ listed => .pure _
          rintro us ⟨ws, values, listed⟩
          exact ⟨ws, _, by simpa using ListsValues.cons comma derived listed⟩
      · refine .stop (outcome_parseItems_stop finish comma rest) fun u looks finish' behind => ?_
        exact outcome_parseItems_stop finish' (looks.not_isPunctuation comma) behind
  termination_by tokens.length
  decreasing_by
    subst_vars
    simp only [List.length_cons, List.length_append]
    omega

/-- The tokens begin what stands behind the keyword of a membership test. -/
def ViableList (before : List Token) : Prop :=
  ∃ ws, ∀ (negated : Bool) (operand : Expr), ∃ e, ListOfValues (before ++ ws) negated operand e

theorem listOfValues {opening closing : Token} {us vs : List Token} {first : Expr}
    {values : List Expr} (opens : opening.isPunctuation "\x7b") (value : Derives .sum us first)
    (listed : ListsValues vs values) (closes : closing.isPunctuation "\x7d") (negated : Bool)
    (operand : Expr) :
    ∃ e, ListOfValues (opening :: (us ++ (vs ++ [closing]))) negated operand e := by
  obtain ⟨others, rfl, rfl, commas, derivations⟩ := listed
  exact ⟨_, opening, closing, us, first, others, rfl, rfl, opens, value, commas, derivations,
    closes⟩

theorem valueList_locates (ends : finish.kind = .finish) (shorter : TiersLocate finish n)
    (operator : String) {tokens : List Token} {operand : Expr} {negated : Bool}
    (bound : tokens.length < n) (formed : Formed tokens) :
    Locates ViableList (fun finish tokens => do
      let (_, inside) ← outcome (expectMark finish "\x7b" (.noValueList operator) tokens)
      refuseEmpty operator inside
      let (first, behind) ← outcome (parseTier finish .sum inside)
      let (others, behind) ← outcome (parseItems finish behind)
      let (_, behind) ← outcome (expectMark finish "\x7d" (.openValueList operator) behind)
      return (Expr.among negated operand first others, behind)) finish tokens := by
  have null := derives_null .sum (u := nullToken) rfl
  have closes := isPunctuation_markToken "\x7d"
  have begun : ViableList [] := ⟨[markToken "\x7b", nullToken, markToken "\x7d"],
    listOfValues (isPunctuation_markToken "\x7b") null listsValues_nil closes⟩
  refine .expect (expectMark_expects "\x7b" fun _ _ => rfl) ends (fun _ _ => rfl) begun
    fun opening inside same opens => ?_
  subst same
  rw [List.length_cons] at bound
  have opened : ViableList [opening] := ⟨[nullToken, markToken "\x7d"],
    listOfValues opens null listsValues_nil closes⟩
  refine .check (fun _ _ => rfl) (refuseEmpty_locates ends operator opened inside)
    (refuseEmpty_ne operator inside) ?_
  have insideFormed := formed.tail
  refine .bind (fun _ _ => rfl) (shorter .sum inside (by omega) insideFormed)
    (parseTier_yields finish .sum insideFormed) ?_ fun us first behind same value => ?_
  · rintro us ⟨ws, e, derived⟩
    exact ⟨ws ++ [markToken "\x7d"],
      by simpa using listOfValues opens derived listsValues_nil closes⟩
  subst same
  have behindBound : behind.length < n + 1 := by
    rw [List.length_append] at bound
    omega
  have behindFormed := insideFormed.suffix
  refine .bind (fun _ _ => rfl) (parseItems_locates ends shorter behindBound behindFormed)
    (parseItems_yields (tiersYield behind.length) (Nat.lt_succ_self _) behindFormed) ?_
    fun vs values behind' _ listed => ?_
  · rintro vs ⟨ws, values, listed⟩
    exact ⟨ws ++ [markToken "\x7d"], by simpa using listOfValues opens value listed closes⟩
  refine .expect (expectMark_expects "\x7d" fun _ _ => rfl) ends (fun _ _ => rfl) ?_
    fun _ _ _ _ => .pure _
  exact ⟨[markToken "\x7d"], by simpa using listOfValues opens value listed closes⟩

theorem rightOperand_locates (shorter : TiersLocate finish n) (make : Expr → Expr)
    {tokens : List Token} (bound : tokens.length < n) (formed : Formed tokens) :
    Locates (Viable .sum) (fun finish tokens => do
      let (right, behind) ← outcome (parseTier finish .sum tokens)
      return (make right, behind)) finish tokens :=
  .bind (fun _ _ => rfl) (shorter .sum tokens bound formed) (parseTier_yields finish .sum formed)
    (fun _ => id) fun _ _ _ _ _ => .pure _

def BoundsOfRange (ts : List Token) : Prop :=
  ∃ us and vs lower upper, ts = us ++ and :: vs ∧ Derives .sum us lower ∧ and.keyword = "and" ∧
    Derives .sum vs upper

theorem range_locates (ends : finish.kind = .finish) (shorter : TiersLocate finish n)
    (operator : String) {tokens : List Token} {operand : Expr} {negated : Bool}
    (bound : tokens.length < n) (formed : Formed tokens) :
    Locates (fun us => ∃ ws, BoundsOfRange (us ++ ws)) (fun finish tokens => do
      let (lower, behind) ← outcome (parseTier finish .sum tokens)
      let (_, behind) ← outcome (expectAnd finish operator behind)
      let (upper, behind) ← outcome (parseTier finish .sum behind)
      return (Expr.between negated operand lower upper, behind)) finish tokens := by
  have null := derives_null .sum (u := nullToken) rfl
  refine .bind (fun _ _ => rfl) (shorter .sum tokens bound formed)
    (parseTier_yields finish .sum formed) ?_ fun us lower behind same derivedLower => ?_
  · rintro us ⟨ws, lower, derivedLower⟩
    exact ⟨ws ++ [andToken, nullToken], us ++ ws, andToken, [nullToken], _, _, by simp,
      derivedLower, keyword_andToken, null⟩
  subst same
  refine .expect (expectAnd_expects operator) ends (fun _ _ => rfl) ?_
    fun and behind' same joined => ?_
  · exact ⟨[andToken, nullToken], us, andToken, [nullToken], _, _, by simp, derivedLower,
      keyword_andToken, null⟩
  subst same
  rw [List.length_append, List.length_cons] at bound
  refine (rightOperand_locates shorter _ (by omega) formed.suffix.tail).mono ?_
  rintro vs ⟨ws, upper, derivedUpper⟩
  exact ⟨ws, us, and, vs ++ ws, lower, upper, by simp, derivedLower, beq_iff_eq.mp joined,
    derivedUpper⟩

theorem bareIs_locates {before : List Token} {left : Expr} (derived : Derives .sum before left)
    {t : Token} (tail : t.tail? = some .bareIs) (rest : List Token) :
    Locates (fun us => Viable .comparison (before ++ us))
      (fun finish tokens => outcome (parseTail finish left tokens)) finish (t :: rest) := by
  have fails (position : Nat) (finish : Token) (rest : List Token) :
      outcome (parseTail finish left (t.movedTo position :: rest)) =
        (t.movedTo position).fail .bareIs := by
    rw [outcome_parseTail_cons, show (t.movedTo position).tail? = some .bareIs from tail,
      tailOutcome]
  have alone : Derives .comparison before left := .tighter rfl derived
  refine .fail_cons fails (by simpa using alone.viable) (fun invalid => ?_) rest
  have word : t.kind = .keyword := Token.kind_of_keyword (Token.tail?_eq_some.mp tail) (by decide)
  exact absurd (word.symm.trans invalid) (by decide)

theorem tail_locates (ends : finish.kind = .finish) (shorter : TiersLocate finish n)
    {before rest : List Token} {left : Expr} (derived : Derives .sum before left) {t : Token}
    {kind : Tail} (tail : t.tail? = some kind) (bound : rest.length < n) (formed : Formed rest) :
    Locates (fun us => Viable .comparison (before ++ us))
      (fun finish tokens => outcome (parseTail finish left tokens)) finish (t :: rest) := by
  have written := Token.tail?_eq_some.mp tail
  have reads (finish : Token) (rest : List Token) :
      outcome (parseTail finish left (t :: rest)) = tailOutcome finish left t rest (some kind) := by
    rw [outcome_parseTail_cons, tail]
  cases kind with
  | bareIs => exact bareIs_locates derived tail rest
  | state test => exact .past reads (.pure _)
  | compare c =>
      obtain ⟨sign, known, written⟩ := written
      refine .past reads ((rightOperand_locates shorter _ bound formed).mono ?_)
      rintro us ⟨ws, e, right⟩
      exact ⟨ws, _, by simpa using comparison_derives known derived written right⟩
  | like negated =>
      refine .past reads ((rightOperand_locates shorter _ bound formed).mono ?_)
      rintro us ⟨ws, e, right⟩
      cases negated with
      | false => exact ⟨ws, _, by simpa using Derives.like derived written right⟩
      | true => exact ⟨ws, _, by simpa using Derives.notLike derived written right⟩
  | between negated =>
      obtain ⟨word, known, written⟩ := written
      refine .past reads ((range_locates ends shorter t.text bound formed).mono ?_)
      rintro us ⟨ws, vs, and, vs', lower, upper, same, derivedLower, joined, derivedUpper⟩
      have range := Derives.between known derived written derivedLower joined derivedUpper
      rw [← same] at range
      exact ⟨ws, _, by simpa using range⟩
  | among negated =>
      obtain ⟨word, known, written⟩ := written
      refine .past reads ((valueList_locates ends shorter t.text bound formed).mono ?_)
      rintro us ⟨ws, list⟩
      obtain ⟨e, opening, closing, vs, first, others, same, rfl, opens, value, separated, values,
        closes⟩ := list negated left
      have test := Derives.among known derived written opens value separated values closes
      rw [← same] at test
      exact ⟨ws, _, by simpa using test⟩

theorem parseTail_locates (ends : finish.kind = .finish) (shorter : TiersLocate finish n)
    {before tokens : List Token} {left : Expr} (derived : Derives .sum before left)
    (bound : tokens.length < n + 1) (formed : Formed tokens) :
    Locates (fun us => Viable .comparison (before ++ us))
      (fun finish tokens => outcome (parseTail finish left tokens)) finish tokens := by
  cases tokens with
  | nil =>
      refine .stop (outcome_parseTail_nil finish left) fun u looks finish' behind => ?_
      have stops : finish.tail? = none := by
        simp [Token.tail?, Token.comparison?, Token.keyword, ends]
      exact outcome_parseTail_stop finish' (looks.tail?_eq_none stops) left behind
  | cons t rest =>
      cases tail : t.tail? with
      | none =>
          refine .stop (outcome_parseTail_stop finish tail left rest) ?_
          intro u looks finish' behind
          exact outcome_parseTail_stop finish' (looks.tail?_eq_none tail) left behind
      | some kind =>
          exact tail_locates ends shorter derived tail (Nat.lt_of_succ_lt_succ bound) formed.tail

/-! ## Operands -/

theorem noOperand_locates {tokens : List Token}
    (here : outcome (parseSigned finish tokens) =
      (current finish tokens).fail (current finish tokens).operandProblem)
    (fails : ∀ position finish' rest,
      outcome (parseSigned finish' ((current finish tokens).movedTo position :: rest)) =
        ((current finish tokens).movedTo position).fail (current finish tokens).operandProblem) :
    Locates (Viable .signed) (fun finish tokens => outcome (parseSigned finish tokens)) finish
      tokens := by
  refine .fail here (viable_nil .signed) (fun position finish' behind read accepted => ?_) ?_
  · exact nomatch (fails position finish' behind).symm.trans accepted
  · intro invalid
    refine .inl ⟨?_, fun u null => (derives_null .signed null).viable⟩
    simp [Token.operandProblem, invalid]

theorem parenthesis_locates (ends : finish.kind = .finish) (shorter : TiersLocate finish n)
    {t : Token} {rest : List Token} (sign : t.sign? = none) (opens : t.isPunctuation "(")
    (bound : rest.length < n) (formed : Formed rest) :
    Locates (Viable .signed) (fun finish tokens => outcome (parseSigned finish tokens)) finish
      (t :: rest) := by
  have closes := isPunctuation_markToken ")"
  refine .past (fun finish rest => outcome_parseSigned_parenthesis finish sign opens rest) ?_
  refine .bind (fun _ _ => rfl) (shorter .disjunction rest bound formed)
    (parseTier_yields finish .disjunction formed) ?_ fun us e behind _ derived => ?_
  · rintro us ⟨ws, e, derived⟩
    have closed := Derives.parenthesized opens derived closes
    exact ⟨ws ++ [markToken ")"], _, .tighter rfl (by simpa using closed)⟩
  · have closed := Derives.parenthesized opens derived closes
    refine .expect (expectMark_expects ")" fun _ _ => rfl) ends (fun _ _ => rfl) ?_
      fun _ _ _ _ => .pure _
    exact ⟨[markToken ")"], _, .tighter rfl (by simpa using closed)⟩

theorem fieldReference_locates {t : Token} (sign : t.sign? = none) (isField : t.kind = .field)
    (rest : List Token) :
    Locates (Viable .signed) (fun finish tokens => outcome (parseSigned finish tokens)) finish
      (t :: rest) := by
  by_cases blank : Text.isBlankText t.inner.toList
  · have fails (position : Nat) (finish : Token) (rest : List Token) :
        outcome (parseSigned finish (t.movedTo position :: rest)) =
          (t.movedTo position).fail .blankField := by
      rw [outcome_parseSigned_field finish (t := t.movedTo position) sign isField, fieldReference,
        if_pos (show Text.isBlankText (t.movedTo position).inner.toList from blank)]
      rfl
    exact .fail_cons fails (viable_nil .signed) (by simp [isField]) rest
  · refine .past (fun finish rest => ?_) (.pure (Expr.field t.inner))
    rw [outcome_parseSigned_field finish sign isField, fieldReference, if_neg blank]
    rfl

theorem parsePrimary_locates (ends : finish.kind = .finish) (shorter : TiersLocate finish n)
    {t : Token} {rest : List Token} (sign : t.sign? = none) (bound : rest.length < n)
    (formed : Formed (t :: rest)) :
    Locates (Viable .signed) (fun finish tokens => outcome (parseSigned finish tokens)) finish
      (t :: rest) := by
  by_cases opens : t.isPunctuation "("
  · exact parenthesis_locates ends shorter sign opens bound formed.tail
  by_cases isField : t.kind = .field
  · exact fieldReference_locates sign isField rest
  by_cases isLiteral : t.kind = .number ∨ t.kind = .text ∨ t.kind = .null
  · obtain ⟨v, literal⟩ := literal_eq_ok (formed t (by simp)) isLiteral
    refine .past (fun finish rest => ?_) (.pure (Expr.const v))
    rw [outcome_parseSigned_literal finish sign isLiteral, literal]
    rfl
  · have fails (position : Nat) (finish : Token) (rest : List Token) :=
      outcome_parseSigned_fail finish (t := t.movedTo position) sign opens isField isLiteral rest
    exact noOperand_locates (fails t.position finish rest) fails

theorem parseSigned_locates (ends : finish.kind = .finish) (shorter : TiersLocate finish n)
    {tokens : List Token} (bound : tokens.length < n + 1) (formed : Formed tokens) :
    Locates (Viable .signed) (fun finish tokens => outcome (parseSigned finish tokens)) finish
      tokens := by
  induction tokens with
  | nil =>
      refine noOperand_locates (outcome_parseSigned_nil finish) fun position finish' rest => ?_
      refine outcome_parseSigned_fail finish' ?_ ?_ ?_ ?_ rest <;>
        simp [current, Token.movedTo, Token.sign?, Token.isSymbol, Token.isPunctuation, ends]
  | cons t rest ih =>
      rw [List.length_cons] at bound
      cases sign : t.sign? with
      | none => exact parsePrimary_locates ends shorter sign (by omega) formed
      | some op =>
          obtain ⟨symbol, known, written⟩ := Token.sign?_eq_some.mp sign
          refine .past (fun finish rest => outcome_parseSigned_sign finish sign rest) ?_
          refine .bind (fun _ _ => rfl) (ih (by omega) formed.tail)
            (parseSigned_yields (tiersYield rest.length) (Nat.lt_succ_self _) formed.tail) ?_
            fun _ _ _ _ _ => .pure _
          rintro us ⟨ws, e, derived⟩
          exact ⟨ws, _, .prefixed known written derived⟩

/-! ## All lists of tokens -/

theorem comparisons_locate (ends : finish.kind = .finish) (shorter : TiersLocate finish n)
    (sums : OperandsLocate finish .sum (n + 1)) : OperandsLocate finish .conjunction (n + 1) := by
  intro tokens bound formed
  simp only [parseOperand]
  refine .bind (fun finish tokens => outcome_parseComparison finish tokens)
    (parseTier_locates_of_operand ends .sum sums bound formed)
    (parseTier_yields finish .sum formed) (fun us => Viable.tighter rfl)
    fun ts left rest same derived => ?_
  subst same
  have positive := List.length_pos_iff.mpr derived.ne_nil
  rw [List.length_append] at bound
  exact parseTail_locates ends shorter derived (by omega) formed.suffix

/-- From the tightest tier to the loosest one, as each takes its operands from the next tighter. -/
theorem operandsLocate (ends : finish.kind = .finish) (shorter : TiersLocate finish n)
    (tier : Tier) : OperandsLocate finish tier (n + 1) := by
  have products : OperandsLocate finish .product (n + 1) := fun tokens bound formed => by
    simp only [parseOperand]
    exact parseSigned_locates ends shorter bound formed
  have sums : OperandsLocate finish .sum (n + 1) := fun tokens bound formed => by
    simp only [parseOperand]
    exact parseTier_locates_of_operand ends .product products bound formed
  have conjunctions := comparisons_locate ends shorter sums
  cases tier with
  | product => exact products
  | sum => exact sums
  | conjunction => exact conjunctions
  | disjunction =>
      intro tokens bound formed
      simp only [parseOperand]
      exact parseTier_locates_of_operand ends .conjunction conjunctions bound formed

theorem tiersLocate (ends : finish.kind = .finish) (n : Nat) : TiersLocate finish n := by
  induction n with
  | zero => exact fun _ _ bound => absurd bound (Nat.not_lt_zero _)
  | succ n shorter =>
      intro tier tokens bound formed
      exact parseTier_locates_of_operand ends tier (operandsLocate ends shorter tier) bound formed

end

end RecordFilter
