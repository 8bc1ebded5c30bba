import Mathlib.Tactic.SplitIfs
import RecordFilter.Proofs.Numerals
import RecordFilter.Proofs.ParserSteps

/-!
# The parser reads only what the grammar derives

Whatever a function of the parser takes from the front of a list of tokens is derived in the
category that the function reads.  The functions call each other on shorter lists only through the
tiers, so the induction is on the length of the list, with the tiers on all shorter lists as its
hypothesis; on one length, the functions follow in the order of their calls.

An error of reading a numeral never comes up, because the tokens have the forms of their kinds.
-/

namespace RecordFilter

open Text

/-- What is taken from the front of the tokens is as wanted, and what goes wrong is an error of the
filter and not of a numeral. -/
def Yields {α : Type} (wanted : List Token → α → Prop) (tokens : List Token) :
    Except ParseError (α × List Token) → Prop
  | .ok (a, rest) => ∃ ts, tokens = ts ++ rest ∧ wanted ts a
  | .error e => e.problem ≠ .malformedNumeral

theorem Yields.bind {α β : Type} {wanted : List Token → α → Prop} {goal : List Token → β → Prop}
    {tokens : List Token} {x : Except ParseError (α × List Token)}
    {next : α × List Token → Except ParseError (β × List Token)} (h : Yields wanted tokens x)
    (step : ∀ ts a rest, tokens = ts ++ rest → wanted ts a →
      Yields (fun us => goal (ts ++ us)) rest (next (a, rest))) :
    Yields goal tokens (x >>= next) := by
  cases x with
  | error e => exact h
  | ok read =>
      obtain ⟨a, rest⟩ := read
      obtain ⟨ts, rfl, good⟩ := h
      have later := step ts a rest rfl good
      change Yields goal (ts ++ rest) (next (a, rest))
      cases hnext : next (a, rest) with
      | error e => rwa [hnext] at later
      | ok read =>
          obtain ⟨b, behind⟩ := read
          rw [hnext] at later
          obtain ⟨us, rfl, good⟩ := later
          exact ⟨ts ++ us, (List.append_assoc ..).symm, good⟩

theorem Yields.mono {α : Type} {wanted goal : List Token → α → Prop} {tokens : List Token}
    {x : Except ParseError (α × List Token)} (h : Yields wanted tokens x)
    (weaker : ∀ ts a, wanted ts a → goal ts a) : Yields goal tokens x := by
  cases x with
  | error e => exact h
  | ok read =>
      obtain ⟨ts, same, good⟩ := h
      exact ⟨ts, same, weaker ts _ good⟩

theorem Yields.past {α : Type} {goal : List Token → α → Prop} {t : Token} {rest : List Token}
    {x : Except ParseError (α × List Token)} (h : Yields (fun ts => goal (t :: ts)) rest x) :
    Yields goal (t :: rest) x := by
  cases x with
  | error e => exact h
  | ok read =>
      obtain ⟨ts, rfl, good⟩ := h
      exact ⟨t :: ts, rfl, good⟩

theorem Yields.check {α : Type} {goal : List Token → α → Prop} {tokens : List Token}
    {x : Except ParseError Unit} {next : Unit → Except ParseError (α × List Token)}
    (sane : ∀ {e}, x = .error e → e.problem ≠ .malformedNumeral)
    (h : ∀ a, Yields goal tokens (next a)) : Yields goal tokens (x >>= next) := by
  cases x with
  | error e => exact sane rfl
  | ok a => exact h a

theorem Yields.fail {α : Type} {wanted : List Token → α → Prop} {tokens : List Token} {t : Token}
    {problem : ParseProblem} (h : problem ≠ .malformedNumeral) :
    Yields wanted tokens (t.fail problem : Except ParseError (α × List Token)) := h

theorem Yields.nothing {α : Type} {wanted : List Token → α → Prop} {tokens : List Token} {a : α}
    (good : wanted [] a) : Yields wanted tokens (.ok (a, tokens)) :=
  ⟨[], rfl, good⟩

/-! ## Errors -/

theorem invalidProblem_ne (t : Token) : t.invalidProblem ≠ .malformedNumeral := by
  unfold Token.invalidProblem
  split
  · split_ifs <;> simp
  · simp

theorem operandProblem_ne (t : Token) : t.operandProblem ≠ .malformedNumeral := by
  unfold Token.operandProblem
  split <;> simp [invalidProblem_ne]

theorem trailingProblem_ne (t : Token) : t.trailingProblem ≠ .malformedNumeral := by
  unfold Token.trailingProblem
  split_ifs <;> simp [invalidProblem_ne]

/-! ## Tokens of productions -/

namespace Tier

def category : Tier → Category
  | disjunction => .disjunction
  | conjunction => .conjunction
  | sum => .sum
  | product => .product

def operandCategory : Tier → Category
  | disjunction => .conjunction
  | conjunction => .comparison
  | sum => .product
  | product => .signed

theorem category_tighter (tier : Tier) : tier.category.tighter? = some tier.operandCategory := by
  cases tier <;> rfl

theorem operator?_eq_some {tier : Tier} {t : Token} {op : BinaryOp} :
    tier.operator? t = some op ↔
      ∃ symbol, (tier.category, symbol, op, tier.operandCategory) ∈ infixes ∧
        t.isSymbol symbol := by
  cases tier <;> simp [operator?, category, operandCategory, infixes] <;> grind [Token.isSymbol]

end Tier

namespace Token

theorem comparison?_eq_some {t : Token} {c : Comparison} :
    t.comparison? = some c ↔ ∃ sign, (sign, c) ∈ comparisonSigns ∧ t.isSymbol sign := by
  unfold comparison?
  split_ifs with symbol
  · split <;> simp_all [comparisonSigns, isSymbol] <;> grind
  · simp [isSymbol, symbol]

theorem keyword_of_kind {t : Token} (kind : t.kind ≠ .keyword) : t.keyword = "" := by
  simp [keyword, kind]

theorem kind_of_keyword {t : Token} {word : String} (h : t.keyword = word) (some : word ≠ "") :
    t.kind = .keyword := by
  refine Classical.byContradiction fun kind => ?_
  exact some (h.symm.trans (keyword_of_kind kind))

theorem comparison?_of_keyword {t : Token} {word : String} (h : t.keyword = word)
    (some : word ≠ "") : t.comparison? = none := by
  simp [comparison?, kind_of_keyword h some]

end Token

def Tail.BeginsWith (t : Token) : Tail → Prop
  | .compare c => ∃ sign, (sign, c) ∈ comparisonSigns ∧ t.isSymbol sign
  | .among negated => ∃ word, (word, negated) ∈ membershipWords ∧ t.keyword = word
  | .like negated => t.keyword = if negated then "not like" else "like"
  | .between negated => ∃ word, (word, negated) ∈ rangeWords ∧ t.keyword = word
  | .state test => ∃ word, (word, test) ∈ stateWords ∧ t.keyword = word
  | .bareIs => t.keyword = "is"

namespace Token

theorem tail?_eq_some {t : Token} {tail : Tail} : t.tail? = some tail ↔ tail.BeginsWith t := by
  constructor
  · intro h
    unfold tail? at h
    split at h
    · next c hc =>
      cases h
      exact comparison?_eq_some.mp hc
    · split at h <;> cases h <;>
        simp_all [Tail.BeginsWith, membershipWords, rangeWords, stateWords]
  · intro h
    cases tail with
    | compare c => simp [tail?, comparison?_eq_some.mpr h]
    | bareIs => simp [tail?, comparison?_of_keyword h (by decide), show t.keyword = "is" from h]
    | like negated =>
        have written : t.keyword = if negated then "not like" else "like" := h
        cases negated <;> simp at written <;>
          simp [tail?, comparison?_of_keyword written (by decide), written]
    | among negated | between negated =>
        obtain ⟨word, known, written⟩ := h
        simp only [membershipWords, rangeWords, List.mem_cons, Prod.mk.injEq, List.not_mem_nil,
          or_false] at known
        rcases known with ⟨rfl, rfl⟩ | ⟨rfl, rfl⟩ <;>
          simp [tail?, comparison?_of_keyword written (by decide), written]
    | state test =>
        obtain ⟨word, known, written⟩ := h
        simp only [stateWords, List.mem_cons, Prod.mk.injEq, List.not_mem_nil, or_false] at known
        rcases known with ⟨rfl, rfl⟩ | ⟨rfl, rfl⟩ | ⟨rfl, rfl⟩ | ⟨rfl, rfl⟩ <;>
          simp [tail?, comparison?_of_keyword written (by decide), written]

theorem sign?_eq_some {t : Token} {op : UnaryOp} :
    t.sign? = some op ↔ ∃ symbol, (symbol, op) ∈ prefixes ∧ t.isSymbol symbol := by
  simp only [sign?, prefixes]
  grind [isSymbol]

end Token

/-! ## Literals and field references -/

theorem literal_yields {t : Token} (form : t.HasForm) (rest : List Token)
    (kind : t.kind = .number ∨ t.kind = .text ∨ t.kind = .null) :
    Yields (Derives .primary) (t :: rest) (t.literal.map fun v => (.const v, rest)) := by
  rcases kind with kind | kind | kind
  · simp only [Token.HasForm, kind] at form
    obtain ⟨d, spelled⟩ := form
    simp only [Token.literal, kind, read?_spelled spelled]
    exact ⟨[t], rfl, .number kind spelled⟩
  · simp only [Token.HasForm, kind] at form
    obtain ⟨inner, enclosed⟩ := form
    have same : t.inner = String.ofList inner := by simp [Token.inner, enclosed.1]
    simp only [Token.literal, kind, same]
    exact ⟨[t], rfl, .text kind enclosed⟩
  · simp only [Token.literal, kind]
    exact ⟨[t], rfl, .null kind⟩

theorem fieldReference_yields {t : Token} (form : t.HasForm) (rest : List Token)
    (kind : t.kind = .field) :
    Yields (Derives .primary) (t :: rest) ((fieldReference t).map (·, rest)) := by
  simp only [Token.HasForm, kind] at form
  obtain ⟨inner, enclosed⟩ := form
  have same : t.inner = String.ofList inner := by simp [Token.inner, enclosed.1]
  unfold fieldReference
  split_ifs with blank
  · exact Yields.fail (by simp)
  · rw [same] at blank ⊢
    rw [String.toList_ofList, isBlankText, Bool.not_eq_true, List.all_eq_false] at blank
    obtain ⟨c, hc, visible⟩ := blank
    exact ⟨[t], rfl, .field kind enclosed ⟨c, hc, by simpa using visible⟩⟩

theorem expectMark_yields (finish : Token) {mark : String} {problem : Option String → ParseProblem}
    (sane : ∀ found, problem found ≠ .malformedNumeral) (tokens : List Token) :
    Yields (fun ts _ => ∃ t, ts = [t] ∧ t.isPunctuation mark) tokens
      (outcome (expectMark finish mark problem tokens)) := by
  cases tokens with
  | nil => exact sane _
  | cons t rest =>
      rw [expectMark]
      split_ifs with expected
      · exact ⟨[t], rfl, t, rfl, expected⟩
      · exact sane _

theorem expectAnd_yields (finish : Token) (operator : String) (tokens : List Token) :
    Yields (fun ts _ => ∃ t, ts = [t] ∧ t.keyword = "and") tokens
      (outcome (expectAnd finish operator tokens)) := by
  cases tokens with
  | nil => exact Yields.fail (by simp)
  | cons t rest =>
      rw [expectAnd]
      split_ifs with expected
      · exact ⟨[t], rfl, t, rfl, beq_iff_eq.mp expected⟩
      · exact Yields.fail (by simp)

theorem comparison_derives {t : Token} {sign : String} {c : Comparison} {ts us : List Token}
    {left right : Expr} (known : (sign, c) ∈ comparisonSigns) (first : Derives .sum ts left)
    (written : t.isSymbol sign) (second : Derives .sum us right) :
    Derives .comparison (ts ++ t :: us) (.comparison c left right) := by
  unfold Expr.comparison
  split_ifs with null
  · obtain rfl := second.eq_null null
    cases c with
    | equal => exact .comparedWithNull known (by simp [nullTests]) first written second
    | notEqual => exact .comparedWithNull known (by simp [nullTests]) first written second
    | _ => exact .compared known first written second fun _ test => by simp [nullTests]
  · refine .compared known first written second fun same => ?_
    simp [same, Expr.isNullConst, Value.isNull, Value.null] at null

/-! ## The induction -/

section

variable (finish : Token)

def TiersYield (n : Nat) : Prop :=
  ∀ (tier : Tier) (tokens : List Token), tokens.length < n → Formed tokens →
    Yields (Derives tier.category) tokens (outcome (parseTier finish tier tokens))

variable {finish} {n : Nat}

theorem parsePrimary_yields (shorter : TiersYield finish n) {t : Token} {rest : List Token}
    (bound : rest.length < n) (formed : Formed (t :: rest)) :
    Yields (Derives .primary) (t :: rest) (outcome (parsePrimary finish t rest)) := by
  have form := formed t (by simp)
  rw [outcome_parsePrimary]
  split_ifs with opens isField isLiteral
  · have inside := shorter .disjunction rest bound formed.tail
    refine Yields.past (inside.bind fun ts e behind _ derived => ?_)
    refine (expectMark_yields finish (by simp) behind).bind fun us _ rest' _ closing => ?_
    obtain ⟨u, rfl, closes⟩ := closing
    exact Yields.nothing (by simpa using Derives.parenthesized opens derived closes)
  · exact fieldReference_yields form rest isField
  · exact literal_yields form rest isLiteral
  · exact Yields.fail (operandProblem_ne t)

theorem parseSigned_yields (shorter : TiersYield finish n) {tokens : List Token}
    (bound : tokens.length < n + 1) (formed : Formed tokens) :
    Yields (Derives .signed) tokens (outcome (parseSigned finish tokens)) := by
  induction tokens with
  | nil =>
      rw [outcome_parseSigned_nil]
      exact Yields.fail (operandProblem_ne finish)
  | cons t rest ih =>
      rw [List.length_cons] at bound
      cases sign : t.sign? with
      | none =>
          rw [outcome_parseSigned_primary finish sign]
          exact (parsePrimary_yields shorter (by omega) formed).mono fun ts e => .tighter rfl
      | some op =>
          obtain ⟨symbol, known, written⟩ := Token.sign?_eq_some.mp sign
          rw [outcome_parseSigned_sign finish sign]
          have operand := ih (by omega) formed.tail
          refine Yields.past (operand.bind fun ts e behind _ derived => ?_)
          exact Yields.nothing (by simpa using Derives.prefixed known written derived)

theorem parseChain_yields {tier : Tier}
    (operand : ∀ tokens : List Token, tokens.length < n → Formed tokens →
      Yields (Derives tier.operandCategory) tokens (outcome (parseOperand finish tier tokens)))
    {before tokens : List Token} {left : Expr} (derived : Derives tier.category before left)
    (bound : tokens.length < n + 1) (formed : Formed tokens) :
    Yields (fun ts => Derives tier.category (before ++ ts)) tokens
      (outcome (parseChain finish tier left tokens)) := by
  match tokens with
  | [] =>
      rw [outcome_parseChain_nil]
      exact Yields.nothing (by simpa using derived)
  | t :: rest =>
      cases operator : tier.operator? t with
      | none =>
          rw [outcome_parseChain_stop finish operator]
          exact Yields.nothing (by simpa using derived)
      | some op =>
          obtain ⟨symbol, known, written⟩ := Tier.operator?_eq_some.mp operator
          rw [outcome_parseChain_cons finish operator]
          rw [List.length_cons] at bound
          have rightFormed := formed.tail
          have right := operand rest (by omega) rightFormed
          refine Yields.past (right.bind fun us e behind same derivedRight => ?_)
          subst same
          have longer := Derives.infixed known derived written derivedRight
          have behindBound : behind.length < n + 1 := by
            rw [List.length_append] at bound
            omega
          have chain := parseChain_yields operand longer behindBound rightFormed.suffix
          simpa using chain
  termination_by tokens.length
  decreasing_by
    subst_vars
    simp only [List.length_cons, List.length_append]
    omega

theorem parseTier_yields_of_operand (tier : Tier)
    (operand : ∀ tokens : List Token, tokens.length < n + 1 → Formed tokens →
      Yields (Derives tier.operandCategory) tokens (outcome (parseOperand finish tier tokens)))
    {tokens : List Token} (bound : tokens.length < n + 1) (formed : Formed tokens) :
    Yields (Derives tier.category) tokens (outcome (parseTier finish tier tokens)) := by
  rw [outcome_parseTier]
  refine (operand tokens bound formed).bind fun ts left rest same derived => ?_
  subst same
  have positive := List.length_pos_iff.mpr derived.ne_nil
  rw [List.length_append] at bound
  exact parseChain_yields (fun tokens below => operand tokens (by omega))
    (.tighter tier.category_tighter derived) (by omega) formed.suffix

def ListsValues (ts : List Token) (values : List Expr) : Prop :=
  ∃ others : List ListedValue, ts = listedTokens others ∧ values = others.map ListedValue.value ∧
    (∀ o ∈ others, o.comma.isPunctuation ",") ∧ ∀ o ∈ others, Derives .sum o.tokens o.value

theorem parseItems_yields (shorter : TiersYield finish n) {tokens : List Token}
    (bound : tokens.length < n + 1) (formed : Formed tokens) :
    Yields ListsValues tokens (outcome (parseItems finish tokens)) := by
  match tokens with
  | [] =>
      rw [outcome_parseItems_nil]
      exact Yields.nothing ⟨[], rfl, rfl, by simp, by simp⟩
  | t :: rest =>
      by_cases comma : t.isPunctuation ","
      · rw [outcome_parseItems_cons finish comma]
        rw [List.length_cons] at bound
        have restFormed := formed.tail
        have item := shorter .sum rest (by omega) restFormed
        refine Yields.past (item.bind fun ts e behind same derived => ?_)
        subst same
        have behindBound : behind.length < n + 1 := by
          rw [List.length_append] at bound
          omega
        have items := parseItems_yields shorter behindBound restFormed.suffix
        refine items.bind fun us values rest' _ listed => ?_
        obtain ⟨others, rfl, rfl, commas, derivations⟩ := listed
        refine Yields.nothing ⟨⟨t, ts, e⟩ :: others, by simp [listedTokens], rfl, ?_, ?_⟩
        · simpa using ⟨comma, commas⟩
        · simpa using ⟨derived, derivations⟩
      · rw [outcome_parseItems_stop finish comma]
        exact Yields.nothing ⟨[], rfl, rfl, by simp, by simp⟩
  termination_by tokens.length
  decreasing_by
    subst_vars
    simp only [List.length_cons, List.length_append]
    omega

theorem refuseEmpty_ne (operator : String) (tokens : List Token) {e : ParseError}
    (h : refuseEmpty operator tokens = .error e) : e.problem ≠ .malformedNumeral := by
  cases tokens with
  | nil => cases h
  | cons t rest =>
      simp only [refuseEmpty] at h
      split_ifs at h
      cases h
      simp

def ListOfValues (ts : List Token) (negated : Bool) (operand e : Expr) : Prop :=
  ∃ (opening closing : Token) (us : List Token) (first : Expr) (others : List ListedValue),
    ts = opening :: (us ++ (listedTokens others ++ [closing])) ∧
    e = .among negated operand first (others.map ListedValue.value) ∧
    opening.isPunctuation "\x7b" ∧ Derives .sum us first ∧
    (∀ o ∈ others, o.comma.isPunctuation ",") ∧ (∀ o ∈ others, Derives .sum o.tokens o.value) ∧
    closing.isPunctuation "\x7d"

theorem valueList_yields (shorter : TiersYield finish n) {t : Token} {tokens : List Token}
    {operand : Expr} {negated : Bool} (bound : tokens.length < n) (formed : Formed tokens) :
    Yields (fun ts => ListOfValues ts negated operand) tokens (do
      let (_, inside) ← outcome (expectMark finish "\x7b" (.noValueList t.text) tokens)
      refuseEmpty t.text inside
      let (first, behind) ← outcome (parseTier finish .sum inside)
      let (others, behind) ← outcome (parseItems finish behind)
      let (_, behind) ← outcome (expectMark finish "\x7d" (.openValueList t.text) behind)
      return (.among negated operand first others, behind)) := by
  refine (expectMark_yields finish (by simp) tokens).bind fun _ _ inside same opening => ?_
  obtain ⟨opening, rfl, opens⟩ := opening
  subst same
  rw [List.length_append, List.length_singleton] at bound
  refine Yields.check (refuseEmpty_ne t.text inside) fun _ => ?_
  refine (shorter .sum inside (by omega) formed.suffix).bind fun us first behind same value => ?_
  subst same
  have behindBound : behind.length < n + 1 := by
    rw [List.length_append] at bound
    omega
  have items := parseItems_yields shorter behindBound formed.suffix.suffix
  refine items.bind fun _ values behind' _ listed => ?_
  obtain ⟨others, rfl, rfl, separated, derivations⟩ := listed
  refine (expectMark_yields finish (by simp) behind').bind fun _ _ rest _ closing => ?_
  obtain ⟨closing, rfl, closes⟩ := closing
  exact Yields.nothing ⟨opening, closing, us, first, others, by simp, rfl, opens, value, separated,
    derivations, closes⟩

theorem parseTail_yields (shorter : TiersYield finish n) {before tokens : List Token} {left : Expr}
    (derived : Derives .sum before left) (bound : tokens.length < n + 1) (formed : Formed tokens) :
    Yields (fun ts => Derives .comparison (before ++ ts)) tokens
      (outcome (parseTail finish left tokens)) := by
  have alone : Derives .comparison before left := .tighter rfl derived
  cases tokens with
  | nil =>
      rw [outcome_parseTail_nil]
      exact Yields.nothing (by simpa using alone)
  | cons t rest =>
      have restFormed := formed.tail
      rw [List.length_cons] at bound
      have next := shorter .sum rest (by omega) restFormed
      rw [outcome_parseTail_cons]
      cases tail : t.tail? with
      | none => exact Yields.nothing (by simpa using alone)
      | some kind =>
          have written := Token.tail?_eq_some.mp tail
          cases kind with
          | bareIs => exact Yields.fail (by simp)
          | state test =>
              obtain ⟨word, known, written⟩ := written
              exact Yields.past (Yields.nothing (.state known derived written))
          | compare c =>
              obtain ⟨sign, known, written⟩ := written
              refine Yields.past (next.bind fun us right behind _ derivedRight => ?_)
              refine Yields.nothing ?_
              rw [List.append_nil]
              exact comparison_derives known derived written derivedRight
          | like negated =>
              refine Yields.past (next.bind fun us right behind _ derivedRight => ?_)
              refine Yields.nothing ?_
              rw [List.append_nil]
              cases negated with
              | false => exact .like derived written derivedRight
              | true => exact .notLike derived written derivedRight
          | between negated =>
              obtain ⟨word, known, written⟩ := written
              refine Yields.past (next.bind fun us lower behind same derivedLower => ?_)
              subst same
              refine (expectAnd_yields finish t.text behind).bind fun _ _ behind' same joined => ?_
              obtain ⟨u, rfl, joined⟩ := joined
              subst same
              have upper := shorter .sum behind' (by simp at bound; omega)
                (Formed.tail restFormed.suffix)
              refine upper.bind fun vs upper' rest' _ derivedUpper => ?_
              refine Yields.nothing ?_
              simpa using Derives.between known derived written derivedLower joined derivedUpper
          | among negated =>
              obtain ⟨word, known, written⟩ := written
              refine Yields.past ((valueList_yields shorter (by omega) restFormed).mono ?_)
              rintro us e ⟨opening, closing, ws, first, others, rfl, rfl, opens, value, separated,
                values, closes⟩
              exact .among known derived written opens value separated values closes

/-! ## All lists of tokens -/

theorem tiersYield (n : Nat) : TiersYield finish n := by
  induction n with
  | zero => exact fun _ _ bound => absurd bound (Nat.not_lt_zero _)
  | succ n shorter =>
      -- The tiers from the tightest on: each one takes its operands from the tier before, on lists
      -- of the same length, and leaves to shorter lists only what stands behind a token.
      have products : ∀ tokens : List Token, tokens.length < n + 1 → Formed tokens →
          Yields (Derives .product) tokens (outcome (parseTier finish .product tokens)) :=
        fun tokens => parseTier_yields_of_operand .product fun tokens bound formed => by
          rw [parseOperand]
          exact parseSigned_yields shorter bound formed
      have sums : ∀ tokens : List Token, tokens.length < n + 1 → Formed tokens →
          Yields (Derives .sum) tokens (outcome (parseTier finish .sum tokens)) :=
        fun tokens => parseTier_yields_of_operand .sum fun tokens bound formed => by
          rw [parseOperand]
          exact products tokens bound formed
      have conjunctions : ∀ tokens : List Token, tokens.length < n + 1 → Formed tokens →
          Yields (Derives .conjunction) tokens (outcome (parseTier finish .conjunction tokens)) :=
        fun tokens => parseTier_yields_of_operand .conjunction
          fun tokens bound formed => by
            rw [parseOperand, outcome_parseComparison]
            refine (sums tokens bound formed).bind fun ts left rest same derived => ?_
            subst same
            have positive := List.length_pos_iff.mpr derived.ne_nil
            rw [List.length_append] at bound
            exact parseTail_yields shorter derived (by omega) formed.suffix
      intro tier tokens bound formed
      cases tier with
      | product => exact products tokens bound formed
      | sum => exact sums tokens bound formed
      | conjunction => exact conjunctions tokens bound formed
      | disjunction =>
          refine parseTier_yields_of_operand .disjunction ?_ bound formed
          intro tokens bound formed
          rw [parseOperand]
          exact conjunctions tokens bound formed

end

/-- A tree is derived from what the parser takes for it; a failure is an error of the filter. -/
theorem parseTier_yields (finish : Token) (tier : Tier) {tokens : List Token}
    (formed : Formed tokens) :
    Yields (Derives tier.category) tokens (outcome (parseTier finish tier tokens)) :=
  tiersYield (tokens.length + 1) tier tokens (Nat.lt_succ_self _) formed

end RecordFilter
