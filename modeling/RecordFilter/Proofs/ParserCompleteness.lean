import RecordFilter.Proofs.ParserSoundness

/-!
# The parser reads all that the grammar derives

A category reads as far as it can.  Behind a list of tokens that is derived in it, the parser stops
exactly there if the next token cannot go on with the category; in a derivation, what follows a
part never can.  For the left-associative tiers more is needed than that: reading what is derived
comes down to going on with its tree as the left operand, and this holds by induction for each
operator that the derivation adds on the right.
-/

namespace RecordFilter

open Text

/-! ## Tokens that end a category -/

structure Category.Stops (c : Category) (t : Token) : Prop where
  operators : ∀ tier : Tier, c.level ≤ tier.category.level → tier.operator? t = none
  tail : c.level ≤ Category.comparison.level → t.tail? = none

def Category.StopsBefore (c : Category) (rest : List Token) : Prop := ∀ t ∈ rest.head?, c.Stops t

namespace Category

theorem stopsBefore_nil (c : Category) : c.StopsBefore [] := by simp [StopsBefore]

theorem stopsBefore_cons {c : Category} {t : Token} (stops : c.Stops t) (rest : List Token) :
    c.StopsBefore (t :: rest) := by
  simpa [StopsBefore] using stops

theorem Stops.tighter {c d : Category} {t : Token} (next : c.tighter? = some d)
    (stops : c.Stops t) : d.Stops t := by
  have higher := level_of_tighter? next
  exact ⟨fun tier below => stops.operators tier (by omega), fun below => stops.tail (by omega)⟩

theorem StopsBefore.tighter {c d : Category} {rest : List Token} (next : c.tighter? = some d)
    (stops : c.StopsBefore rest) : d.StopsBefore rest :=
  fun t ht => (stops t ht).tighter next

end Category

namespace Token

theorem operator?_of_kind {t : Token} (kind : t.kind ≠ .symbol) (tier : Tier) :
    tier.operator? t = none := by
  cases tier <;> simp [Tier.operator?, isSymbol, kind]

theorem comparison?_of_kind {t : Token} (kind : t.kind ≠ .symbol) : t.comparison? = none := by
  simp [comparison?, kind]

theorem stops_operator {t : Token} {c d e : Category} {symbol : String} {op : BinaryOp}
    (known : (c, symbol, op, d) ∈ infixes) (written : t.isSymbol symbol)
    (next : c.tighter? = some e) : e.Stops t := by
  simp only [isSymbol, Bool.and_eq_true, beq_iff_eq] at written
  obtain ⟨kind, text⟩ := written
  have noKeyword : t.keyword = "" := keyword_of_kind (by simp [kind])
  constructor
  · intro tier above
    simp only [infixes, List.mem_cons, Prod.mk.injEq, List.not_mem_nil, or_false] at known
    rcases known with ⟨rfl, rfl, -⟩ | ⟨rfl, rfl, -⟩ | ⟨rfl, rfl, -⟩ | ⟨rfl, rfl, -⟩ |
      ⟨rfl, rfl, -⟩ | ⟨rfl, rfl, -⟩ <;> cases next <;> cases tier <;>
      simp [Tier.operator?, isSymbol, text, Category.level, Tier.category] at above ⊢
  · intro above
    simp only [infixes, List.mem_cons, Prod.mk.injEq, List.not_mem_nil, or_false] at known
    rcases known with ⟨rfl, rfl, -⟩ | ⟨rfl, rfl, -⟩ | ⟨rfl, rfl, -⟩ | ⟨rfl, rfl, -⟩ |
      ⟨rfl, rfl, -⟩ | ⟨rfl, rfl, -⟩ <;> cases next <;>
      simp [tail?, comparison?, text, noKeyword, Category.level] at above ⊢

theorem stops_punctuation {t : Token} {mark : String} (h : t.isPunctuation mark) (c : Category) :
    c.Stops t := by
  simp only [isPunctuation, Bool.and_eq_true, beq_iff_eq] at h
  have noKeyword : t.keyword = "" := keyword_of_kind (by simp [h.1])
  have notSymbol : t.kind ≠ .symbol := by simp [h.1]
  refine ⟨fun tier _ => operator?_of_kind notSymbol tier, fun _ => ?_⟩
  simp [tail?, comparison?_of_kind notSymbol, noKeyword]

theorem stops_tail {t : Token} {tail : Tail} (h : t.tail? = some tail) :
    Category.sum.Stops t := by
  refine ⟨fun tier above => ?_, fun above => absurd above (by decide)⟩
  cases comparison : t.comparison? with
  | none =>
      refine operator?_of_kind (fun symbol => ?_) tier
      have noKeyword : t.keyword = "" := keyword_of_kind (by simp [symbol])
      simp [tail?, comparison, noKeyword] at h
  | some c =>
      obtain ⟨sign, known, written⟩ := comparison?_eq_some.mp comparison
      simp only [isSymbol, Bool.and_eq_true, beq_iff_eq] at written
      simp only [comparisonSigns, List.mem_cons, Prod.mk.injEq, List.not_mem_nil, or_false] at known
      rcases known with ⟨rfl, -⟩ | ⟨rfl, -⟩ | ⟨rfl, -⟩ | ⟨rfl, -⟩ | ⟨rfl, -⟩ | ⟨rfl, -⟩ |
        ⟨rfl, -⟩ <;> cases tier <;> simp [Tier.operator?, isSymbol, written.2]

theorem stops_and {t : Token} (h : t.keyword = "and") : Category.sum.Stops t := by
  have kind := kind_of_keyword h (by decide)
  exact ⟨fun tier _ => operator?_of_kind (by simp [kind]) tier,
    fun above => absurd above (by decide)⟩

end Token

/-! ## Reading what is derived -/

section

variable (finish : Token)

/-- Reading what a tier derives comes down to going on with its tree as the left operand. -/
def GoesOn (tier : Tier) (ts : List Token) (e : Expr) : Prop :=
  ∀ rest, tier.operandCategory.StopsBefore rest →
    outcome (parseTier finish tier (ts ++ rest)) = outcome (parseChain finish tier e rest)

/-- What is derived in a category is read wherever the category stops behind it. -/
def IsRead (c : Category) (ts : List Token) (e : Expr) : Prop :=
  match c with
  | .disjunction => GoesOn finish .disjunction ts e
  | .conjunction => GoesOn finish .conjunction ts e
  | .comparison => ∀ rest, Category.comparison.StopsBefore rest →
      outcome (parseComparison finish (ts ++ rest)) = .ok (e, rest)
  | .sum => GoesOn finish .sum ts e
  | .product => GoesOn finish .product ts e
  | .signed => ∀ rest, outcome (parseSigned finish (ts ++ rest)) = .ok (e, rest)
  | .primary => ∀ t us rest, ts = t :: us →
      outcome (parsePrimary finish t (us ++ rest)) = .ok (e, rest)

variable {finish}

theorem isRead_tier {tier : Tier} {ts : List Token} {e : Expr} :
    IsRead finish tier.category ts e ↔ GoesOn finish tier ts e := by
  cases tier <;> rfl

theorem GoesOn.read (tier : Tier) {ts rest : List Token} {e : Expr} (h : GoesOn finish tier ts e)
    (stops : tier.category.StopsBefore rest) :
    outcome (parseTier finish tier (ts ++ rest)) = .ok (e, rest) := by
  rw [h rest (stops.tighter tier.category_tighter)]
  cases rest with
  | nil => exact outcome_parseChain_nil finish tier e
  | cons t rest =>
      exact outcome_parseChain_stop finish ((stops t rfl).operators tier (Nat.le_refl _)) e rest

theorem IsRead.operand {tier : Tier} {ts rest : List Token} {e : Expr}
    (h : IsRead finish tier.operandCategory ts e)
    (stops : tier.operandCategory.StopsBefore rest) :
    outcome (parseOperand finish tier (ts ++ rest)) = .ok (e, rest) := by
  cases tier <;> rw [parseOperand]
  · exact GoesOn.read .conjunction h stops
  · exact h rest stops
  · exact GoesOn.read .product h stops
  · exact h rest

theorem IsRead.goesOn (tier : Tier) {ts : List Token} {e : Expr}
    (h : IsRead finish tier.operandCategory ts e) : GoesOn finish tier ts e := by
  intro rest stops
  rw [outcome_parseTier, h.operand stops]
  rfl

theorem tier_of_operator {c d : Category} {symbol : String} {op : BinaryOp} {t : Token}
    (known : (c, symbol, op, d) ∈ infixes) (written : t.isSymbol symbol) :
    ∃ tier : Tier, tier.category = c ∧ tier.operandCategory = d ∧ tier.operator? t = some op := by
  have tiers : ∀ entry ∈ infixes, ∃ tier : Tier,
      tier.category = entry.1 ∧ tier.operandCategory = entry.2.2.2 := by
    simp only [infixes, List.forall_mem_cons]
    exact ⟨⟨.disjunction, rfl, rfl⟩, ⟨.conjunction, rfl, rfl⟩, ⟨.sum, rfl, rfl⟩, ⟨.sum, rfl, rfl⟩,
      ⟨.product, rfl, rfl⟩, ⟨.product, rfl, rfl⟩, by simp⟩
  obtain ⟨tier, rfl, rfl⟩ := tiers _ known
  exact ⟨tier, rfl, rfl, Tier.operator?_eq_some.mpr ⟨symbol, known, written⟩⟩

theorem GoesOn.operator {tier : Tier} {t : Token} {op : BinaryOp} {ts us : List Token}
    {left right : Expr} (operator : tier.operator? t = some op)
    (stops : tier.operandCategory.Stops t) (first : GoesOn finish tier ts left)
    (second : IsRead finish tier.operandCategory us right) :
    GoesOn finish tier (ts ++ t :: us) (.binary op left right) := by
  intro rest stopsBehind
  rw [List.append_assoc, List.cons_append, first _ (Category.stopsBefore_cons stops _),
    outcome_parseChain_cons finish operator, second.operand stopsBehind]
  rfl

theorem Derives.head_of_primary {ts : List Token} {e : Expr} (h : Derives .primary ts e) :
    ∀ t ∈ ts.head?, t.sign? = none := by
  have notSymbol : ∀ t : Token, t.kind ≠ .symbol → t.sign? = none := by
    intro t kind
    simp [Token.sign?, Token.isSymbol, kind]
  cases h with
  | tighter next _ => cases next
  | infixed known _ _ _ => simp [infixes] at known
  | parenthesized opens _ _ =>
      rintro t ⟨⟩
      simp only [Token.isPunctuation, Bool.and_eq_true, beq_iff_eq] at opens
      exact notSymbol _ (by simp [opens.1])
  | number kind _ | text kind _ | null kind | field kind _ _ =>
      rintro t ⟨⟩
      exact notSymbol _ (by simp [kind])

theorem Derives.head_of_punctuation {c : Category} {ts : List Token} {e : Expr}
    (h : Derives c ts e) {mark : String} (other : mark ≠ "(") :
    ∀ t ∈ ts.head?, ¬ t.isPunctuation mark := by
  have front : ∀ {d : Category} {ts us : List Token} {left : Expr}, Derives d ts left →
      (∀ t ∈ ts.head?, ¬ t.isPunctuation mark) →
      ∀ t ∈ (ts ++ us).head?, ¬ t.isPunctuation mark := by
    intro d ts us left derived ih
    obtain ⟨u, ts, rfl⟩ := List.exists_cons_of_ne_nil derived.ne_nil
    exact ih
  induction h with
  | number kind _ | text kind _ | null kind | field kind _ _ =>
      rintro t ⟨⟩
      simp [Token.isPunctuation, kind]
  | parenthesized opens _ _ _ =>
      rintro t ⟨⟩ closes
      simp only [Token.isPunctuation, Bool.and_eq_true, beq_iff_eq] at opens closes
      exact other (closes.2.symm.trans opens.2)
  | tighter _ _ ih => exact ih
  | prefixed _ written _ _ =>
      rintro t ⟨⟩
      simp only [Token.isSymbol, Bool.and_eq_true, beq_iff_eq] at written
      simp [Token.isPunctuation, written.1]
  | infixed _ first _ _ ih _ | compared _ first _ _ _ ih _ | comparedWithNull _ _ first _ _ ih _
  | like first _ _ ih _ | notLike first _ _ ih _ | between _ first _ _ _ _ ih _ _
  | state _ first _ ih =>
      exact front first ih
  | among _ tested _ _ _ _ _ _ ih _ _ => exact front tested ih

/-! ## Reading the tails of comparisons -/

theorem read_tail (tail : Tail) {t : Token} {ts us rest : List Token} {left e : Expr}
    (first : GoesOn finish .sum ts left) (begins : tail.BeginsWith t)
    (behind : tailOutcome finish left t (us ++ rest) (some tail) = .ok (e, rest)) :
    outcome (parseComparison finish ((ts ++ t :: us) ++ rest)) = .ok (e, rest) := by
  have known := Token.tail?_eq_some.mpr begins
  have stops := Category.stopsBefore_cons (Token.stops_tail known) (us ++ rest)
  rw [List.append_assoc, List.cons_append, outcome_parseComparison, first.read .sum stops, ok_bind]
  simp only
  rw [outcome_parseTail_cons, known, behind]

theorem comparison_of_proper {c : Comparison} {us : List Token} {left right : Expr}
    (second : Derives .sum us right)
    (proper : right = .const .null → ∀ test, (c, test) ∉ nullTests) :
    Expr.comparison c left right = .binary (.compare c) left right := by
  unfold Expr.comparison
  split_ifs with null
  · have noTest := proper (second.eq_null null)
    cases c with
    | equal => exact absurd (by simp [nullTests]) (noTest .isNull)
    | notEqual => exact absurd (by simp [nullTests]) (noTest .isNotNull)
    | _ => rfl
  · rfl

theorem comparison_of_nullTest {c : Comparison} {test : StateTest} {left : Expr}
    (tested : (c, test) ∈ nullTests) :
    Expr.comparison c left (.const .null) = .state test left := by
  simp only [nullTests, List.mem_cons, Prod.mk.injEq, List.not_mem_nil, or_false] at tested
  rcases tested with ⟨rfl, rfl⟩ | ⟨rfl, rfl⟩ <;> rfl

theorem read_compared {t : Token} {sign : String} {c : Comparison} {ts us : List Token}
    {left right : Expr} (known : (sign, c) ∈ comparisonSigns) (first : GoesOn finish .sum ts left)
    (written : t.isSymbol sign) (second : GoesOn finish .sum us right) :
    IsRead finish .comparison (ts ++ t :: us) (.comparison c left right) := by
  intro rest stops
  refine read_tail (.compare c) first ⟨sign, known, written⟩ ?_
  rw [tailOutcome, second.read .sum (stops.tighter rfl)]
  rfl

theorem read_likeness (negated : Bool) {t : Token} {ts us : List Token} {left right : Expr}
    (first : GoesOn finish .sum ts left) (begins : (Tail.like negated).BeginsWith t)
    (second : GoesOn finish .sum us right) :
    IsRead finish .comparison (ts ++ t :: us) (.likeness negated left right) := by
  intro rest stops
  refine read_tail (.like negated) first begins ?_
  rw [tailOutcome, second.read .sum (stops.tighter rfl)]
  rfl

theorem read_between {t and : Token} {negated : Bool} {ts us vs : List Token}
    {operand lower upper : Expr} (first : GoesOn finish .sum ts operand)
    (begins : (Tail.between negated).BeginsWith t) (second : GoesOn finish .sum us lower)
    (joined : and.keyword = "and") (third : GoesOn finish .sum vs upper) :
    IsRead finish .comparison (ts ++ t :: (us ++ and :: vs))
      (.between negated operand lower upper) := by
  intro rest stops
  refine read_tail (.between negated) first begins ?_
  have stopsAtAnd := Category.stopsBefore_cons (Token.stops_and joined) (vs ++ rest)
  rw [List.append_assoc, List.cons_append, tailOutcome, second.read .sum stopsAtAnd, ok_bind]
  simp only
  rw [outcome_expectAnd_cons finish joined, ok_bind, third.read .sum (stops.tighter rfl)]
  rfl

theorem listedTokens_cons (o : ListedValue) (others : List ListedValue) :
    listedTokens (o :: others) = o.comma :: (o.tokens ++ listedTokens others) := rfl

theorem stopsBefore_listedTokens {others : List ListedValue} {rest : List Token}
    (stops : Category.sum.StopsBefore rest) (separated : ∀ o ∈ others, o.comma.isPunctuation ",") :
    Category.sum.StopsBefore (listedTokens others ++ rest) := by
  cases others with
  | nil => exact stops
  | cons o others =>
      exact Category.stopsBefore_cons (Token.stops_punctuation (separated o (by simp)) .sum) _

theorem read_items {others : List ListedValue} {rest : List Token}
    (stops : ∀ t ∈ rest.head?, ¬ t.isPunctuation ",")
    (sumStops : Category.sum.StopsBefore rest)
    (separated : ∀ o ∈ others, o.comma.isPunctuation ",")
    (values : ∀ o ∈ others, GoesOn finish .sum o.tokens o.value) :
    outcome (parseItems finish (listedTokens others ++ rest)) =
      .ok (others.map ListedValue.value, rest) := by
  induction others with
  | nil =>
      cases rest with
      | nil => exact outcome_parseItems_nil finish
      | cons t rest => exact outcome_parseItems_stop finish (stops t rfl) rest
  | cons o others ih =>
      rw [List.forall_mem_cons] at separated values
      have item := values.1.read .sum (stopsBefore_listedTokens sumStops separated.2)
      rw [listedTokens_cons, List.cons_append, List.append_assoc,
        outcome_parseItems_cons finish separated.1, item, ok_bind]
      simp only
      rw [ih separated.2 values.2]
      rfl

theorem read_among {t opening closing : Token} {negated : Bool} {ts us : List Token}
    {operand first : Expr} {others : List ListedValue} (tested : GoesOn finish .sum ts operand)
    (begins : (Tail.among negated).BeginsWith t) (opens : opening.isPunctuation "\x7b")
    (nonempty : us ≠ []) (begun : ∀ t ∈ us.head?, ¬ t.isPunctuation "\x7d")
    (value : GoesOn finish .sum us first) (separated : ∀ o ∈ others, o.comma.isPunctuation ",")
    (values : ∀ o ∈ others, GoesOn finish .sum o.tokens o.value)
    (closes : closing.isPunctuation "\x7d") :
    IsRead finish .comparison (ts ++ t :: opening :: (us ++ (listedTokens others ++ [closing])))
      (.among negated operand first (others.map ListedValue.value)) := by
  intro rest stops
  refine read_tail (.among negated) tested begins ?_
  have accepted : refuseEmpty t.text (us ++ (listedTokens others ++ closing :: rest)) = .ok () := by
    obtain ⟨u, us, rfl⟩ := List.exists_cons_of_ne_nil nonempty
    rw [List.cons_append, refuseEmpty, if_neg (begun u rfl)]
  have sumStops := Category.stopsBefore_cons (Token.stops_punctuation closes .sum) rest
  have noComma : ∀ t ∈ (closing :: rest).head?, ¬ t.isPunctuation "," := by
    rintro t ⟨⟩ comma
    simp only [Token.isPunctuation, Bool.and_eq_true, beq_iff_eq] at comma closes
    exact absurd (comma.2.symm.trans closes.2) (by decide)
  have tokens : (opening :: (us ++ (listedTokens others ++ [closing]))) ++ rest =
      opening :: (us ++ (listedTokens others ++ closing :: rest)) := by simp
  rw [tokens, tailOutcome, outcome_expectMark_cons finish opens, ok_bind]
  simp only
  rw [accepted, ok_bind, value.read .sum (stopsBefore_listedTokens sumStops separated), ok_bind]
  simp only
  rw [read_items noComma sumStops separated values, ok_bind]
  simp only
  rw [outcome_expectMark_cons finish closes]
  rfl

/-! ## Reading operands -/

theorem read_literal {t : Token} {v : Value}
    (kind : t.kind = .number ∨ t.kind = .text ∨ t.kind = .null) (literal : t.literal = .ok v) :
    IsRead finish .primary [t] (.const v) := by
  rintro t us rest ⟨⟩
  have notMark : ¬ t.isPunctuation "(" := by
    rcases kind with kind | kind | kind <;> simp [Token.isPunctuation, kind]
  have notField : t.kind ≠ .field := by
    rcases kind with kind | kind | kind <;> simp [kind]
  rw [outcome_parsePrimary, if_neg notMark, if_neg notField, if_pos kind, literal]
  rfl

theorem read_field {t : Token} {inner : List Char} (kind : t.kind = .field)
    (enclosed : Encloses '[' ']' t.text.toList inner) (visible : ∃ c ∈ inner, isBlank c = false) :
    IsRead finish .primary [t] (.field (String.ofList inner)) := by
  rintro t us rest ⟨⟩
  have notMark : ¬ t.isPunctuation "(" := by simp [Token.isPunctuation, kind]
  have same : t.inner = String.ofList inner := by simp [Token.inner, enclosed.1]
  have notBlank : isBlankText t.inner.toList = false := by simpa [same, isBlankText] using visible
  rw [outcome_parsePrimary, if_neg notMark, if_pos kind, fieldReference, notBlank, same]
  rfl

theorem read_parenthesized {opening closing : Token} {ts : List Token} {e : Expr}
    (opens : opening.isPunctuation "(") (inside : GoesOn finish .disjunction ts e)
    (closes : closing.isPunctuation ")") :
    IsRead finish .primary (opening :: (ts ++ [closing])) e := by
  rintro t us rest ⟨⟩
  have stops := Category.stopsBefore_cons (Token.stops_punctuation closes .disjunction) rest
  rw [outcome_parsePrimary, if_pos opens, List.append_assoc, List.singleton_append,
    inside.read .disjunction stops, ok_bind]
  simp only
  rw [outcome_expectMark_cons finish closes]
  rfl

theorem IsRead.comparison {ts : List Token} {e : Expr} (h : GoesOn finish .sum ts e) :
    IsRead finish .comparison ts e := by
  intro rest stops
  rw [outcome_parseComparison, h.read .sum (stops.tighter rfl), ok_bind]
  cases rest with
  | nil => exact outcome_parseTail_nil finish e
  | cons t rest =>
      simp only
      rw [outcome_parseTail_cons, (stops t rfl).tail (Nat.le_refl _)]
      rfl

theorem IsRead.signed {ts : List Token} {e : Expr} (derived : Derives .primary ts e)
    (h : IsRead finish .primary ts e) : IsRead finish .signed ts e := by
  intro rest
  obtain ⟨t, us, rfl⟩ := List.exists_cons_of_ne_nil derived.ne_nil
  rw [List.cons_append, outcome_parseSigned_primary finish (derived.head_of_primary t rfl)]
  exact h t us rest rfl

/-- What is derived is read.  The induction is on the derivation, with a case for each
production. -/
theorem Derives.isRead {c : Category} {ts : List Token} {e : Expr} (h : Derives c ts e) :
    IsRead finish c ts e := by
  induction h with
  | number kind spelled =>
      exact read_literal (.inl kind) (by simp [Token.literal, kind, read?_spelled spelled])
  | text kind enclosed =>
      exact read_literal (.inr (.inl kind)) (by simp [Token.literal, kind, Token.inner, enclosed.1])
  | null kind => exact read_literal (.inr (.inr kind)) (by simp [Token.literal, kind])
  | field kind enclosed visible => exact read_field kind enclosed visible
  | parenthesized opens _ closes ih => exact read_parenthesized opens ih closes
  | @tighter c d _ _ next same ih =>
      -- One step down: a chain without an operator, a comparison without a tail, an operand
      -- without a sign.
      cases c <;> cases next
      · exact IsRead.goesOn .disjunction ih
      · exact IsRead.goesOn .conjunction ih
      · exact IsRead.comparison ih
      · exact IsRead.goesOn .sum ih
      · exact IsRead.goesOn .product ih
      · exact IsRead.signed same ih
  | prefixed known written _ ih =>
      intro rest
      have sign := Token.sign?_eq_some.mpr ⟨_, known, written⟩
      rw [List.cons_append, outcome_parseSigned_sign finish sign, ih rest]
      rfl
  | infixed known _ written _ ihFirst ihSecond =>
      obtain ⟨tier, rfl, rfl, operator⟩ := tier_of_operator known written
      have stops := Token.stops_operator known written tier.category_tighter
      exact isRead_tier.mpr ((isRead_tier.mp ihFirst).operator operator stops ihSecond)
  | compared known _ written second proper ihFirst ihSecond =>
      have read := read_compared known ihFirst written ihSecond
      rwa [comparison_of_proper second proper] at read
  | comparedWithNull known tested _ written _ ihFirst ihSecond =>
      have read := read_compared known ihFirst written ihSecond
      rwa [comparison_of_nullTest tested] at read
  | like _ written _ ihFirst ihSecond => exact read_likeness false ihFirst written ihSecond
  | notLike _ written _ ihFirst ihSecond => exact read_likeness true ihFirst written ihSecond
  | between known _ written _ joined _ ihFirst ihSecond ihThird =>
      exact read_between ihFirst ⟨_, known, written⟩ ihSecond joined ihThird
  | among known _ written opens value separated _ closes ihTested ihValue ihValues =>
      exact read_among ihTested ⟨_, known, written⟩ opens value.ne_nil
        (value.head_of_punctuation (by decide)) ihValue separated ihValues closes
  | state known _ written ih =>
      exact fun rest _ => read_tail (.state _) ih ⟨_, known, written⟩ rfl

end

end RecordFilter
