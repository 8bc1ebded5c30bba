import RecordFilter.Proofs.FirstAppearances
import RecordFilter.Proofs.ParseErrors
import RecordFilter.Proofs.ParsedFilters
import RecordFilter.Proofs.TreeWalks

/-!
# Field references in texts and trees

A tree refers to fields where its text does: the field references among its nodes, in the order of
a walk, are the field tokens of the text, in the order of the text.  This holds of every production
of the grammar, also of those that leave a `NULL` out of the tree.
-/

namespace RecordFilter

def Token.fieldName? (t : Token) : Option String := if t.kind = .field then some t.inner else none

def namedIn (e : Expr) : List String := e.nodes.filterMap Expr.fieldName?

def namedBy (tokens : List Token) : List String := tokens.filterMap Token.fieldName?

@[simp] theorem namedBy_nil : namedBy [] = [] := rfl

theorem namedBy_append (ts us : List Token) : namedBy (ts ++ us) = namedBy ts ++ namedBy us :=
  List.filterMap_append

section

variable {t : Token}

theorem namedBy_cons_of_kind (other : t.kind ≠ .field) (rest : List Token) :
    namedBy (t :: rest) = namedBy rest :=
  List.filterMap_cons_none (if_neg other)

theorem namedBy_cons_symbol {symbol : String} (h : t.isSymbol symbol) (rest : List Token) :
    namedBy (t :: rest) = namedBy rest := by
  refine namedBy_cons_of_kind (fun isField => ?_) rest
  simp [Token.isSymbol, isField] at h

theorem namedBy_cons_punctuation {mark : String} (h : t.isPunctuation mark) (rest : List Token) :
    namedBy (t :: rest) = namedBy rest := by
  refine namedBy_cons_of_kind (fun isField => ?_) rest
  simp [Token.isPunctuation, isField] at h

theorem namedBy_cons_keyword {word : String} (h : t.keyword = word) (some : word ≠ "")
    (rest : List Token) : namedBy (t :: rest) = namedBy rest := by
  refine namedBy_cons_of_kind (fun isField => ?_) rest
  simp [Token.kind_of_keyword h some] at isField

theorem namedBy_field {inner : List Char} (kind : t.kind = .field)
    (enclosed : Encloses '[' ']' t.text.toList inner) : namedBy [t] = [String.ofList inner] := by
  simp [namedBy, Token.fieldName?, kind, Token.inner, enclosed.1]

end

theorem namedIn_const (v : Value) : namedIn (.const v) = [] := rfl

theorem namedIn_node {e : Expr} (other : e.fieldName? = none) :
    namedIn e = e.children.flatMap namedIn := by
  have below (es : List Expr) :
      (Expr.nodesOf es).filterMap Expr.fieldName? = es.flatMap namedIn := by
    induction es with
    | nil => rfl
    | cons e es ih => rw [Expr.nodesOf, List.filterMap_append, ih, List.flatMap_cons, namedIn]
  rw [namedIn, Expr.nodes_eq, List.filterMap_cons_none other, below]

section

variable (operand left right first lower upper : Expr)

theorem namedIn_unary (op : UnaryOp) : namedIn (.unary op operand) = namedIn operand := by
  rw [namedIn_node rfl, Expr.children, List.flatMap_singleton]

theorem namedIn_binary (op : BinaryOp) :
    namedIn (.binary op left right) = namedIn left ++ namedIn right := by
  rw [namedIn_node rfl, Expr.children, List.flatMap_cons, List.flatMap_singleton]

theorem namedIn_state (test : StateTest) : namedIn (.state test operand) = namedIn operand := by
  rw [namedIn_node rfl, Expr.children, List.flatMap_singleton]

theorem namedIn_between (negated : Bool) : namedIn (.between negated operand lower upper) =
    namedIn operand ++ (namedIn lower ++ namedIn upper) := by
  rw [namedIn_node rfl, Expr.children, List.flatMap_cons, List.flatMap_cons,
    List.flatMap_singleton]

theorem namedIn_among (negated : Bool) (others : List Expr) :
    namedIn (.among negated operand first others) =
      namedIn operand ++ (namedIn first ++ others.flatMap namedIn) := by
  rw [namedIn_node rfl, Expr.children, List.flatMap_cons, List.flatMap_cons]

end

theorem namedBy_listedTokens {others : List ListedValue}
    (separated : ∀ o ∈ others, o.comma.isPunctuation ",")
    (values : ∀ o ∈ others, namedIn o.value = namedBy o.tokens) :
    (others.map ListedValue.value).flatMap namedIn = namedBy (listedTokens others) := by
  induction others with
  | nil => rfl
  | cons o others ih =>
      rw [List.forall_mem_cons] at separated values
      rw [List.map_cons, List.flatMap_cons, ih separated.2 values.2, listedTokens_cons,
        namedBy_cons_punctuation separated.1, namedBy_append, values.1]

/-- A tree that is derived from tokens names the fields that they name, in the same order. -/
theorem Derives.namedIn_eq {c : Category} {ts : List Token} {e : Expr} (h : Derives c ts e) :
    namedIn e = namedBy ts := by
  induction h with
  | number kind | text kind | null kind => exact (namedBy_cons_of_kind (by simp [kind]) []).symm
  | field kind enclosed => exact (namedBy_field kind enclosed).symm
  | parenthesized opens _ closes ih =>
      rw [namedBy_cons_punctuation opens, namedBy_append, namedBy_cons_punctuation closes, ih]
      simp
  | tighter _ _ ih => exact ih
  | prefixed _ written _ ih => rw [namedIn_unary, namedBy_cons_symbol written, ih]
  | infixed _ _ written _ left right | compared _ _ written _ _ left right =>
      rw [namedIn_binary, namedBy_append, namedBy_cons_symbol written, left, right]
  | comparedWithNull _ _ _ written _ left right =>
      -- The literal that is left out of the tree names no field.
      rw [namedIn_state, namedBy_append, namedBy_cons_symbol written, ← right, namedIn_const,
        List.append_nil, left]
  | like _ written _ left right =>
      rw [namedIn_binary, namedBy_append, namedBy_cons_keyword written (by decide), left, right]
  | notLike _ written _ left right =>
      rw [namedIn_unary, namedIn_binary, namedBy_append,
        namedBy_cons_keyword written (by decide), left, right]
  | between known _ written _ joined _ operand lower upper =>
      have some : ∀ entry ∈ rangeWords, entry.1 ≠ "" := by decide
      rw [namedIn_between, namedBy_append, namedBy_cons_keyword written (some _ known),
        namedBy_append, namedBy_cons_keyword joined (by decide), operand, lower, upper]
  | among known _ written opens _ separated _ closes operand value values =>
      have some : ∀ entry ∈ membershipWords, entry.1 ≠ "" := by decide
      rw [namedIn_among, namedBy_append, namedBy_cons_keyword written (some _ known),
        namedBy_cons_punctuation opens, namedBy_append, namedBy_append,
        namedBy_cons_punctuation closes, namedBy_nil, List.append_nil,
        namedBy_listedTokens separated values, operand, value]
  | state known _ written operand =>
      have some : ∀ entry ∈ stateWords, entry.1 ≠ "" := by decide
      rw [namedIn_state, namedBy_append, namedBy_cons_keyword written (some _ known), namedBy_nil,
        List.append_nil, operand]

theorem namedIn_of_parse {text : String} {e : Expr} (h : parse text = .ok e) :
    namedIn e = namedBy (Token.scan text) := by
  obtain ⟨tokens, finish, scanned, ends, -, formed, parsed⟩ := parse_eq text
  have yields := parseBefore_yields finish formed
  rw [← parsed, h] at yields
  have nothing : namedBy [finish] = [] := namedBy_cons_of_kind (by simp [ends]) []
  rw [yields.namedIn_eq, scanned, namedBy_append, nothing, List.append_nil]

/-- A walk through the tree of a text takes every node once and before those below it, and meets the
field references of the text one for one and in their order.  So the fields that the tree refers to
are those of the text, in the order of their first appearances. -/
theorem parseExpression_fieldNames {text : String} {e : Expr}
    (parsed : parseExpression text = .ok e) :
    e.walk.filterMap Expr.fieldName? = (Token.scan text).filterMap Token.fieldName? ∧
    FirstAppearances e.fieldNames ((Token.scan text).filterMap Token.fieldName?) ∧
    ∃ places, Expr.VisitsAt e.at? e.walk places ∧
      places.Pairwise fun place later => ¬ later <+: place := by
  have same : namedIn e = namedBy (Token.scan text) :=
    namedIn_of_parse (parseExpression_eq_ok parsed)
  obtain ⟨places, visits⟩ := e.exists_visitsAt
  rw [Expr.walk_eq]
  refine ⟨same, ?_, places, visits, visits.aboveFirst⟩
  have names : e.fieldNames = (namedBy (Token.scan text)).eraseDups := by
    rw [← same, Expr.fieldNames, namedIn]
  rw [names]
  exact firstAppearances_eraseDups _

def knownOrOpen : String := "[b] in \x7b[a], 1\x7d && ([c] == NULL || [a] > [b])"

theorem parseExpression_fieldNames_knownOrOpen :
    ∃ e, parseExpression knownOrOpen = .ok e ∧ e.fieldNames = ["b", "a", "c"] ∧
      e.walk.filterMap Expr.fieldName? = ["b", "a", "c", "a", "b"] ∧
      FirstAppearances e.fieldNames ["b", "a", "c", "a", "b"] ∧
      ∃ places, Expr.VisitsAt e.at? e.walk places ∧
        places.Pairwise fun place later => ¬ later <+: place := by
  have actual : (parseExpression knownOrOpen).map Expr.fieldNames = .ok ["b", "a", "c"] := by
    decide +kernel
  obtain ⟨e, parsed, names⟩ := map_eq_ok.mp actual
  have scanned :
      (Token.scan knownOrOpen).filterMap Token.fieldName? = ["b", "a", "c", "a", "b"] := by
    decide +kernel
  have named := parseExpression_fieldNames parsed
  rw [scanned] at named
  exact ⟨e, parsed, names, named⟩

end RecordFilter
