import Mathlib.Data.List.Forall2
import RecordFilter.Proofs.ParserMeetsGrammar
import RecordFilter.Proofs.Scanning

/-!
# Texts that read as trees

A text reads as a tree in a category if, wherever a separator follows it, scanning takes tokens
from it from which the grammar derives the tree.  No such text begins with an equality sign, so a
sign in front of it stays a symbol of its own.

The productions of the grammar carry over from tokens to texts.  An infix operator stands between
two spaces, and the first of them separates what is on its left.
-/

namespace RecordFilter

open Text Token

def Reads (c : Category) (text : List Char) (e : Expr) : Prop :=
  text.head? ≠ some '=' ∧
    ∀ rest, Separates rest → ScansTo (fun ts => Derives c ts e) text rest

theorem head?_append_ne {text rest : List Char} (first : text.head? ≠ some '=')
    (behind : rest.head? ≠ some '=') : (text ++ rest).head? ≠ some '=' := by
  cases text with
  | nil => exact behind
  | cons c text => exact first

/-! ## Categories -/

theorem Category.eq_of_level {c d : Category} (same : c.level = d.level) : c = d := by
  cases c <;> cases d <;> simp_all [Category.level]

/-- What binds tightly enough may stand wherever less is asked for. -/
theorem Derives.loosen {c d : Category} {ts : List Token} {e : Expr} (below : c.level ≤ d.level)
    (h : Derives d ts e) : Derives c ts e := by
  by_cases same : c = d
  · exact same ▸ h
  have apart : c.level ≠ d.level := fun equal => same (Category.eq_of_level equal)
  cases next : c.tighter? with
  | none =>
      cases c <;> cases next
      cases d <;> simp [Category.level] at below apart
  | some b =>
      have higher := Category.level_of_tighter? next
      exact .tighter next (Derives.loosen (by omega) h)
  termination_by d.level - c.level

theorem Reads.loosen {c d : Category} {text : List Char} {e : Expr} (below : c.level ≤ d.level)
    (h : Reads d text e) : Reads c text e :=
  ⟨h.1, fun rest separates => (h.2 rest separates).mono fun _ => Derives.loosen below⟩

/-! ## Operands -/

theorem reads_number {text : List Char} {d : Decimal} (spelled : SpellsNumber text d) :
    Reads .primary text (.const ⟨.number, .decimal d⟩) := by
  constructor
  · obtain ⟨c, rest, rfl, digit⟩ := spelled.head
    simpa using ne_of_digit digit (by decide)
  · intro rest separates
    refine (scansTo_number spelled separates).mono ?_
    rintro ts ⟨position, rfl⟩
    exact .number rfl (by simpa using spelled)

theorem reads_text {inner : List Char} (plain : apostrophe ∉ inner) :
    Reads .primary (apostrophe :: (inner ++ [apostrophe]))
      (.const ⟨.text, .text (String.ofList inner)⟩) := by
  refine ⟨by simp [apostrophe], fun rest _ => (scansTo_text ⟨rfl, plain⟩ rest).mono ?_⟩
  rintro ts ⟨position, rfl⟩
  exact .text rfl ⟨by simp, plain⟩

theorem reads_null : Reads .primary "NULL".toList (.const .null) := by
  refine ⟨by decide, fun rest separates => (scansTo_null separates).mono ?_⟩
  rintro ts ⟨position, rfl⟩
  exact .null rfl

theorem reads_field {inner : List Char} (plain : ']' ∉ inner)
    (visible : ∃ c ∈ inner, isBlank c = false) :
    Reads .primary ('[' :: (inner ++ [']'])) (.field (String.ofList inner)) := by
  refine ⟨by simp, fun rest _ => (scansTo_field ⟨rfl, plain⟩ rest).mono ?_⟩
  rintro ts ⟨position, rfl⟩
  exact .field rfl ⟨by simp, plain⟩ visible

def One (good : Token → Prop) (tokens : List Token) : Prop := ∃ t, tokens = [t] ∧ good t

theorem scansTo_mark {c : Char} (known : c ∈ punctuationMarks) (rest : List Char) :
    ScansTo (One (·.isPunctuation (String.ofList [c]))) [c] rest := by
  refine (scansTo_punctuation known rest).mono ?_
  rintro ts ⟨position, rfl⟩
  exact ⟨_, rfl, by simp [isPunctuation]⟩

theorem Reads.parenthesized {text : List Char} {e : Expr} (h : Reads .disjunction text e) :
    Reads .primary ('(' :: (text ++ [')'])) e := by
  refine ⟨by simp, fun rest _ => ?_⟩
  have closing := scansTo_mark (c := ')') (by decide) rest
  have inside := h.2 (')' :: rest) (separates_cons (by decide) rest)
  have opening := scansTo_mark (c := '(') (by decide) (text ++ [')'] ++ rest)
  refine (opening.append (inside.append closing)).mono ?_
  rintro _ ⟨_, _, rfl, ⟨t, rfl, opens⟩, ts, _, rfl, derived, u, rfl, closes⟩
  exact .parenthesized opens derived closes

theorem Reads.prefixed {symbol : String} {op : UnaryOp} {text : List Char} {e : Expr}
    (known : (symbol, op) ∈ prefixes) (h : Reads .signed text e) :
    Reads .signed (symbol.toList ++ text) (.unary op e) := by
  obtain ⟨c, sign, same⟩ : ∃ c ∈ ['!', '-', '+'], symbol = String.ofList [c] := by
    simp only [prefixes, List.mem_cons, Prod.mk.injEq, List.not_mem_nil, or_false] at known
    rcases known with ⟨rfl, -⟩ | ⟨rfl, -⟩ | ⟨rfl, -⟩
    · exact ⟨'!', by simp, rfl⟩
    · exact ⟨'-', by simp, rfl⟩
    · exact ⟨'+', by simp, rfl⟩
  subst same
  rw [String.toList_ofList]
  constructor
  · have apart : ['!', '-', '+'].all (· != '=') = true := by decide
    simpa using List.all_eq_true.mp apart c sign
  · intro rest separates
    have apart := head?_append_ne h.1 separates.head?_ne
    refine ((scansTo_sign sign apart).append (h.2 rest separates)).mono ?_
    rintro _ ⟨_, ts, rfl, ⟨position, rfl⟩, derived⟩
    exact .prefixed known (by simp [isSymbol]) derived

/-! ## Operators between operands -/

theorem Reads.around {c d : Category} {left : List Char} {e f : Expr} {good : Token → Prop}
    {second : List Token → Prop} {word right : List Char} (h : Reads c left e)
    (token : ∀ rest, ScansTo (One good) word (' ' :: rest))
    (behind : ∀ rest, Separates rest → ScansTo second right rest)
    (derives : ∀ ts t us, Derives c ts e → good t → second us → Derives d (ts ++ t :: us) f) :
    Reads d (left ++ ' ' :: (word ++ ' ' :: right)) f := by
  refine ⟨head?_append_ne h.1 (by simp), fun rest separates => ?_⟩
  have first := h.2 (' ' :: (word ++ ' ' :: right) ++ rest)
    (separates_cons (by decide) (word ++ ' ' :: right ++ rest))
  have middle := token (right ++ rest)
  have last := behind rest separates
  refine (first.append (middle.append last.space).space).mono ?_
  rintro _ ⟨ts, _, rfl, derived, _, us, rfl, ⟨t, rfl, known⟩, good⟩
  exact derives ts t us derived known good

theorem scansTo_operator {symbol : String} (known : symbol ∈ binarySymbols) (rest : List Char) :
    ScansTo (One (·.isSymbol symbol)) symbol.toList (' ' :: rest) := by
  refine (scansTo_symbol known rest).mono ?_
  rintro ts ⟨position, rfl⟩
  exact ⟨_, rfl, by simp [isSymbol]⟩

theorem one_keyword {word : String} (known : word ∈ writtenKeywords) {ts : List Token}
    (h : Single .keyword word.toList ts) : One (·.keyword = word) ts := by
  obtain ⟨position, rfl⟩ := h
  rw [String.ofList_toList]
  exact ⟨_, rfl, keyword_of_written known position⟩

theorem scansTo_word (word : String) (known : word ∈ writtenKeywords) (rest : List Char) :
    ScansTo (One (·.keyword = word)) word.toList (' ' :: rest) := by
  rcases List.mem_append.mp known with simple | compound
  · exact (scansTo_simpleKeyword simple rest).mono fun _ => one_keyword known
  · have separates := separates_cons (c := ' ') (by decide) rest
    exact (scansTo_compoundKeyword compound separates).mono fun _ => one_keyword known

theorem Reads.infixed {c d : Category} {symbol : String} {op : BinaryOp} {left right : List Char}
    {e f : Expr} (known : (c, symbol, op, d) ∈ infixes) (h : Reads c left e)
    (h' : Reads d right f) :
    Reads c (left ++ ' ' :: (symbol.toList ++ ' ' :: right)) (.binary op e f) := by
  have written : ∀ entry ∈ infixes, entry.2.1 ∈ binarySymbols := by decide
  exact h.around (scansTo_operator (written _ known)) h'.2
    fun ts t us first symbol second => .infixed known first symbol second

theorem Reads.compared {c : Comparison} {left right : List Char} {e f : Expr}
    (h : Reads .sum left e) (h' : Reads .sum right f)
    (proper : f = .const .null → ∀ test, (c, test) ∉ nullTests) :
    Reads .comparison (left ++ ' ' :: (c.symbol.toList ++ ' ' :: right))
      (.binary (.compare c) e f) := by
  have known : (c.symbol, c) ∈ comparisonSigns ∧ c.symbol ∈ binarySymbols := by
    cases c <;> decide
  exact h.around (scansTo_operator known.2) h'.2
    fun ts t us first sign second => .compared known.1 first sign second proper

theorem Reads.like {left right : List Char} {e f : Expr} (h : Reads .sum left e)
    (h' : Reads .sum right f) :
    Reads .comparison (left ++ ' ' :: ("like".toList ++ ' ' :: right)) (.binary .like e f) :=
  h.around (scansTo_word _ (by decide)) h'.2 fun _ _ _ first word second => .like first word second

theorem Reads.notLike {left right : List Char} {e f : Expr} (h : Reads .sum left e)
    (h' : Reads .sum right f) :
    Reads .comparison (left ++ ' ' :: ("not like".toList ++ ' ' :: right))
      (.unary .not (.binary .like e f)) :=
  h.around (scansTo_word _ (by decide)) h'.2
    fun _ _ _ first word second => .notLike first word second

theorem Reads.state {word : String} {test : StateTest} {text : List Char} {e : Expr}
    (known : (word, test) ∈ stateWords) (h : Reads .sum text e) :
    Reads .comparison (text ++ ' ' :: word.toList) (.state test e) := by
  have written : ∀ entry ∈ stateWords, entry.1 ∈ compoundKeywords.map (" ".intercalate ·) := by
    decide
  have compound := written _ known
  refine ⟨head?_append_ne h.1 (by simp), fun rest separates => ?_⟩
  have operand :=
    h.2 (' ' :: word.toList ++ rest) (separates_cons (by decide) (word.toList ++ rest))
  have keyword := scansTo_compoundKeyword compound separates
  refine (operand.append keyword.space).mono ?_
  rintro _ ⟨ts, us, rfl, derived, single⟩
  obtain ⟨t, rfl, same⟩ := one_keyword (List.mem_append_right _ compound) single
  exact .state known derived same

def Bounds (lower upper : Expr) (tokens : List Token) : Prop :=
  ∃ ts and us, tokens = ts ++ and :: us ∧ Derives .sum ts lower ∧ and.keyword = "and" ∧
    Derives .sum us upper

theorem Reads.between {word : String} {negated : Bool} {text low high : List Char}
    {e lower upper : Expr} (known : (word, negated) ∈ rangeWords) (h : Reads .sum text e)
    (hLow : Reads .sum low lower) (hHigh : Reads .sum high upper) :
    Reads .comparison
      (text ++ ' ' :: (word.toList ++ ' ' :: (low ++ ' ' :: ("and".toList ++ ' ' :: high))))
      (.between negated e lower upper) := by
  have written : ∀ entry ∈ rangeWords, entry.1 ∈ writtenKeywords := by decide
  have bounds : ∀ rest, Separates rest → ScansTo (Bounds lower upper)
      (low ++ ' ' :: ("and".toList ++ ' ' :: high)) rest := by
    intro rest separates
    have first := hLow.2 (' ' :: ("and".toList ++ ' ' :: high) ++ rest)
      (separates_cons (by decide) ("and".toList ++ ' ' :: high ++ rest))
    have middle := scansTo_word "and" (by decide) (high ++ rest)
    refine (first.append (middle.append (hHigh.2 rest separates).space).space).mono ?_
    rintro _ ⟨ts, _, rfl, derived, _, us, rfl, ⟨t, rfl, joined⟩, derived'⟩
    exact ⟨ts, t, us, rfl, derived, joined, derived'⟩
  refine h.around (scansTo_word word (written _ known)) bounds ?_
  rintro ts t _ first keyword ⟨us, and, vs, rfl, second, joined, third⟩
  exact .between known first keyword second joined third

/-! ## Lists of values -/

def itemsText (texts : List (List Char)) : List Char := texts.flatMap fun text => ',' :: ' ' :: text

theorem itemsText_cons (text : List Char) (texts : List (List Char)) :
    itemsText (text :: texts) = [','] ++ (' ' :: text ++ itemsText texts) := by
  simp [itemsText]

theorem separates_itemsText {rest : List Char} (separates : Separates rest)
    (texts : List (List Char)) : Separates (itemsText texts ++ rest) := by
  cases texts with
  | nil => exact separates
  | cons text texts => exact separates_cons (by decide) _

theorem scansTo_items {texts : List (List Char)} {values : List Expr}
    (h : List.Forall₂ (Reads .sum) texts values) {rest : List Char} (separates : Separates rest) :
    ScansTo (fun ts => ListsValues ts values) (itemsText texts) rest := by
  induction h with
  | nil => exact fun position => ⟨[], position, rfl, [], rfl, rfl, by simp, by simp⟩
  | @cons text value texts values first _ ih =>
      have comma := scansTo_mark (c := ',') (by decide) (' ' :: text ++ itemsText texts ++ rest)
      have item := first.2 (itemsText texts ++ rest) (separates_itemsText separates texts)
      rw [itemsText_cons]
      refine (comma.append (item.space.append ih)).mono ?_
      rintro _ ⟨_, _, rfl, ⟨t, rfl, mark⟩, ts, _, rfl, derived, others, rfl, rfl, commas, items⟩
      exact ⟨⟨t, ts, value⟩ :: others, rfl, rfl, List.forall_mem_cons.mpr ⟨mark, commas⟩,
        List.forall_mem_cons.mpr ⟨derived, items⟩⟩

theorem Reads.among {word : String} {negated : Bool} {text firstText : List Char}
    {texts : List (List Char)} {e first : Expr} {others : List Expr}
    (known : (word, negated) ∈ membershipWords) (h : Reads .sum text e)
    (hFirst : Reads .sum firstText first) (hOthers : List.Forall₂ (Reads .sum) texts others) :
    Reads .comparison
      (text ++ ' ' :: (word.toList ++ ' ' :: (Char.ofNat 123 :: (firstText ++ (itemsText texts ++
        [Char.ofNat 125])))))
      (.among negated e first others) := by
  have written : ∀ entry ∈ membershipWords, entry.1 ∈ writtenKeywords := by decide
  have list : ∀ rest, Separates rest →
      ScansTo (fun ts => ListOfValues ts negated e (.among negated e first others))
        ([Char.ofNat 123] ++ (firstText ++ (itemsText texts ++ [Char.ofNat 125]))) rest := by
    intro rest _
    have separates := separates_cons (c := Char.ofNat 125) (by decide) rest
    have closing := scansTo_mark (c := Char.ofNat 125) (by decide) rest
    have items := scansTo_items hOthers separates
    have value := hFirst.2 (itemsText texts ++ [Char.ofNat 125] ++ rest) (by
      rw [List.append_assoc]
      exact separates_itemsText separates texts)
    have opening := scansTo_mark (c := Char.ofNat 123) (by decide)
      (firstText ++ (itemsText texts ++ [Char.ofNat 125]) ++ rest)
    refine (opening.append (value.append (items.append closing))).mono ?_
    rintro _ ⟨_, _, rfl, ⟨t, rfl, opens⟩, ts, _, rfl, derived, _, _, rfl,
      ⟨others, rfl, rfl, commas, values⟩, u, rfl, closes⟩
    exact ⟨t, u, ts, first, others, rfl, rfl, opens, derived, commas, values, closes⟩
  refine h.around (scansTo_word word (written _ known)) list ?_
  rintro ts t _ tested keyword ⟨opening, closing, us, value, others, rfl, same, opens, derived,
    commas, values, closes⟩
  rw [same]
  exact .among known tested keyword opens derived commas values closes

end RecordFilter
