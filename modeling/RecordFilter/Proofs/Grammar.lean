import RecordFilter.Expr.Parse

/-!
# The grammar of filters

The grammar is a relation between lists of tokens and trees, said without the parser.  A rule for a
left-associative operator has its own category on the left and the next tighter one on the right;
prefix operators have theirs on the right.  A category with no operator of its own at hand passes
to the next tighter one.

Literals and field references are read off the text of their token.  The rules state which forms
of such tokens they accept; `Token.HasForm` collects these forms, which are those that scanning
gives its tokens.
-/

namespace RecordFilter

open Text

/-! ## Forms of tokens -/

/-- The texts of numbers without a sign or an exponent, and the numbers they denote: digits, and
behind a point as many more digits as the number has decimal places. -/
inductive SpellsNumber : List Char → Decimal → Prop
  | whole {digits : List Char} (nonempty : digits ≠ [])
      (digital : ∀ c ∈ digits, isAsciiDigit c = true) :
      SpellsNumber digits ⟨false, Nat.ofDigitChars 10 digits 0, 0⟩
  | fractional {digits places : List Char} (nonempty : digits ≠ [])
      (digital : ∀ c ∈ digits, isAsciiDigit c = true) (placed : places ≠ [])
      (digitalPlaces : ∀ c ∈ places, isAsciiDigit c = true) :
      SpellsNumber (digits ++ '.' :: places)
        ⟨false, Nat.ofDigitChars 10 (digits ++ places) 0, -(places.length : Int)⟩

def Encloses (opening closing : Char) (text inner : List Char) : Prop :=
  text = opening :: (inner ++ [closing]) ∧ closing ∉ inner

namespace Token

/-- The text of a literal or of a field reference is written as one. -/
def HasForm (t : Token) : Prop :=
  match t.kind with
  | .number => ∃ d, SpellsNumber t.text.toList d
  | .text => ∃ inner, Encloses apostrophe apostrophe t.text.toList inner
  | .field => ∃ inner, Encloses '[' ']' t.text.toList inner
  | _ => True

end Token

def Formed (tokens : List Token) : Prop := ∀ t ∈ tokens, t.HasForm

theorem Formed.suffix {ts rest : List Token} (h : Formed (ts ++ rest)) : Formed rest :=
  fun t ht => h t (List.mem_append_right ts ht)

theorem Formed.tail {t : Token} {rest : List Token} (h : Formed (t :: rest)) : Formed rest :=
  fun u hu => h u (List.mem_cons_of_mem t hu)

/-! ## Productions -/

inductive Category
  | disjunction | conjunction | comparison | sum | product | signed | primary
  deriving DecidableEq, Repr

namespace Category

def tighter? : Category → Option Category
  | disjunction => some conjunction
  | conjunction => some comparison
  | comparison => some sum
  | sum => some product
  | product => some signed
  | signed => some primary
  | primary => none

def level : Category → Nat
  | disjunction => 1
  | conjunction => 2
  | comparison => 3
  | sum => 4
  | product => 5
  | signed => 6
  | primary => 7

theorem level_of_tighter? {c d : Category} (next : c.tighter? = some d) :
    d.level = c.level + 1 := by
  cases c <;> cases next <;> rfl

end Category

/-- The operators that associate to the left: the category of the result and the left operand, how
the operator is written, and the category of the right operand. -/
def infixes : List (Category × String × BinaryOp × Category) := [
    (.disjunction, "||", .or, .conjunction),
    (.conjunction, "&&", .and, .comparison),
    (.sum, "+", .arithmetic .add, .product),
    (.sum, "-", .arithmetic .subtract, .product),
    (.product, "*", .arithmetic .multiply, .signed),
    (.product, "/", .arithmetic .divide, .signed)]

def prefixes : List (String × UnaryOp) := [("!", .not), ("-", .negate), ("+", .plus)]

def comparisonSigns : List (String × Comparison) := [
    ("==", .equal), ("=", .equal), ("!=", .notEqual), ("<", .less), (">", .greater),
    ("<=", .atMost), (">=", .atLeast)]

/-- The comparisons that are tests when `NULL` stands on their right. -/
def nullTests : List (Comparison × StateTest) := [(.equal, .isNull), (.notEqual, .isNotNull)]

def membershipWords : List (String × Bool) := [("in", false), ("not in", true)]

def rangeWords : List (String × Bool) := [("between", false), ("not between", true)]

def stateWords : List (String × StateTest) := [
    ("is null", .isNull), ("is not null", .isNotNull), ("is empty", .isEmpty),
    ("is not empty", .isNotEmpty)]

structure ListedValue where
  comma : Token
  tokens : List Token
  value : Expr

def listedTokens (others : List ListedValue) : List Token :=
  others.flatMap fun o => o.comma :: o.tokens

inductive Derives : Category → List Token → Expr → Prop
  | number {t : Token} {d : Decimal} (kind : t.kind = .number)
      (spelled : SpellsNumber t.text.toList d) :
      Derives .primary [t] (.const ⟨.number, .decimal d⟩)
  | text {t : Token} {inner : List Char} (kind : t.kind = .text)
      (enclosed : Encloses apostrophe apostrophe t.text.toList inner) :
      Derives .primary [t] (.const ⟨.text, .text (String.ofList inner)⟩)
  | null {t : Token} (kind : t.kind = .null) : Derives .primary [t] (.const .null)
  | field {t : Token} {inner : List Char} (kind : t.kind = .field)
      (enclosed : Encloses '[' ']' t.text.toList inner) (visible : ∃ c ∈ inner, isBlank c = false) :
      Derives .primary [t] (.field (String.ofList inner))
  | parenthesized {opening closing : Token} {ts : List Token} {e : Expr}
      (opens : opening.isPunctuation "(") (inside : Derives .disjunction ts e)
      (closes : closing.isPunctuation ")") :
      Derives .primary (opening :: (ts ++ [closing])) e
  | tighter {c d : Category} {ts : List Token} {e : Expr} (next : c.tighter? = some d)
      (same : Derives d ts e) :
      Derives c ts e
  | prefixed {t : Token} {symbol : String} {op : UnaryOp} {ts : List Token} {operand : Expr}
      (known : (symbol, op) ∈ prefixes) (written : t.isSymbol symbol)
      (right : Derives .signed ts operand) :
      Derives .signed (t :: ts) (.unary op operand)
  | infixed {c d : Category} {t : Token} {symbol : String} {op : BinaryOp} {ts us : List Token}
      {left right : Expr} (known : (c, symbol, op, d) ∈ infixes) (first : Derives c ts left)
      (written : t.isSymbol symbol) (second : Derives d us right) :
      Derives c (ts ++ t :: us) (.binary op left right)
  | compared {t : Token} {sign : String} {comparison : Comparison} {ts us : List Token}
      {left right : Expr} (known : (sign, comparison) ∈ comparisonSigns)
      (first : Derives .sum ts left) (written : t.isSymbol sign) (second : Derives .sum us right)
      (proper : right = .const .null → ∀ test, (comparison, test) ∉ nullTests) :
      Derives .comparison (ts ++ t :: us) (.binary (.compare comparison) left right)
  | comparedWithNull {t : Token} {sign : String} {comparison : Comparison} {test : StateTest}
      {ts us : List Token} {left : Expr} (known : (sign, comparison) ∈ comparisonSigns)
      (tested : (comparison, test) ∈ nullTests) (first : Derives .sum ts left)
      (written : t.isSymbol sign) (second : Derives .sum us (.const .null)) :
      Derives .comparison (ts ++ t :: us) (.state test left)
  | like {t : Token} {ts us : List Token} {left right : Expr} (first : Derives .sum ts left)
      (written : t.keyword = "like") (second : Derives .sum us right) :
      Derives .comparison (ts ++ t :: us) (.binary .like left right)
  | notLike {t : Token} {ts us : List Token} {left right : Expr} (first : Derives .sum ts left)
      (written : t.keyword = "not like") (second : Derives .sum us right) :
      Derives .comparison (ts ++ t :: us) (.unary .not (.binary .like left right))
  | between {t and : Token} {word : String} {negated : Bool} {ts us vs : List Token}
      {operand lower upper : Expr} (known : (word, negated) ∈ rangeWords)
      (first : Derives .sum ts operand) (written : t.keyword = word)
      (second : Derives .sum us lower) (joined : and.keyword = "and")
      (third : Derives .sum vs upper) :
      Derives .comparison (ts ++ t :: (us ++ and :: vs)) (.between negated operand lower upper)
  | among {t opening closing : Token} {word : String} {negated : Bool} {ts us : List Token}
      {operand first : Expr} {others : List ListedValue} (known : (word, negated) ∈ membershipWords)
      (tested : Derives .sum ts operand) (written : t.keyword = word)
      (opens : opening.isPunctuation "\x7b") (value : Derives .sum us first)
      (separated : ∀ o ∈ others, o.comma.isPunctuation ",")
      (values : ∀ o ∈ others, Derives .sum o.tokens o.value)
      (closes : closing.isPunctuation "\x7d") :
      Derives .comparison (ts ++ t :: opening :: (us ++ (listedTokens others ++ [closing])))
        (.among negated operand first (others.map ListedValue.value))
  | state {t : Token} {word : String} {test : StateTest} {ts : List Token} {operand : Expr}
      (known : (word, test) ∈ stateWords) (tested : Derives .sum ts operand)
      (written : t.keyword = word) :
      Derives .comparison (ts ++ [t]) (.state test operand)

namespace Derives

theorem ne_nil {c : Category} {ts : List Token} {e : Expr} (h : Derives c ts e) : ts ≠ [] := by
  induction h with
  | tighter _ _ ih => exact ih
  | _ => simp

theorem eq_null {c : Category} {ts : List Token} {e : Expr} (h : Derives c ts e)
    (null : e.isNullConst = true) : e = .const .null := by
  induction h with
  | null => rfl
  | parenthesized _ _ _ ih => exact ih null
  | tighter _ _ ih => exact ih null
  | _ => simp [Expr.isNullConst, Value.isNull] at null

end Derives

end RecordFilter
