import RecordFilter.Proofs.Definedness
import RecordFilter.Proofs.PrintRoundTrip
import RecordFilter.Query

/-!
# Filters from texts

The constants of a tree that was parsed are numbers, texts and `NULL`.  They hold payloads of their
kinds, and so all that is known of compiled trees is known of compiled texts.
-/

namespace RecordFilter

theorem allWritable_of_parse {text : String} {e : Expr} (h : parse text = .ok e) :
    e.AllWritable := by
  obtain ⟨ts, derived⟩ := derives_of_parse h
  exact derived.allWritable

theorem Value.Literal.fits {v : Value} (h : v.Literal) : v.raw.Fits v.kind := by
  cases h with
  | null => exact .null
  | text => exact .text _
  | number => exact .decimal _

theorem Expr.AllWritable.constantsFit {e : Expr} (h : e.AllWritable) : e.ConstantsFit :=
  fun v found => (h (.const v) found).fits

def Filter.ConstantsFit : Filter → Prop
  | text _ => True
  | tree e => e.ConstantsFit

theorem parseExpression_eq_ok {text : String} {e : Expr} (h : parseExpression text = .ok e) :
    parse text = .ok e := by
  unfold parseExpression at h
  split at h
  · cases h
    assumption
  · cases h

theorem Filter.ConstantsFit.expr {filter : Filter} (constants : filter.ConstantsFit) {e : Expr}
    (h : filter.expr = .ok e) : e.ConstantsFit := by
  cases filter with
  | text s => exact (allWritable_of_parse (parseExpression_eq_ok h)).constantsFit
  | tree e' =>
      cases h
      exact constants

theorem withText_eq_ok {α : Type} {expression : Option String} {result : Compiling α} {a : α} :
    withText expression result = .ok a ↔ result = .ok a := by
  unfold withText
  split <;> simp

theorem Filter.compile_eq_ok {filter : Filter} {r : Resolver} {p : Predicate}
    (h : filter.compile r = .ok p) :
    ∃ e, filter.expr = .ok e ∧ compileTo r filter.expression? e = .ok p := by
  unfold Filter.compile at h
  split at h
  · next e parsed => exact ⟨e, parsed, withText_eq_ok.mp h⟩
  · cases h

end RecordFilter
