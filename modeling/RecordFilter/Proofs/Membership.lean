import RecordFilter.Proofs.Interpreter
import RecordFilter.Proofs.Outcomes

/-!
# Members of sets and values of lists

A compiled test for membership looks a payload up in a set of payloads that are fixed beforehand.
It finds what the comparison with one value after another finds.
-/

namespace RecordFilter

namespace Payload

theorem Fits.isMember_eq_any {p : Payload} {k : Kind} (fits : p.Fits k) (single : k ≠ .collection)
    (members : List Payload) : p.isMember members = members.any fun m => m.same p := by
  rw [isMember, fits.isFindable single, Bool.true_and]

theorem isOneOf_cons {target : Kind} {v w : Value} {values : List Value} {p : Payload} {b : Bool}
    (converted : v.coerce target = .ok w) (others : p.isOneOf target values = .ok b) :
    p.isOneOf target (v :: values) = .ok (w.raw.same p || b) := by
  rw [isOneOf, converted, ok_bind, others]
  cases w.raw.same p <;> rfl

theorem isElementOf_cons {v : Value} {values : List Value} {candidates : List Payload}
    {element : Payload} {b : Bool} (matched : elementPayloads v = .ok candidates)
    (others : element.isElementOf values = .ok b) :
    element.isElementOf (v :: values) = .ok ((candidates.any fun q => q.same element) || b) := by
  rw [isElementOf, matched, ok_bind, others]
  cases candidates.any fun q => q.same element <;> rfl

/-- Looking up each element in a set finds what comparing it with each value finds. -/
theorem anyIsElementOf_eq {values : List Value} {members : List Payload}
    (compared : ∀ element : Payload,
      element.isElementOf values = .ok (members.any fun m => m.same element))
    (items : List Payload) : anyIsElementOf values items = anyIsMember members items := by
  induction items with
  | nil => rfl
  | cons item items ih =>
      rw [anyIsElementOf, anyIsMember, ih]
      congr 1
      funext element
      rw [compared, ok_bind, isMember]

end Payload

end RecordFilter
