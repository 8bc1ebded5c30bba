import Mathlib.Algebra.Group.Nat.Defs
import Mathlib.Data.List.Basic
import Mathlib.Data.List.TakeWhile
import RecordFilter.Expr.Print
import RecordFilter.Proofs.Numerals

/-!
# Texts of moments

The parts of a moment are written with fixed numbers of digits, so that the text of a moment is read
as that moment.  Such a text is never a numeral and never a truth word.
-/

namespace RecordFilter

open Number Text

/-! ## Numbers of a fixed width -/

section

variable {width n : Nat}

theorem length_paddedDigits (positive : 0 < width) (small : n < 10 ^ width) :
    (paddedDigits width n).length = width := by
  have count : digitCount n ≤ width := (Nat.length_toDigits_le_iff (by decide) positive).mpr small
  simp only [paddedDigits, zeros, List.length_append, List.length_replicate]
  unfold digitCount at count ⊢
  omega

theorem isAsciiDigit_of_mem_paddedDigits {c : Char} (h : c ∈ paddedDigits width n) :
    isAsciiDigit c = true := by
  rcases List.mem_append.mp h with h | h
  · exact isAsciiDigit_of_mem_zeros h
  · exact isAsciiDigit_of_mem_digits h

theorem ofDigitChars_paddedDigits : Nat.ofDigitChars 10 (paddedDigits width n) 0 = n := by
  simp [paddedDigits, zeros, Nat.ofDigitChars_append, ofDigitChars_digits]

theorem paddedDigits_eq_cons (width n : Nat) :
    ∃ c rest, paddedDigits width n = c :: rest ∧ isAsciiDigit c = true := by
  have nonempty : paddedDigits width n ≠ [] := by
    simp [paddedDigits, digits, Nat.toDigits_ne_nil]
  obtain ⟨c, rest, same⟩ := List.exists_cons_of_ne_nil nonempty
  exact ⟨c, rest, same, isAsciiDigit_of_mem_paddedDigits (by rw [same]; simp)⟩

theorem takeNumber?_paddedDigits (positive : 0 < width) (small : n < 10 ^ width)
    (rest : List Char) :
    Timestamp.takeNumber? width (paddedDigits width n ++ rest) = some (n, rest) := by
  have length := length_paddedDigits positive small
  have digital : (paddedDigits width n).all isAsciiDigit = true :=
    List.all_eq_true.mpr fun _ => isAsciiDigit_of_mem_paddedDigits
  have taken : (paddedDigits width n ++ rest).take width = paddedDigits width n := by
    rw [List.take_append_of_le_length (by omega), List.take_of_length_le (by omega)]
  have left : (paddedDigits width n ++ rest).drop width = rest := by
    rw [List.drop_append_of_le_length (by omega), List.drop_of_length_le (by omega),
      List.nil_append]
  simp [Timestamp.takeNumber?, taken, left, length, digital, ofDigitValues_map,
    ofDigitChars_paddedDigits]

end

/-! ## Reading what was written -/

namespace Timestamp

theorem readDate?_text {d : Date} (year : d.year < 10000) (month : d.month < 100)
    (day : d.day < 100) : readDate? d.text = some d := by
  have dayText := takeNumber?_paddedDigits (by decide : 0 < 2) day []
  rw [List.append_nil] at dayText
  have monthText := takeNumber?_paddedDigits (by decide : 0 < 2) month ('-' :: paddedDigits 2 d.day)
  rw [readDate?, Date.text, List.append_assoc, List.cons_append,
    takeNumber?_paddedDigits (by decide : 0 < 4) year]
  simp only [Option.bind_eq_bind, Option.bind_some, List.head?_cons, List.tail_cons,
    beq_self_eq_true, if_true]
  -- No month begins with the mark of a week.
  obtain ⟨c, rest, same, digit⟩ := paddedDigits_eq_cons 2 d.month
  have noWeek : c ≠ 'W' := ne_of_digit digit (by decide)
  rw [same, List.cons_append] at monthText ⊢
  split
  · next weekText marked =>
      cases marked
      exact absurd rfl noWeek
  · simp [monthText, dayText, skipMark?]

theorem readFraction?_paddedDigits {n : Nat} (small : n < 1000000) :
    readFraction? (paddedDigits 6 n) = some (n, true) := by
  have length := length_paddedDigits (by decide : 0 < 6) small
  have number := takeNumber?_paddedDigits (by decide : 0 < 6) small []
  rw [List.append_nil] at number
  simp [readFraction?, length, number, powerOfTen, startsEnd]

theorem clockTail?_colon (width n : Nat) (rest : List Char) :
    clockTail? true (':' :: (paddedDigits width n ++ rest)) =
      some (.more (paddedDigits width n ++ rest)) := by
  obtain ⟨c, behind, same, -⟩ := paddedDigits_eq_cons width n
  simp [same, clockTail?]

theorem readClock?_clockText {m : Moment} (hour : m.hour < 100) (minute : m.minute < 100)
    (second : m.second < 100) (microsecond : m.microsecond < 1000000) :
    readClock? m.clockText = some (⟨m.hour, m.minute, m.second, m.microsecond⟩, true) := by
  have two : 0 < 2 := by decide
  have fraction := readFraction?_paddedDigits microsecond
  simp only [readClock?, Moment.clockText, List.append_assoc, List.cons_append,
    takeNumber?_paddedDigits two hour, Option.bind_eq_bind, Option.bind_some, List.head?_cons,
    beq_self_eq_true, clockTail?_colon, takeNumber?_paddedDigits two minute,
    takeNumber?_paddedDigits two second]
  by_cases whole : m.microsecond = 0
  · simp [whole, clockTail?]
  · obtain ⟨c, rest, same, -⟩ := paddedDigits_eq_cons 6 m.microsecond
    rw [if_neg whole]
    rw [same] at fraction ⊢
    simp [clockTail?, fraction]

theorem mem_clockText {m : Moment} {c : Char} (h : c ∈ m.clockText) :
    c ∈ ':' :: '.' :: asciiDigits := by
  have padded : ∀ {width n : Nat}, c ∈ paddedDigits width n → c ∈ ':' :: '.' :: asciiDigits := by
    intro width n found
    have digit := mem_asciiDigits (isAsciiDigit_of_mem_paddedDigits found)
    simp [digit]
  simp only [Moment.clockText, List.mem_append, List.mem_cons] at h
  rcases h with ((h | rfl | h) | rfl | h) | h
  · exact padded h
  · decide
  · exact padded h
  · decide
  · exact padded h
  · split at h
    · cases h
    · rcases List.mem_cons.mp h with rfl | h
      · decide
      · exact padded h

theorem bounds_of_isValid {m : Moment} (valid : m.isValid = true) :
    (m.date.year < 10000 ∧ m.date.month < 100 ∧ m.date.day < 100) ∧
      m.hour < 100 ∧ m.minute < 100 ∧ m.second < 100 ∧ m.microsecond < 1000000 := by
  have days : ∀ days ∈ Date.monthLengths m.date.year, days ≤ 31 := by
    unfold Date.monthLengths
    split <;> decide
  have month : Date.daysInMonth m.date.year m.date.month ≤ 31 := by
    unfold Date.daysInMonth
    cases found : (Date.monthLengths m.date.year)[m.date.month - 1]? with
    | none => simp
    | some n => exact days n (List.mem_of_getElem? found)
  simp only [Moment.isValid, Date.isValid, Bool.and_eq_true, decide_eq_true_eq] at valid
  omega

theorem dateLength_text {d : Date} (year : d.year < 10000) (day : d.day < 100) (c : Char)
    (rest : List Char) :
    dateLength (d.text ++ c :: rest) = 10 := by
  have lengths := length_paddedDigits (by decide : 0 < 4) year
  obtain ⟨e, behind, same, digit⟩ := paddedDigits_eq_cons 2 d.month
  have noWeek : e ≠ 'W' := ne_of_digit digit (by decide)
  have lengthDay := length_paddedDigits (by decide : 0 < 2) day
  simp [dateLength, Date.text, List.getElem?_append_right, lengths, same, noWeek, lengthDay]
  omega

theorem readIso?_text {m : Moment} (valid : m.isValid = true) :
    readIso? (text ' ' ⟨m, none⟩) = some ⟨m, none⟩ := by
  obtain ⟨⟨year, month, day⟩, hour, minute, second, microsecond⟩ := bounds_of_isValid valid
  have length : m.date.text.length = 10 := by
    have four : 0 < 4 := by decide
    have two : 0 < 2 := by decide
    simp [Date.text, length_paddedDigits four year, length_paddedDigits two month,
      length_paddedDigits two day]
  have noZone : ∀ c ∈ m.clockText, (!startsZone c) = true := fun c found =>
    List.all_eq_true.mp (by decide : (':' :: '.' :: asciiDigits).all (!startsZone ·) = true) c
      (mem_clockText found)
  have clock := List.takeWhile_eq_self_iff.mpr noZone
  have zone := List.dropWhile_eq_nil_iff.mpr noZone
  have parts : (m.date.text ++ ' ' :: m.clockText).take 10 = m.date.text ∧
      (m.date.text ++ ' ' :: m.clockText).drop 10 = ' ' :: m.clockText := by
    constructor
    · rw [List.take_append_of_le_length (by omega), List.take_of_length_le (by omega)]
    · rw [List.drop_append_of_le_length (by omega), List.drop_of_length_le (by omega),
        List.nil_append]
  have long : ¬ (m.date.text ++ ' ' :: m.clockText).length < 7 := by
    rw [List.length_append]
    omega
  rw [text, Option.map_none, Option.getD_none, List.append_nil, readIso?, if_neg long]
  simp only [dateLength_text year day, parts.1, parts.2, readDate?_text year month day]
  simp [readClock?_clockText hour minute second microsecond, clock, zone, ofParts?, valid]

end Timestamp

theorem trim_text (m : Moment) :
    trim (Timestamp.text ' ' ⟨m, none⟩) = Timestamp.text ' ' ⟨m, none⟩ := by
  have clock : m.clockText ≠ [] := by simp [Moment.clockText]
  have visible : ∀ c ∈ m.clockText, isBlank c = false := by
    intro c found
    have none : (':' :: '.' :: asciiDigits).all (!isBlank ·) = true := by decide
    simpa using List.all_eq_true.mp none c (Timestamp.mem_clockText found)
  obtain ⟨first, rest, same, digit⟩ := paddedDigits_eq_cons 4 m.date.year
  apply trim_eq_self_of_ends
  · simpa [Timestamp.text, Date.text, same] using isBlank_digit digit
  · intro c last
    refine visible c (List.mem_of_getLast? ?_)
    simpa [Timestamp.text, List.getLast?_append_of_ne_nil, List.getLast?_cons_of_ne_nil, clock]
      using last

theorem readMoment_displayed {m : Moment} (valid : m.isValid = true) :
    readMoment (String.ofList (Timestamp.text ' ' ⟨m, none⟩)) = .ok m := by
  rw [readMoment, String.toList_ofList, trim_text]
  simp [Timestamp.readIso?_text valid, Timestamp.universal?]

/-! ## Digits and a dash -/

theorem mem_lowerFrom_dash {text : List Char} (h : '-' ∈ text) (inWord : Bool) :
    '-' ∈ lowerFrom inWord text := by
  have lowered : lowerChar '-' = '-' := by decide
  induction text generalizing inWord with
  | nil => cases h
  | cons c rest ih =>
      rw [lowerFrom]
      rcases List.mem_cons.mp h with rfl | later
      · simp [lowered]
      · exact List.mem_append_right _ (ih later _)

section

variable {ds : List Char} (nonempty : ds ≠ []) (digital : ∀ c ∈ ds, isAsciiDigit c = true)

include nonempty digital

theorem trim_dashed (rest : List Char) :
    ∃ behind, trim (ds ++ '-' :: rest) = ds ++ '-' :: behind := by
  obtain ⟨c, others, rfl⟩ := List.exists_cons_of_ne_nil nonempty
  have visible : isBlank c = false := isBlank_digit (digital c (by simp))
  have left : trimLeft (c :: others ++ '-' :: rest) = c :: others ++ '-' :: rest := by
    simp [trimLeft, visible]
  have dash : isBlank '-' = false := by decide
  refine ⟨(trimLeft rest.reverse).reverse, ?_⟩
  rw [trim, left, List.reverse_append, List.reverse_cons, List.append_assoc, List.singleton_append]
  simp only [trimLeft, List.dropWhile_append, List.dropWhile_cons, dash]
  split
  · next none =>
      simp [List.isEmpty_iff.mp none]
  · simp

theorem read?_dashed (rest : List Char) : Decimal.read? (ds ++ '-' :: rest) = none := by
  obtain ⟨behind, trimmed⟩ := trim_dashed nonempty digital rest
  have kept : ds.filter (· != '_') = ds := by
    rw [List.filter_eq_self]
    intro c hc
    simpa using ne_of_digit (digital c hc) (by decide)
  have split := splitDigits_append digital ('-' :: behind.filter (· != '_'))
    (by simpa using by decide)
  rw [Decimal.read?, trimmed, List.filter_append, kept, List.filter_cons_of_pos (by decide)]
  obtain ⟨c, others, rfl⟩ := List.exists_cons_of_ne_nil nonempty
  have digit := digital c (by simp)
  rw [List.cons_append] at split ⊢
  simp only [splitSign_digit digit, readNonFinite?_digit digit]
  simp [Decimal.readFinite?, Decimal.readUnbounded?, split, Decimal.readExponent?]

theorem truthOfWord?_dashed (rest : List Char) :
    truthOfWord? (String.ofList (ds ++ '-' :: rest)) = none := by
  obtain ⟨behind, trimmed⟩ := trim_dashed nonempty digital rest
  have plain : ∀ word ∈ trueWords ++ falseWords, '-' ∉ word.toList := by decide
  have dash : '-' ∈ lowerText (ds ++ '-' :: behind) := mem_lowerFrom_dash (by simp) false
  have other : ∀ word ∈ trueWords ++ falseWords,
      String.ofList (lowerText (ds ++ '-' :: behind)) ≠ word := by
    rintro word known rfl
    exact plain _ known (by simpa using dash)
  have unknown : ∀ words ⊆ trueWords ++ falseWords,
      words.contains (String.ofList (lowerText (ds ++ '-' :: behind))) = false := by
    intro words known
    rw [← Bool.not_eq_true, List.contains_iff_mem]
    exact fun found => other _ (known found) rfl
  simp only [truthOfWord?, String.toList_ofList, trimmed,
    unknown trueWords (List.subset_append_left _ _),
    unknown falseWords (List.subset_append_right _ _)]
  rfl

end

/-! ## Literals -/

namespace Moment

def literal (m : Moment) : String := Timestamp.format ⟨m, none⟩ LiteralStyle.standard.dateFormat

theorem toList_literal (m : Moment) :
    m.literal.toList = digits m.date.year ++ '-' :: (paddedDigits 2 m.date.month ++
      '-' :: (paddedDigits 2 m.date.day ++ ' ' :: clockText { m with microsecond := 0 })) := by
  simp [literal, LiteralStyle.standard, Timestamp.format, Timestamp.formatChars,
    Timestamp.directive?, directive?, clockText]

theorem read?_literal (m : Moment) : Decimal.read? m.literal.toList = none := by
  rw [toList_literal]
  exact read?_dashed Nat.toDigits_ne_nil (fun _ => isAsciiDigit_of_mem_digits) _

theorem truthOfWord?_literal (m : Moment) : truthOfWord? m.literal = none := by
  have same := congrArg String.ofList m.toList_literal
  rw [String.ofList_toList] at same
  rw [same]
  exact truthOfWord?_dashed Nat.toDigits_ne_nil (fun _ => isAsciiDigit_of_mem_digits) _

theorem literal_eq_displayed {m : Moment} (year : 1000 ≤ m.date.year) (whole : m.microsecond = 0) :
    m.literal = String.ofList (Timestamp.text ' ' ⟨m, none⟩) := by
  have wide : ¬ digitCount m.date.year ≤ 3 := by
    rw [digitCount, digits, Nat.length_toDigits_le_iff (by decide) (by decide)]
    omega
  have full : paddedDigits 4 m.date.year = digits m.date.year := by
    have none : 4 - digitCount m.date.year = 0 := by omega
    simp [paddedDigits, none, zeros]
  have same : { m with microsecond := 0 } = m := by rw [← whole]
  rw [← String.toList_inj, toList_literal, same, String.toList_ofList]
  simp [Timestamp.text, Date.text, full]

theorem readMoment_literal {m : Moment} (valid : m.isValid = true) (year : 1000 ≤ m.date.year)
    (whole : m.microsecond = 0) : readMoment m.literal = .ok m := by
  rw [literal_eq_displayed year whole, readMoment_displayed valid]

end Moment

end RecordFilter
