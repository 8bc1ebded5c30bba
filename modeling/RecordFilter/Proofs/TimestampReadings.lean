import RecordFilter.Proofs.MomentTexts
import RecordFilter.Value

/-!
# One reading of every timestamp

A timestamp is looked for in a text by several readers, one after the other.  Two readers that
accept a text read the same timestamp from it, so their order does not matter.  The texts of the
patterns differ in their first mark or in the number of characters before it.  An international
form has four digits in front; only the pattern that begins like one shares texts with it, and in
these every field is written in full.
-/

namespace RecordFilter

open Number Text

/-! ## Readers -/

abbrev TimestampReader := List Char → Option Timestamp

def DatePattern.reader (pattern : DatePattern) : TimestampReader :=
  fun text => (pattern.read? text).map fun m => ⟨m, none⟩

def timestampReaders : List TimestampReader :=
  Timestamp.readIso? :: DatePattern.known.map DatePattern.reader

def readMomentBy (readers : List TimestampReader) (s : String) : Except Fault Moment :=
  match readers.findSome? (· (trim s.toList)) with
  | some t =>
      match t.universal? with
      | some m => .ok m
      | none => .error .outsideCalendar
  | none => failed (.textNotTimestamp s)

theorem readMomentBy_timestampReaders (s : String) :
    readMomentBy timestampReaders s = readMoment s := by
  rw [readMomentBy, readMoment, timestampReaders, List.findSome?_cons]
  cases Timestamp.readIso? (trim s.toList) with
  | some t => rfl
  | none =>
      have patterns : (DatePattern.known.map DatePattern.reader).findSome? (· (trim s.toList)) =
          (DatePattern.known.findSome? (·.read? (trim s.toList))).map fun m => ⟨m, none⟩ := by
        rw [List.findSome?_map, List.map_findSome?]
        rfl
      rw [patterns]
      cases DatePattern.known.findSome? (·.read? (trim s.toList)) <;> rfl

theorem findSome?_eq_of_perm {α β : Type} {f : α → Option β} {as bs : List α} (perm : as.Perm bs)
    (agree : ∀ a ∈ as, ∀ b ∈ as, ∀ x y, f a = some x → f b = some y → x = y) :
    as.findSome? f = bs.findSome? f := by
  cases found : bs.findSome? f with
  | none =>
      rw [List.findSome?_eq_none_iff] at found ⊢
      exact fun a member => found a (perm.mem_iff.mp member)
  | some y =>
      obtain ⟨b, member, accepts⟩ := List.exists_of_findSome?_eq_some found
      cases found' : as.findSome? f with
      | none =>
          rw [List.findSome?_eq_none_iff] at found'
          cases (found' b (perm.mem_iff.mpr member)).symm.trans accepts
      | some x =>
          obtain ⟨a, member', accepts'⟩ := List.exists_of_findSome?_eq_some found'
          exact congrArg some (agree a member' b (perm.mem_iff.mpr member) x y accepts' accepts)

/-! ## Fields of patterns -/

inductive FieldText : List Char → Nat → Prop
  | digits {written : List Char} {values : List Nat} (nonempty : written ≠ [])
      (read : written.map digitValue? = values.map some) : FieldText written (ofDigitValues values)
  | spaced {c : Char} {value : Nat} (read : digitValue? c = some value) :
      FieldText [' ', c] (ofDigitValues [value])

def isFieldChar (c : Char) : Bool := c == ' ' || isDigit c

theorem isFieldChar_of_digitValue? {c : Char} {value : Nat} (read : digitValue? c = some value) :
    isFieldChar c = true := by
  simp [isFieldChar, isDigit, read]

namespace FieldText

variable {written behind : List Char} {value : Nat}

theorem nonempty (h : FieldText written value) : written ≠ [] := by
  cases h with
  | digits nonempty => exact nonempty
  | spaced => exact List.cons_ne_nil _ _

theorem all_isFieldChar (h : FieldText written value) : ∀ c ∈ written, isFieldChar c = true := by
  cases h with
  | digits _ read =>
      intro c found
      obtain ⟨value, -, same⟩ := List.mem_map.mp (read ▸ List.mem_map_of_mem found)
      exact isFieldChar_of_digitValue? same.symm
  | spaced read => simpa using ⟨by decide, isFieldChar_of_digitValue? read⟩

theorem head?_ne (h : FieldText written value) {c : Char} (mark : isFieldChar c = false) :
    (written ++ behind).head? ≠ some c := by
  obtain ⟨d, others, rfl⟩ := List.exists_cons_of_ne_nil h.nonempty
  have field := h.all_isFieldChar d List.mem_cons_self
  rintro ⟨⟩
  rw [field] at mark
  cases mark

theorem eq_of_takeNumber? (h : FieldText written value) {count n : Nat} {rest : List Char}
    (narrow : written.length ≤ count) (stops : ∀ c ∈ behind.head?, isAsciiDigit c = false)
    (taken : Timestamp.takeNumber? count (written ++ behind) = some (n, rest)) :
    written.length = count ∧ n = value ∧ rest = behind := by
  simp only [Timestamp.takeNumber?, Option.ite_none_right_eq_some, Bool.and_eq_true,
    decide_eq_true_eq, Option.some.injEq, Prod.mk.injEq] at taken
  obtain ⟨⟨length, digital⟩, rfl, rfl⟩ := taken
  have wide : written.length = count := by
    by_contra short
    cases behind with
    | nil =>
        simp only [List.append_nil, List.length_take] at length
        omega
    | cons c behind =>
        have inside : c ∈ (written ++ c :: behind).take count := by
          rw [List.take_append, List.take_of_length_le narrow]
          obtain ⟨k, more⟩ := Nat.exists_eq_add_of_lt (Nat.lt_of_le_of_ne narrow short)
          simp [more, Nat.add_assoc]
        have digit := List.all_eq_true.mp digital c inside
        rw [stops c rfl] at digit
        cases digit
  have whole : (written ++ behind).take count = written := by
    rw [← wide, List.take_left]
  rw [whole] at digital ⊢
  refine ⟨wide, ?_, by rw [← wide, List.drop_left]⟩
  cases h with
  | @digits _ values _ read =>
      have same : written.map digitValue? = (written.map fun c => c.toNat - 48).map some := by
        rw [List.map_map]
        exact List.map_congr_left fun c found =>
          digitValue?_digit (List.all_eq_true.mp digital c found)
      rw [(List.map_inj_right fun _ _ => Option.some.inj).mp (same.symm.trans read)]
  | spaced => exact absurd digital (by simp [show isAsciiDigit ' ' = false by decide])

end FieldText

namespace DateField

theorem eq_of_readForm? {form : List (Bool × Nat × Nat)} {text behind : List Char}
    {values : List Nat} (h : readForm? form text = some (values, behind)) :
    ∃ written, text = written ++ behind ∧ written.length = form.length ∧
      written.map digitValue? = values.map some := by
  induction form generalizing text values with
  | nil =>
      cases h
      exact ⟨[], rfl, rfl, rfl⟩
  | cons entry form ih =>
      cases text with
      | nil => cases h
      | cons c text =>
          rw [readForm?] at h
          split at h
          · next value read =>
              split_ifs at h
              obtain ⟨⟨others, rest⟩, later, same⟩ := Option.map_eq_some_iff.mp h
              cases same
              obtain ⟨written, rfl, length, reads⟩ := ih later
              exact ⟨c :: written, rfl, by simp [length], by simp [read, reads]⟩
          · cases h

def width (f : DateField) : Nat := if f = year then 4 else 2

theorem fieldText_of_mem_readings {f : DateField} {text behind : List Char} {value : Nat}
    (h : (value, behind) ∈ f.readings text) :
    ∃ written, text = written ++ behind ∧ FieldText written value ∧ written.length ≤ f.width ∧
      (f = year → written.length = f.width) := by
  have plain (h : (value, behind) ∈ f.forms.filterMap fun form =>
      (readForm? form text).map fun read => (ofDigitValues read.1, read.2)) :
      ∃ written, text = written ++ behind ∧ FieldText written value ∧ written.length ≤ f.width ∧
        (f = year → written.length = f.width) := by
    obtain ⟨form, known, h⟩ := List.mem_filterMap.mp h
    obtain ⟨⟨values, rest⟩, read, same⟩ := Option.map_eq_some_iff.mp h
    cases same
    obtain ⟨written, rfl, length, reads⟩ := eq_of_readForm? read
    have sizes : ∀ form ∈ f.forms, form ≠ [] ∧ form.length ≤ f.width ∧
        (f = year → form.length = f.width) := by
      cases f <;> decide
    obtain ⟨some, narrow, full⟩ := sizes form known
    have nonempty : written ≠ [] := by
      rw [← List.length_pos_iff, length]
      exact List.length_pos_iff.mpr some
    exact ⟨written, rfl, .digits nonempty reads, length ▸ narrow, length ▸ full⟩
  unfold readings at h
  split at h
  · next rest =>
      rcases List.mem_append.mp h with h | h
      · exact plain h
      · obtain ⟨⟨values, behind⟩, formed, same⟩ :=
          Option.map_eq_some_iff.mp (Option.mem_toList.mp h)
        cases same
        obtain ⟨written, rfl, length, reads⟩ := eq_of_readForm? formed
        obtain ⟨c, rfl⟩ := List.length_eq_one_iff.mp length
        obtain ⟨value, read, rfl⟩ : ∃ value, digitValue? c = some value ∧ values = [value] := by
          cases values with
          | nil => cases reads
          | cons value values => simpa using reads
        exact ⟨[' ', c], rfl, .spaced read, Nat.le_refl 2, by simp⟩
  · exact plain h

end DateField

/-! ## Readings of patterns -/

namespace DatePattern

open PatternItem DateField

variable {items : DatePattern} {text rest : List Char} {values : List (DateField × Nat)}

theorem mem_readings_field {f : DateField}
    (h : (values, rest) ∈ readings (field f :: items) text) :
    ∃ written behind value others, text = written ++ behind ∧ FieldText written value ∧
      written.length ≤ f.width ∧ (f = year → written.length = f.width) ∧
      (others, rest) ∈ readings items behind ∧ values = (f, value) :: others := by
  obtain ⟨⟨value, behind⟩, read, h⟩ := List.mem_flatMap.mp h
  obtain ⟨⟨others, rest⟩, later, same⟩ := List.mem_map.mp h
  cases same
  obtain ⟨written, rfl, spelled, narrow, full⟩ := fieldText_of_mem_readings read
  exact ⟨written, behind, value, others, rfl, spelled, narrow, full, later, rfl⟩

theorem mem_readings_mark {c : Char} (h : (values, rest) ∈ readings (mark c :: items) text) :
    ∃ behind, text = c :: behind ∧ (values, rest) ∈ readings items behind := by
  cases text with
  | nil => cases h
  | cons d text =>
      rw [readings] at h
      split_ifs at h with same
      · exact ⟨text, by rw [beq_iff_eq.mp same], h⟩
      · cases h

theorem mem_readings_blanks (h : (values, rest) ∈ readings (blanks :: items) text) :
    ∃ c gap behind, text = c :: gap ++ behind ∧ (∀ d ∈ c :: gap, isBlank d = true) ∧
      (values, rest) ∈ readings items behind := by
  cases text with
  | nil => cases h
  | cons c text =>
      rw [readings] at h
      split_ifs at h with blank
      · refine ⟨c, text.takeWhile isBlank, trimLeft text, ?_, ?_, h⟩
        · rw [trimLeft, List.cons_append, List.takeWhile_append_dropWhile]
        · exact List.forall_mem_cons.mpr ⟨blank, fun d => List.mem_takeWhile_imp⟩
      · cases h

theorem mem_readings_nil (h : (values, rest) ∈ readings [] text) : values = [] ∧ text = rest := by
  cases List.mem_singleton.mp h
  exact ⟨rfl, rfl⟩

theorem exists_reading_of_read? {pattern : DatePattern} {m : Moment}
    (read : pattern.read? text = some m) :
    ∃ values, (values, []) ∈ readings pattern text ∧ m.isValid = true ∧ momentOf values = m := by
  unfold read? at read
  split at read
  · next values others all =>
      simp only [Option.ite_none_right_eq_some, Option.some.injEq] at read
      obtain ⟨valid, rfl⟩ := read
      exact ⟨values, by simp [all], valid, rfl⟩
  · cases read

theorem front_of_read? {f : DateField} {c : Char} {m : Moment}
    (read : read? (field f :: mark c :: items) text = some m) :
    ∃ written value behind, text = written ++ c :: behind ∧ FieldText written value ∧
      written.length ≤ f.width ∧ (f = year → written.length = f.width) := by
  obtain ⟨values, member, -, -⟩ := exists_reading_of_read? read
  obtain ⟨written, behind, value, _, rfl, spelled, narrow, full, later, -⟩ :=
    mem_readings_field member
  obtain ⟨behind, rfl, -⟩ := mem_readings_mark later
  exact ⟨written, value, behind, rfl, spelled, narrow, full⟩

theorem front_unique {first second behind behind' : List Char} {c c' : Char} {value value' : Nat}
    (spelled : FieldText first value) (spelled' : FieldText second value')
    (marked : isFieldChar c = false) (marked' : isFieldChar c' = false)
    (same : first ++ c :: behind = second ++ c' :: behind') : first = second ∧ c = c' := by
  have lead {written behind : List Char} {c : Char} {value : Nat} (h : FieldText written value)
      (marked : isFieldChar c = false) :
      (written ++ c :: behind).takeWhile isFieldChar = written := by
    rw [List.takeWhile_append_of_pos h.all_isFieldChar, List.takeWhile_cons, marked]
    exact List.append_nil _
  have equal : first = second := by rw [← lead spelled marked, same, lead spelled' marked']
  subst equal
  exact ⟨rfl, (List.cons.inj (List.append_cancel_left same)).1⟩

end DatePattern

/-! ## The international form of a text that a pattern reads -/

namespace Timestamp

open DateField

theorem takeNumber?_eq_none {count : Nat} (positive : 0 < count) {text : List Char}
    (stops : ∀ c ∈ text.head?, isAsciiDigit c = false) : takeNumber? count text = none := by
  obtain ⟨more, rfl⟩ := Nat.exists_eq_add_of_lt positive
  rw [takeNumber?, if_neg]
  cases text with
  | nil => simp
  | cons c text => simp [stops c rfl]

theorem take_append {written : List Char} {count : Nat} (narrow : written.length ≤ count)
    (behind : List Char) :
    (written ++ behind).take count = written ++ behind.take (count - written.length) := by
  rw [List.take_append, List.take_of_length_le narrow]

theorem seven_le_dateLength (text : List Char) : 7 ≤ dateLength text := by
  simp only [dateLength]
  split_ifs <;> omega

theorem readDate?_of_readIso? {text : List Char} {t : Timestamp} (read : readIso? text = some t) :
    ∃ d, readDate? (text.take (dateLength text)) = some d := by
  simp only [readIso?, Option.ite_none_left_eq_some, Option.bind_eq_bind,
    Option.bind_eq_some_iff] at read
  obtain ⟨-, d, date, -⟩ := read
  exact ⟨d, date⟩

section

variable {written behind : List Char} {value : Nat}

theorem front_of_readIso? {c : Char} {t : Timestamp} (spelled : FieldText written value)
    (narrow : written.length ≤ 4) (mark : isAsciiDigit c = false)
    (read : readIso? (written ++ c :: behind) = some t) :
    written.length = 4 ∧ (c = '-' ∨ c = 'W') := by
  obtain ⟨d, date⟩ := readDate?_of_readIso? read
  obtain ⟨more, length⟩ := Nat.exists_eq_add_of_le (seven_le_dateLength (written ++ c :: behind))
  have front : (written ++ c :: behind).take (7 + more) =
      written ++ c :: behind.take (6 + more - written.length) := by
    rw [take_append (by omega), show 7 + more - written.length = 6 + more - written.length + 1 by
      omega, List.take_succ_cons]
  rw [length, front] at date
  simp only [readDate?, Option.bind_eq_bind, Option.bind_eq_some_iff] at date
  obtain ⟨⟨year, afterYear⟩, taken, date⟩ := date
  obtain ⟨full, -, rfl⟩ := spelled.eq_of_takeNumber? narrow (by rintro _ ⟨⟩; exact mark) taken
  refine ⟨full, ?_⟩
  by_contra other
  rw [not_or] at other
  have unmarked : (some c == some '-') = false := by simp [other.1]
  simp only [List.head?_cons, unmarked, Bool.false_eq_true, if_false] at date
  split at date
  · next same => exact other.2 (List.cons.inj same).1
  · rw [takeNumber?_eq_none (by decide) (by rintro _ ⟨⟩; exact mark)] at date
    cases date

variable {years months days : List Char} {year month day : Nat}

theorem readDate?_dashed {d : Date} (spelledYear : FieldText years year)
    (spelledMonth : FieldText months month) (spelledDay : FieldText days day)
    (full : years.length = 4) (narrowMonth : months.length ≤ 2) (narrowDay : days.length ≤ 2)
    (stops : ∀ c ∈ behind.head?, isAsciiDigit c = false)
    (read : readDate? ((years ++ '-' :: (months ++ '-' :: (days ++ behind))).take 10) = some d) :
    months.length = 2 ∧ days.length = 2 ∧ d = ⟨year, month, day⟩ := by
  have dash : ∀ rest : List Char, ∀ c ∈ ('-' :: rest).head?, isAsciiDigit c = false := by
    rintro rest _ ⟨⟩
    decide
  rw [take_append (by omega), full, List.take_succ_cons, take_append (by omega)] at read
  simp only [readDate?, Option.bind_eq_bind, Option.bind_eq_some_iff] at read
  obtain ⟨⟨year', afterYear⟩, taken, read⟩ := read
  obtain ⟨-, rfl, rfl⟩ := spelledYear.eq_of_takeNumber? (by omega) (dash _) taken
  simp only [List.head?_cons, beq_self_eq_true, if_true, List.tail_cons] at read
  split at read
  · next weekText marked =>
      exact absurd (congrArg List.head? marked) (spelledMonth.head?_ne (by decide))
  · obtain ⟨more, spare⟩ : ∃ more, 5 - months.length = more + 1 := ⟨4 - months.length, by omega⟩
    simp only [spare, List.take_succ_cons, Option.bind_eq_some_iff] at read
    obtain ⟨⟨month', afterMonth⟩, taken, dayText, skipped, ⟨day', rest⟩, takenDay, same⟩ := read
    obtain ⟨two, rfl, rfl⟩ := spelledMonth.eq_of_takeNumber? narrowMonth (dash _) taken
    cases skipped
    obtain rfl : more = 2 := by omega
    have stopsDay : ∀ c ∈ (behind.take (2 - days.length)).head?, isAsciiDigit c = false := by
      intro c found
      rw [List.head?_take] at found
      split_ifs at found
      · cases found
      · exact stops c found
    rw [take_append narrowDay] at takenDay
    obtain ⟨two', rfl, -⟩ := spelledDay.eq_of_takeNumber? narrowDay stopsDay takenDay
    exact ⟨two, two', (Option.some.inj same).symm⟩

theorem dateLength_dashed (full : years.length = 4) (dated : behind.head? ≠ some 'W')
    (long : 3 ≤ behind.length) : dateLength (years ++ '-' :: behind) = 10 := by
  have other : ¬ behind[0]? = some 'W' := by rwa [← List.head?_eq_getElem?]
  simp [dateLength, List.getElem?_append_right, full, other]
  omega

variable {hours minutes seconds : List Char} {hour minute second : Nat}

theorem clockTail?_field (spelled : FieldText written value) :
    clockTail? true (':' :: (written ++ behind)) = some (.more (written ++ behind)) := by
  obtain ⟨c, others, rfl⟩ := List.exists_cons_of_ne_nil spelled.nonempty
  simp [clockTail?]

theorem readClock?_marked {clock : Clock} {complete : Bool} (spelledHour : FieldText hours hour)
    (spelledMinute : FieldText minutes minute) (spelledSecond : FieldText seconds second)
    (narrowHour : hours.length ≤ 2) (narrowMinute : minutes.length ≤ 2)
    (narrowSecond : seconds.length ≤ 2)
    (read : readClock? (hours ++ ':' :: (minutes ++ ':' :: seconds)) = some (clock, complete)) :
    clock = ⟨hour, minute, second, 0⟩ ∧ complete = true := by
  have colon : ∀ rest : List Char, ∀ c ∈ (':' :: rest).head?, isAsciiDigit c = false := by
    rintro rest _ ⟨⟩
    decide
  simp only [readClock?, Option.bind_eq_bind, Option.bind_eq_some_iff] at read
  obtain ⟨⟨hour', afterHour⟩, taken, tail, more, read⟩ := read
  obtain ⟨-, rfl, rfl⟩ := spelledHour.eq_of_takeNumber? narrowHour (colon _) taken
  simp only [List.head?_cons, beq_self_eq_true, clockTail?_field spelledMinute] at more
  cases more
  simp only [Option.bind_eq_some_iff] at read
  obtain ⟨⟨minute', afterMinute⟩, taken, tail, more, read⟩ := read
  obtain ⟨-, rfl, rfl⟩ := spelledMinute.eq_of_takeNumber? narrowMinute (colon _) taken
  rw [← List.append_nil seconds] at more
  simp only [List.head?_cons, beq_self_eq_true, clockTail?_field spelledSecond] at more
  cases more
  simp only [Option.bind_eq_some_iff] at read
  obtain ⟨⟨second', afterSecond⟩, taken, tail, more, read⟩ := read
  obtain ⟨-, rfl, rfl⟩ := spelledSecond.eq_of_takeNumber? narrowSecond (by simp) taken
  cases more
  cases read
  exact ⟨rfl, rfl⟩

end

end Timestamp

/-! ## Agreement -/

namespace DatePattern

open PatternItem DateField

def dashed : DatePattern := [
  field year, mark '-', field month, mark '-', field day, blanks,
  field hour, mark ':', field minute, mark ':', field second]

theorem known_eq : known = [
    dashed,
    [field year, mark '/', field month, mark '/', field day],
    [field month, mark '/', field day, mark '/', field year],
    [field day, mark '.', field month, mark '.', field year]] := rfl

theorem exists_parts_of_dashed {text : List Char} {m : Moment}
    (read : dashed.read? text = some m) :
    ∃ years months days c gap hours minutes seconds,
      text = years ++ '-' :: (months ++ '-' :: (days ++ c ::
        (gap ++ (hours ++ ':' :: (minutes ++ ':' :: seconds))))) ∧
      (FieldText years m.date.year ∧ FieldText months m.date.month ∧ FieldText days m.date.day ∧
        FieldText hours m.hour ∧ FieldText minutes m.minute ∧ FieldText seconds m.second) ∧
      (years.length = 4 ∧ months.length ≤ 2 ∧ days.length ≤ 2 ∧ hours.length ≤ 2 ∧
        minutes.length ≤ 2 ∧ seconds.length ≤ 2) ∧
      (∀ d ∈ c :: gap, isBlank d = true) ∧ m.microsecond = 0 ∧ m.isValid = true := by
  obtain ⟨values, member, valid, rfl⟩ := exists_reading_of_read? read
  obtain ⟨years, text₁, year, values₁, rfl, spelledYear, -, full, member₁, rfl⟩ :=
    mem_readings_field member
  obtain ⟨text₂, rfl, member₂⟩ := mem_readings_mark member₁
  obtain ⟨months, text₃, month, values₂, rfl, spelledMonth, narrowMonth, -, member₃, rfl⟩ :=
    mem_readings_field member₂
  obtain ⟨text₄, rfl, member₄⟩ := mem_readings_mark member₃
  obtain ⟨days, text₅, day, values₃, rfl, spelledDay, narrowDay, -, member₅, rfl⟩ :=
    mem_readings_field member₄
  obtain ⟨c, gap, text₆, rfl, blank, member₆⟩ := mem_readings_blanks member₅
  obtain ⟨hours, text₇, hour, values₄, rfl, spelledHour, narrowHour, -, member₇, rfl⟩ :=
    mem_readings_field member₆
  obtain ⟨text₈, rfl, member₈⟩ := mem_readings_mark member₇
  obtain ⟨minutes, text₉, minute, values₅, rfl, spelledMinute, narrowMinute, -, member₉, rfl⟩ :=
    mem_readings_field member₈
  obtain ⟨text₁₀, rfl, member₁₀⟩ := mem_readings_mark member₉
  obtain ⟨seconds, text₁₁, second, values₆, rfl, spelledSecond, narrowSecond, -, member₁₁, rfl⟩ :=
    mem_readings_field member₁₀
  obtain ⟨rfl, rfl⟩ := mem_readings_nil member₁₁
  refine ⟨years, months, days, c, gap, hours, minutes, seconds, by simp,
    ⟨spelledYear, spelledMonth, spelledDay, spelledHour, spelledMinute, spelledSecond⟩,
    ⟨full rfl, narrowMonth, narrowDay, narrowHour, narrowMinute, narrowSecond⟩, blank, rfl, valid⟩

theorem not_startsZone {c : Char} (h : isFieldChar c = true ∨ isBlank c = true ∨ c = ':') :
    (!Timestamp.startsZone c) = true := by
  have none : ∀ d ∈ ['+', '-', 'Z'], ¬ (isFieldChar d = true ∨ isBlank d = true ∨ d = ':') := by
    decide
  by_contra starts
  simp only [Timestamp.startsZone, Bool.not_eq_true', Bool.not_eq_false, Bool.or_eq_true,
    beq_iff_eq, or_assoc] at starts
  exact none c (by simpa using starts) h

theorem readIso?_of_dashed {text : List Char} {m : Moment} {t : Timestamp}
    (read : dashed.read? text = some m) (iso : Timestamp.readIso? text = some t) :
    t = ⟨m, none⟩ := by
  obtain ⟨years, months, days, c, gap, hours, minutes, seconds, rfl,
    ⟨spelledYear, spelledMonth, spelledDay, spelledHour, spelledMinute, spelledSecond⟩,
    ⟨full, narrowMonth, narrowDay, narrowHour, narrowMinute, narrowSecond⟩, blank, whole,
    valid⟩ := exists_parts_of_dashed read
  generalize clock : hours ++ ':' :: (minutes ++ ':' :: seconds) = time at iso
  have visible {d : Char} (blank : isBlank d = true) : isAsciiDigit d = false := by
    by_contra digit
    rw [Bool.not_eq_false] at digit
    rw [isBlank_digit digit] at blank
    cases blank
  have noZone : ∀ d ∈ gap ++ time, (!Timestamp.startsZone d) = true := by
    intro d found
    apply not_startsZone
    subst clock
    simp only [List.mem_append, List.mem_cons] at found
    rcases found with found | found | rfl | found | rfl | found
    · exact .inr (.inl (blank d (List.mem_cons_of_mem _ found)))
    · exact .inl (spelledHour.all_isFieldChar d found)
    · exact .inr (.inr rfl)
    · exact .inl (spelledMinute.all_isFieldChar d found)
    · exact .inr (.inr rfl)
    · exact .inl (spelledSecond.all_isFieldChar d found)
  have dated : (months ++ '-' :: (days ++ c :: (gap ++ time))).head? ≠ some 'W' :=
    spelledMonth.head?_ne (by decide)
  have month := List.length_pos_iff.mpr spelledMonth.nonempty
  have day := List.length_pos_iff.mpr spelledDay.nonempty
  have long : 3 ≤ (months ++ '-' :: (days ++ c :: (gap ++ time))).length := by
    simp only [List.length_append, List.length_cons]
    omega
  have enough : ¬ (years ++ '-' :: (months ++ '-' :: (days ++ c :: (gap ++ time)))).length < 7 := by
    rw [List.length_append, List.length_cons]
    omega
  rw [Timestamp.readIso?, if_neg enough] at iso
  simp only [Timestamp.dateLength_dashed full dated long, Option.bind_eq_bind,
    Option.bind_eq_some_iff] at iso
  obtain ⟨d, date, iso⟩ := iso
  obtain ⟨twoMonth, twoDay, rfl⟩ := Timestamp.readDate?_dashed spelledYear spelledMonth spelledDay
    full narrowMonth narrowDay (by rintro _ ⟨⟩; exact visible (blank c List.mem_cons_self)) date
  have behind : (years ++ '-' :: (months ++ '-' :: (days ++ c :: (gap ++ time)))).drop 10 =
      c :: (gap ++ time) := by
    have front : (years ++ '-' :: (months ++ '-' :: days)).length = 10 := by
      simp [full, twoMonth, twoDay]
    have split : years ++ '-' :: (months ++ '-' :: (days ++ c :: (gap ++ time))) =
        years ++ '-' :: (months ++ '-' :: days) ++ c :: (gap ++ time) := by simp
    rw [split, ← front, List.drop_left]
  simp only [behind, List.takeWhile_eq_self_iff.mpr noZone, List.dropWhile_eq_nil_iff.mpr noZone,
    Option.bind_eq_some_iff] at iso
  obtain ⟨⟨read, complete⟩, clocked, iso⟩ := iso
  -- A second blank would stand where the hour has to begin.
  have single : gap = [] := by
    cases gap with
    | nil => rfl
    | cons d gap =>
        have stops : ∀ e ∈ (d :: gap ++ time).head?, isAsciiDigit e = false := by
          rintro _ ⟨⟩
          exact visible (blank d (by simp))
        rw [Timestamp.readClock?, Timestamp.takeNumber?_eq_none (by decide) stops] at clocked
        cases clocked
  subst single clock
  obtain ⟨rfl, rfl⟩ := Timestamp.readClock?_marked spelledHour spelledMinute spelledSecond
    narrowHour narrowMinute narrowSecond clocked
  have moment : (⟨m.date, m.hour, m.minute, m.second, 0⟩ : Moment) = m := by rw [← whole]
  simp only [if_true, Timestamp.ofParts?, moment, valid] at iso
  exact (Option.some.inj iso).symm

theorem front_of_known {p : DatePattern} (hp : p ∈ known) :
    ∃ f c items, p = field f :: mark c :: items ∧ c ∈ ['-', '/', '.'] := by
  rw [known_eq] at hp
  simp only [List.mem_cons, List.not_mem_nil, or_false] at hp
  rcases hp with rfl | rfl | rfl | rfl
  all_goals exact ⟨_, _, _, rfl, by decide⟩

theorem known_unique : ∀ p ∈ known, ∀ q ∈ known, p[1]? = q[1]? →
    (p.head? = some (field year) ↔ q.head? = some (field year)) → p = q := by
  decide

theorem isYear_of_length {f : DateField} {written : List Char} (narrow : written.length ≤ f.width)
    (four : written.length = 4) : f = year := by
  cases f with
  | year => rfl
  | _ => simp [width, four] at narrow

theorem eq_of_read? {p q : DatePattern} (hp : p ∈ known) (hq : q ∈ known) {text : List Char}
    {m n : Moment} (read : p.read? text = some m) (read' : q.read? text = some n) : p = q := by
  obtain ⟨f, c, items, rfl, marked⟩ := front_of_known hp
  obtain ⟨g, d, others, rfl, marked'⟩ := front_of_known hq
  obtain ⟨first, value, behind, rfl, spelled, narrow, full⟩ := front_of_read? read
  obtain ⟨second, value', behind', same, spelled', narrow', full'⟩ := front_of_read? read'
  have unfielded : ∀ e ∈ ['-', '/', '.'], isFieldChar e = false := by decide
  obtain ⟨rfl, rfl⟩ := front_unique spelled spelled' (unfielded c marked) (unfielded d marked') same
  refine known_unique _ hp _ hq rfl ?_
  simp only [List.head?_cons, Option.some.injEq, field.injEq]
  constructor
  · rintro rfl
    exact isYear_of_length narrow' (full rfl)
  · rintro rfl
    exact isYear_of_length narrow (full' rfl)

/-- An international form is shared with the pattern with dashes only. -/
theorem eq_dashed_of_readIso? {p : DatePattern} (hp : p ∈ known) {text : List Char} {m : Moment}
    {t : Timestamp} (read : p.read? text = some m) (iso : Timestamp.readIso? text = some t) :
    p = dashed := by
  obtain ⟨f, c, items, rfl, marked⟩ := front_of_known hp
  obtain ⟨written, value, behind, rfl, spelled, narrow, full⟩ := front_of_read? read
  have fits : f.width ≤ 4 := by cases f <;> decide
  have undigit : ∀ e ∈ ['-', '/', '.'], isAsciiDigit e = false := by decide
  obtain ⟨four, dash⟩ :=
    Timestamp.front_of_readIso? spelled (narrow.trans fits) (undigit c marked) iso
  obtain rfl := isYear_of_length narrow four
  have notWeek : c ≠ 'W' := by
    rintro rfl
    exact absurd marked (by decide)
  obtain rfl := dash.resolve_right notWeek
  exact known_unique _ hp _ (by decide) rfl Iff.rfl

end DatePattern

/-! ## The order of the readers -/

/-- Two readers that accept a text read the same timestamp from it. -/
theorem timestampReaders_agree {text : List Char} {reader other : TimestampReader}
    (hr : reader ∈ timestampReaders) (ho : other ∈ timestampReaders) {t u : Timestamp}
    (read : reader text = some t) (read' : other text = some u) : t = u := by
  have shared {p : DatePattern} (hp : p ∈ DatePattern.known) {t u : Timestamp}
      (read : p.reader text = some t) (iso : Timestamp.readIso? text = some u) : t = u := by
    obtain ⟨m, patterned, rfl⟩ := Option.map_eq_some_iff.mp read
    obtain rfl := DatePattern.eq_dashed_of_readIso? hp patterned iso
    exact (DatePattern.readIso?_of_dashed patterned iso).symm
  rcases List.mem_cons.mp hr with rfl | hr <;> rcases List.mem_cons.mp ho with rfl | ho
  · exact Option.some.inj (read.symm.trans read')
  · obtain ⟨q, hq, rfl⟩ := List.mem_map.mp ho
    exact (shared hq read' read).symm
  · obtain ⟨p, hp, rfl⟩ := List.mem_map.mp hr
    exact shared hp read read'
  · obtain ⟨p, hp, rfl⟩ := List.mem_map.mp hr
    obtain ⟨q, hq, rfl⟩ := List.mem_map.mp ho
    obtain ⟨m, readP, -⟩ := Option.map_eq_some_iff.mp read
    obtain ⟨n, readQ, -⟩ := Option.map_eq_some_iff.mp read'
    obtain rfl := DatePattern.eq_of_read? hp hq readP readQ
    exact Option.some.inj (read.symm.trans read')

/-- A text has one timestamp reading at most: all readers that accept it without its blanks read
the same timestamp, so that the moment of the text is the same in whatever order they are tried. -/
theorem readMoment_readerOrder (s : String) :
    (∀ reader ∈ timestampReaders, ∀ other ∈ timestampReaders, ∀ t u,
      reader (trim s.toList) = some t → other (trim s.toList) = some u → t = u) ∧
    ∀ readers : List TimestampReader, readers.Perm timestampReaders →
      readMomentBy readers s = readMoment s := by
  have agree : ∀ reader ∈ timestampReaders, ∀ other ∈ timestampReaders, ∀ t u,
      reader (trim s.toList) = some t → other (trim s.toList) = some u → t = u :=
    fun _ hr _ ho _ _ read read' => timestampReaders_agree hr ho read read'
  refine ⟨agree, fun readers perm => ?_⟩
  have found := findSome?_eq_of_perm (f := (· (trim s.toList))) perm.symm agree
  rw [← readMomentBy_timestampReaders, readMomentBy, readMomentBy, found]

theorem readMoment_readerOrder_reversed :
    let text := "2024-03-05 10:20:30"
    (∃ t u, Timestamp.readIso? (trim text.toList) = some t ∧
      DatePattern.dashed.reader (trim text.toList) = some u ∧ t = u) ∧
      readMomentBy timestampReaders.reverse text = readMoment text := by
  intro text
  have iso : (Timestamp.readIso? (trim text.toList)).isSome = true := by decide +kernel
  have dashed : (DatePattern.dashed.reader (trim text.toList)).isSome = true := by decide +kernel
  obtain ⟨t, iso⟩ := Option.isSome_iff_exists.mp iso
  obtain ⟨u, dashed⟩ := Option.isSome_iff_exists.mp dashed
  obtain ⟨agree, anyOrder⟩ := readMoment_readerOrder text
  refine ⟨⟨t, u, iso, dashed, ?_⟩, anyOrder _ (List.reverse_perm _)⟩
  exact agree _ (by simp [timestampReaders]) _
    (List.mem_cons_of_mem _ (List.mem_map_of_mem (by decide))) t u iso dashed

end RecordFilter
