import RecordFilter.Proofs.CompiledTests
import RecordFilter.Proofs.FieldAccess
import RecordFilter.Proofs.LiteralSearch
import RecordFilter.Proofs.TextSearch

/-!
# Text search and patterns

A text can also be looked for by a filter, which asks for each field whether it matches the text
between two percent signs.  A search compares texts in lower case, a pattern compares letters one by
one.  On ASCII texts this is the same, and then the filter keeps what the search keeps, and fails
where it fails.  Fields that are always Null are searched in vain, but a filter may not name them.
-/

namespace RecordFilter

open Text Wildcard

/-! ## ASCII texts -/

namespace Text

def AllAscii (text : List Char) : Prop := ∀ c ∈ text, isAscii c = true

theorem lowerFrom_of_ascii (inWord : Bool) {text : List Char} (ascii : AllAscii text) :
    lowerFrom inWord text = text.map Char.toLower := by
  have beyond {c : Char} (outside : isAscii c = false) : c ∉ text := by
    intro member
    rw [ascii c member] at outside
    cases outside
  rw [lowerFrom_eq_map inWord (beyond (by decide)) (beyond (by decide))]
  exact List.map_congr_left fun c member => by rw [lowerChar, if_pos (ascii c member)]

theorem sameLetter_iff_of_ascii {c d : Char} (hc : isAscii c = true) (hd : isAscii d = true) :
    sameLetter c d = true ↔ c.toLower = d.toLower := by
  simp [sameLetter, letterKey, hc, hd]

end Text

theorem sameText_iff_of_ascii {text piece : List Char} (ascii : AllAscii text)
    (asciiPiece : AllAscii piece) :
    SameText text piece ↔ text.map Char.toLower = piece.map Char.toLower := by
  induction text generalizing piece with
  | nil => cases piece <;> simp [SameText]
  | cons c text ih =>
      obtain ⟨first, others⟩ := List.forall_mem_cons.mp ascii
      cases piece with
      | nil => simp [SameText]
      | cons d piece =>
          obtain ⟨firstPiece, othersPiece⟩ := List.forall_mem_cons.mp asciiPiece
          rw [SameText, List.forall₂_cons, ← SameText, ih others othersPiece,
            sameLetter_iff_of_ascii first firstPiece, List.map_cons, List.map_cons,
            List.cons.injEq]

theorem lowerText_infix_iff_of_ascii {wanted text : List Char} (ascii : AllAscii wanted)
    (asciiText : AllAscii text) :
    lowerText wanted <:+: lowerText text ↔ ∃ piece, piece <:+: text ∧ SameText wanted piece := by
  rw [lowerText, lowerText, lowerFrom_of_ascii _ ascii, lowerFrom_of_ascii _ asciiText,
    List.infix_map_iff]
  refine exists_congr fun piece => and_congr_right fun found => ?_
  have asciiPiece : AllAscii piece := fun c member => asciiText c (found.subset member)
  exact (sameText_iff_of_ascii ascii asciiPiece).symm

def anywherePattern (t : String) : String := "%" ++ t ++ "%"

theorem occursIn_eq_matchesPattern {t : String} {text : List Char} (ascii : AllAscii t.toList)
    (noRun : '%' ∉ t.toList) (noChar : '_' ∉ t.toList) (asciiText : AllAscii text) :
    occursIn (lowerText t.toList) (lowerText text) =
      matchesPattern (anywherePattern t).toList text := by
  have cut : Cuts (anywherePattern t).toList text ↔
      ∃ piece, piece <:+: text ∧ Cuts t.toList piece := by
    rw [anywherePattern, String.toList_append, String.toList_append]
    exact @cuts_placed .anywhere t.toList text
  rw [Bool.eq_iff_iff, occursIn_iff, matchesPattern_iff_cuts, cut,
    lowerText_infix_iff_of_ascii ascii asciiText]
  simp only [cuts_iff_sameText noRun noChar]

/-! ## Fields -/

section

variable {r : Resolver} {needle : List Char} {record : Payload}

theorem anyFieldContains_append (names others : List String) :
    anyFieldContains r needle record (names ++ others) =
      (anyFieldContains r needle record names >>= fun found =>
        if found then .ok true else anyFieldContains r needle record others) := by
  induction names with
  | nil => rfl
  | cons name names ih =>
      rw [List.cons_append, anyFieldContains, anyFieldContains, ih]
      cases fieldContains r needle name record with
      | error e => rfl
      | ok found => cases found <;> rfl

theorem anyFieldContains_singleton (name : String) :
    anyFieldContains r needle record [name] = fieldContains r needle name record := by
  rw [anyFieldContains]
  cases fieldContains r needle name record with
  | error e => rfl
  | ok found => cases found <;> rfl

theorem fieldContains_eq_isLike {declared : String} {kind : Kind} {pattern : List Char}
    (fits : ∀ p, r.read declared record = .ok p → p.FitsOrNull kind)
    (agree : ∀ text, r.Shows record declared text →
      occursIn needle (lowerText text.toList) = matchesPattern pattern text.toList) :
    fieldContains r needle declared record =
      (r.read declared record >>= fun p => p.isLike pattern (kind == .text)) := by
  rw [fieldContains]
  cases read : r.read declared record with
  | error f => rfl
  | ok p =>
      rw [ok_bind, ok_bind, Payload.isLike]
      cases null : p.isNull with
      | true => rfl
      | false =>
          rw [((fits p read).fits null).patternText]
          cases shown : p.displayed with
          | error f => rfl
          | ok text =>
              change Except.ok _ = Except.ok _
              rw [agree text ⟨p, read, shown⟩]

end

/-! ## Filters that search -/

theorem Term.isTrue_either {read : String → Payload → Except Fault Payload} {record : Payload}
    (t u : Term) :
    ((either t u).eval read record).map Payload.isTrue =
      ((t.eval read record).map Payload.isTrue >>= fun found =>
        if found then .ok true else (u.eval read record).map Payload.isTrue) := by
  rw [Term.eval]
  cases t.eval read record with
  | error f => rfl
  | ok p =>
      change _ = if p.isTrue then _ else _
      rw [ok_bind]
      cases p.isTrue with
      | true => rfl
      | false => cases u.eval read record <;> rfl

/-- A filter is accepted, and on some records it answers as a search of some fields does, failures
included. -/
def AnswersAs (r : Resolver) (records : Payload → Prop) (needle : List Char) (e : Expr)
    (names : List String) : Prop :=
  ∃ t, CompilesAs r e t ∧ ∀ record, records record →
    (t.eval r.read record).map Payload.isTrue = anyFieldContains r needle record names

theorem AnswersAs.either {r : Resolver} {records : Payload → Prop} {needle : List Char}
    {e f : Expr} {names others : List String} (he : AnswersAs r records needle e names)
    (hf : AnswersAs r records needle f others) :
    AnswersAs r records needle (.binary .or e f) (names ++ others) := by
  obtain ⟨t, compiled, answers⟩ := he
  obtain ⟨u, compiled', answers'⟩ := hf
  refine ⟨.either t u, compiled.either compiled', fun record given => ?_⟩
  rw [anyFieldContains_append, ← answers record given, ← answers' record given,
    Term.isTrue_either]

/-! ## Schemas -/

namespace Schema

variable {s : Schema} {lookup : Lookup} {name : String}

def isUsable (s : Schema) (name : String) : Bool := (s.kind? name).any (· != .null)

theorem isUsable_iff : s.isUsable name = true ↔
    ∃ declared kind, s.canonical? name = some declared ∧ s.kind? declared = some kind ∧
      kind ≠ .null := by
  rw [isUsable]
  cases known : s.canonical? name with
  | none => simp [kind?, known]
  | some declared => simp [kind?_canonical known, Option.any_eq_true]

theorem read_of_null {declared : String} {record : Payload}
    (null : s.kind? declared = some .null) : s.read lookup declared record = .ok .null := by
  obtain ⟨name, known, found⟩ := Option.bind_eq_some_iff.mp null
  rw [read, known]
  simp only [found]
  cases lookup.find? record name with
  | none => rfl
  | some p => simp [Payload.normalize]

theorem fieldContains_of_not_isUsable {declared : String} {needle : List Char} {record : Payload}
    (known : s.canonical? name = some declared) (unusable : s.isUsable name = false) :
    fieldContains (s.resolver lookup) needle declared record = .ok false := by
  have null : s.kind? declared = some .null := by
    obtain ⟨kind, found⟩ := Option.isSome_iff_exists.mp (isSome_kind? (canonical?_idem known))
    rw [isUsable, kind?_canonical known, found] at unusable
    simpa [found] using unusable
  have read : (s.resolver lookup).read declared record = .ok .null := read_of_null null
  rw [fieldContains, read]
  rfl

theorem anyFieldContains_usable {needle : List Char} {record : Payload} (names : List String) :
    anyFieldContains (s.resolver lookup) needle record (names.filterMap s.canonical?) =
      anyFieldContains (s.resolver lookup) needle record
        ((names.filter s.isUsable).filterMap s.canonical?) := by
  induction names with
  | nil => rfl
  | cons name names ih =>
      rw [List.filter_cons]
      cases known : s.canonical? name with
      | none =>
          have unusable : s.isUsable name = false := by simp [isUsable, kind?, known]
          rw [List.filterMap_cons_none known, ih, if_neg (by simp [unusable])]
      | some declared =>
          rw [List.filterMap_cons_some known, anyFieldContains]
          split_ifs with usable
          · rw [List.filterMap_cons_some known, anyFieldContains, ih]
          · rw [fieldContains_of_not_isUsable known (by simpa using usable), ok_bind, ih]
            rfl

def ShowsAscii (s : Schema) (lookup : Lookup) (chosen : List String) (record : Payload) : Prop :=
  ∀ declared text, (s.resolver lookup).Searches chosen declared →
    (s.resolver lookup).Shows record declared text → AllAscii text.toList

section

variable (lookup) {chosen : List String} {t : String} (ascii : AllAscii t.toList)
  (noRun : '%' ∉ t.toList) (noChar : '_' ∉ t.toList)

include ascii noRun noChar

theorem answersAs_likePattern (chosenName : name ∈ chosen) (usable : s.isUsable name = true) :
    AnswersAs (s.resolver lookup) (s.ShowsAscii lookup chosen) (lowerText t.toList)
      (Condition.likePattern name (anywherePattern t)).expr ([name].filterMap s.canonical?) := by
  obtain ⟨declared, kind, known, found, some⟩ := isUsable_iff.mp usable
  have field : compileField (s.resolver lookup) name = .ok ⟨kind, .field declared⟩ := by
    change s.canonical? name = _ at known
    change s.kind? declared = _ at found
    simp only [compileField, resolver, known, found]
  refine ⟨.like (anywherePattern t).toList (kind == .text) (.field declared), ?_, ?_⟩
  · refine ⟨booleanNode (.like (anywherePattern t).toList (kind == .text) (.field declared)), ?_,
      rfl, fun read record => rfl⟩
    rw [Condition.likePattern, compileExpr, compileExpr_field, field, compileExpr_const]
    rfl
  · intro record shows
    have searched : (s.resolver lookup).Searches chosen declared := by
      refine ⟨name, ?_, known⟩
      rw [if_neg (by simp [List.ne_nil_of_mem chosenName])]
      exact chosenName
    have fits : ∀ p, (s.resolver lookup).read declared record = .ok p → p.FitsOrNull kind :=
      fun p read => s.keepsKinds lookup declared kind found record p read
    have agree : ∀ text, (s.resolver lookup).Shows record declared text →
        occursIn (lowerText t.toList) (lowerText text.toList) =
          matchesPattern (anywherePattern t).toList text.toList := fun text shown =>
      occursIn_eq_matchesPattern ascii noRun noChar (shows declared text searched shown)
    rw [List.filterMap_cons_some known, List.filterMap_nil, anyFieldContains_singleton,
      fieldContains_eq_isLike fits agree, Term.eval, Term.eval]
    cases (s.resolver lookup).read declared record with
    | error f => rfl
    | ok p =>
        rw [ok_bind, ok_bind]
        cases p.isLike (anywherePattern t).toList (kind == .text) <;> rfl

theorem answersAs_disjunction {names done : List String} {e : Condition}
    (chosenNames : ∀ name ∈ names, name ∈ chosen ∧ s.isUsable name = true)
    (given : AnswersAs (s.resolver lookup) (s.ShowsAscii lookup chosen) (lowerText t.toList) e.expr
      (done.filterMap s.canonical?)) :
    AnswersAs (s.resolver lookup) (s.ShowsAscii lookup chosen) (lowerText t.toList)
      ((names.map (Condition.likePattern · (anywherePattern t))).foldl
        (fun left right => ⟨.binary .or left.expr right.expr⟩) e).expr
      ((done ++ names).filterMap s.canonical?) := by
  induction names generalizing done e with
  | nil => simpa using given
  | cons name names ih =>
      obtain ⟨⟨listed, usable⟩, others⟩ := List.forall_mem_cons.mp chosenNames
      have first := answersAs_likePattern lookup ascii noRun noChar listed usable
      have joined : AnswersAs (s.resolver lookup) (s.ShowsAscii lookup chosen)
          (lowerText t.toList) (e.either (Condition.likePattern name (anywherePattern t))).expr
          ((done ++ [name]).filterMap s.canonical?) := by
        rw [List.filterMap_append]
        exact given.either first
      have rest := ih others joined
      rwa [List.append_assoc, List.singleton_append] at rest

end

end Schema

theorem Schema.anyFieldContains_null {s : Schema} {lookup : Lookup} {needle : List Char}
    (names : List String) :
    anyFieldContains (s.resolver lookup) needle .null names = .ok false := by
  induction names with
  | nil => rfl
  | cons name names ih =>
      have read : (s.resolver lookup).read name .null = .ok .null := s.read_null lookup name
      rw [anyFieldContains, fieldContains, read, ih]
      rfl

theorem filter_eq_filterFound {α : Type} {p : Predicate} {r : Resolver} {needle : List Char}
    {names : List String} {record : α → Payload} {items : List α}
    (same : ∀ item ∈ items, p.accepts (record item) = found r needle names (record item)) :
    p.filter record items = filterFound r needle names record items := by
  induction items with
  | nil => rfl
  | cons item items ih =>
      obtain ⟨first, others⟩ := List.forall_mem_cons.mp same
      rw [Predicate.filter, filterFound, first, ih others]

/-- On ASCII texts a search for a text without wildcards keeps what the filter keeps that asks
whether one of the searched fields matches the text between percent signs, and fails where the
filter fails.  At least one of the chosen names has to mean a field with a kind other than Null.
Both succeed if all searched fields can be read and have a text. -/
theorem searchText_eq_filter {α : Type} (s : Schema) (lookup : Lookup)
    (expression : Option String) (t : String) (chosen : List String) (record : α → Payload)
    (items : List α) (visible : isBlankText t.toList = false) (ascii : AllAscii t.toList)
    (noRun : '%' ∉ t.toList) (noChar : '_' ∉ t.toList)
    (known : ∃ name ∈ chosen, s.isUsable name = true)
    (shows : ∀ item ∈ items, s.ShowsAscii lookup chosen (record item)) :
    ∃ c p, Condition.combine .or "any_of"
        ((chosen.filter s.isUsable).map (Condition.likePattern · (anywherePattern t))) = .ok c ∧
      compileTo (s.resolver lookup) expression c.expr = .ok p ∧
      searchText (s.resolver lookup) (some t) chosen record items = p.filter record items ∧
      ((∀ item ∈ items, (s.resolver lookup).Readable chosen (record item)) →
        ∃ kept, p.filter record items = .ok kept) := by
  obtain ⟨first, others, usable⟩ : ∃ first others, chosen.filter s.isUsable = first :: others := by
    obtain ⟨name, listed, usable⟩ := known
    exact List.exists_cons_of_ne_nil
      (List.ne_nil_of_mem (List.mem_filter.mpr ⟨listed, usable⟩))
  have each : ∀ name ∈ first :: others, name ∈ chosen ∧ s.isUsable name = true := by
    intro name listed
    exact List.mem_filter.mp (usable ▸ listed)
  obtain ⟨usableFirst, usableOthers⟩ := List.forall_mem_cons.mp each
  have start := s.answersAs_likePattern lookup ascii noRun noChar usableFirst.1 usableFirst.2
  obtain ⟨term, compiles, answers⟩ :=
    s.answersAs_disjunction lookup ascii noRun noChar usableOthers start
  obtain ⟨p, compiled, accepts⟩ := compiles.accepted expression
  have some : chosen ≠ [] := List.ne_nil_of_mem usableFirst.1
  have names : searchedFields (s.resolver lookup) chosen = chosen.filterMap s.canonical? := by
    rw [searchedFields, if_neg (by simp [some])]
    rfl
  have same : ∀ item ∈ items, p.accepts (record item) =
      found (s.resolver lookup) (lowerText t.toList)
        (searchedFields (s.resolver lookup) chosen) (record item) := by
    intro item listed
    rw [accepts, answers _ (shows item listed), found, names, List.singleton_append, ← usable,
      ← Schema.anyFieldContains_usable]
    cases here : (record item).isNull with
    | true =>
        rw [Payload.isNull_iff.mp here, Schema.anyFieldContains_null]
        rfl
    | false => rfl
  have equal : searchText (s.resolver lookup) (.some t) chosen record items =
      p.filter record items := by
    rw [searchText, if_neg (by simp [visible]), filter_eq_filterFound same]
  refine ⟨_, p, by rw [usable]; rfl, compiled, equal, fun readable => ?_⟩
  obtain ⟨finds, kept, -⟩ := Schema.searchText_eq visible readable
  exact ⟨_, equal ▸ kept⟩

def titled (title : String) : Payload := .record [("Title", .text title)]

theorem showsAscii_titled {title : String} (ascii : AllAscii title.toList) :
    titleSchema.ShowsAscii .byName ["title"] (titled title) := by
  rintro declared text ⟨chosen, listed, canonical⟩ ⟨p, read, displayed⟩
  obtain rfl : chosen = "title" := List.mem_singleton.mp listed
  have meant : titleSchema.canonical? "title" = some "Title" := by decide
  cases meant.symm.trans canonical
  cases read
  cases displayed
  exact ascii

theorem searchText_eq_filter_titles :
    isBlankText "a.b".toList = false ∧ AllAscii "a.b".toList ∧ '%' ∉ "a.b".toList ∧
    '_' ∉ "a.b".toList ∧ (∃ name ∈ ["title"], titleSchema.isUsable name = true) ∧
    (∀ item ∈ [titled "A.B.", titled "ab"], titleSchema.ShowsAscii .byName ["title"] item) ∧
    ∃ c p, Condition.combine .or "any_of"
        ((["title"].filter titleSchema.isUsable).map
          (Condition.likePattern · (anywherePattern "a.b"))) = .ok c ∧
      compileTo (titleSchema.resolver .byName) none c.expr = .ok p ∧
      p.filter id [titled "A.B.", titled "ab"] = .ok [titled "A.B."] := by
  have visible : isBlankText "a.b".toList = false := by decide
  have ascii : AllAscii "a.b".toList := by unfold AllAscii; decide
  have noRun : '%' ∉ "a.b".toList := by decide
  have noChar : '_' ∉ "a.b".toList := by decide
  have known : ∃ name ∈ ["title"], titleSchema.isUsable name = true := by decide
  have shows : ∀ item ∈ [titled "A.B.", titled "ab"],
      titleSchema.ShowsAscii .byName ["title"] item := by
    have first : AllAscii "A.B.".toList := by unfold AllAscii; decide
    have second : AllAscii "ab".toList := by unfold AllAscii; decide
    simpa using And.intro (showsAscii_titled first) (showsAscii_titled second)
  obtain ⟨c, p, combined, compiled, same, -⟩ := searchText_eq_filter titleSchema .byName none "a.b"
    ["title"] id [titled "A.B.", titled "ab"] visible ascii noRun noChar known shows
  have kept : searchText (titleSchema.resolver .byName) (some "a.b") ["title"] id
      [titled "A.B.", titled "ab"] = .ok [titled "A.B."] := by rfl
  exact ⟨visible, ascii, noRun, noChar, known, shows, c, p, combined, compiled, same ▸ kept⟩

theorem searchText_ne_filter :
    ¬ ∀ (s : Schema) (t : String) (chosen : List String) (items : List Payload),
      isBlankText t.toList = false → AllAscii t.toList → '%' ∉ t.toList → '_' ∉ t.toList →
      (∃ name ∈ chosen, (s.canonical? name).isSome = true) →
      (∀ item ∈ items, s.ShowsAscii .byName chosen item) →
      (∀ item ∈ items, (s.resolver .byName).Readable chosen item) →
      ∃ c p, Condition.combine .or "any_of"
          ((chosen.filter fun name => (s.canonical? name).isSome).map
            (Condition.likePattern · (anywherePattern t))) = .ok c ∧
        compileTo (s.resolver .byName) none c.expr = .ok p ∧
        searchText (s.resolver .byName) (some t) chosen id items = p.filter id items := by
  intro claim
  obtain ⟨c, p, combined, compiled, -⟩ := claim ⟨[("a", .null), ("b", .text)]⟩ "x" ["a", "b"] []
    (by decide) (by unfold AllAscii; decide) (by decide) (by decide) (by decide)
    (List.forall_mem_nil _) (List.forall_mem_nil _)
  cases combined
  have rejected : compileTo (Schema.resolver ⟨[("a", .null), ("b", .text)]⟩ .byName) none
      (.binary .or (Condition.likePattern "a" "%x%").expr
        (Condition.likePattern "b" "%x%").expr) =
      .error (.rejected (.fieldWithoutKind "a")) := by rfl
  cases rejected.symm.trans compiled

end RecordFilter
