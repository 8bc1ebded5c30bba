import Mathlib.Data.List.Forall2
import RecordFilter.Wildcard

/-!
# What a wildcard pattern matches

A text matches a pattern if it can be cut into consecutive pieces, one for each character of the
pattern: a percent sign takes any piece, an underscore takes one character, and every other
character takes one that is the same letter.

A regular expression can be asked instead.  The pattern is written as one in two steps: characters
that mean something else there are escaped, and then the wildcards are replaced.  Neither step
undoes the other, so the expression reads back as one part for each character of the pattern.
-/

namespace RecordFilter

open Text

/-! ## Cutting a text into pieces -/

namespace Wildcard

inductive Takes : Char → List Char → Prop
  | anyRun (piece : List Char) : Takes '%' piece
  | anyChar (d : Char) : Takes '_' [d]
  | letter {c d : Char} (noRun : c ≠ '%') (noChar : c ≠ '_') (same : sameLetter c d = true) :
      Takes c [d]

/-- A text is made of consecutive pieces, one for each character of a pattern in order. -/
def Cuts (pattern text : List Char) : Prop :=
  ∃ pieces : List (List Char), pieces.flatten = text ∧ List.Forall₂ Takes pattern pieces

theorem cuts_nil {text : List Char} : Cuts [] text ↔ text = [] := by
  simp [Cuts, eq_comm]

theorem cuts_cons {c : Char} {pattern text : List Char} :
    Cuts (c :: pattern) text ↔
      ∃ piece rest, text = piece ++ rest ∧ Takes c piece ∧ Cuts pattern rest := by
  constructor
  · rintro ⟨pieces, rfl, takes⟩
    cases takes with
    | cons first others => exact ⟨_, _, rfl, first, _, rfl, others⟩
  · rintro ⟨piece, _, rfl, first, pieces, rfl, others⟩
    exact ⟨piece :: pieces, rfl, .cons first others⟩

theorem cuts_append {before after text : List Char} :
    Cuts (before ++ after) text ↔
      ∃ left right, text = left ++ right ∧ Cuts before left ∧ Cuts after right := by
  induction before generalizing text with
  | nil => simp [cuts_nil]
  | cons c before ih =>
      simp only [List.cons_append, cuts_cons, ih]
      constructor
      · rintro ⟨piece, _, rfl, takes, left, right, rfl, cutLeft, cutRight⟩
        exact ⟨piece ++ left, right, by simp, ⟨piece, left, rfl, takes, cutLeft⟩, cutRight⟩
      · rintro ⟨_, right, rfl, ⟨piece, left, rfl, takes, cutLeft⟩, cutRight⟩
        exact ⟨piece, left ++ right, by simp, takes, left, right, rfl, cutLeft, cutRight⟩

theorem takes_percent {piece : List Char} : Takes '%' piece ↔ True :=
  iff_true_intro (.anyRun piece)

theorem takes_single {c : Char} (single : c ≠ '%') {piece : List Char} :
    Takes c piece ↔ ∃ d, piece = [d] ∧ (ofChar c).accepts d = true := by
  constructor
  · intro takes
    cases takes with
    | anyRun => exact absurd rfl single
    | anyChar d => exact ⟨d, rfl, rfl⟩
    | letter _ noChar same => exact ⟨_, rfl, by simpa [ofChar, single, noChar, accepts] using same⟩
  · rintro ⟨d, rfl, accepted⟩
    by_cases anyChar : c = '_'
    · subst anyChar
      exact .anyChar d
    · exact .letter single anyChar (by simpa [ofChar, single, anyChar, accepts] using accepted)

theorem cuts_single {c : Char} (single : c ≠ '%') {pattern text : List Char} :
    Cuts (c :: pattern) text ↔
      ∃ d rest, text = d :: rest ∧ (ofChar c).accepts d = true ∧ Cuts pattern rest := by
  rw [cuts_cons]
  constructor
  · rintro ⟨_, rest, rfl, takes, cut⟩
    obtain ⟨d, rfl, accepted⟩ := (takes_single single).mp takes
    exact ⟨d, rest, rfl, accepted, cut⟩
  · rintro ⟨d, rest, rfl, accepted, cut⟩
    exact ⟨[d], rest, rfl, (takes_single single).mpr ⟨d, rfl, accepted⟩, cut⟩

/-! ## Matching from the end of a text -/

def matchesWhole (pattern : List Wildcard) (text : List Char) : Bool :=
  (matchTails pattern text).head?.getD false

theorem matchTails_single {w : Wildcard} (single : w ≠ .anyRun) (pattern : List Wildcard)
    (text : List Char) :
    matchTails (w :: pattern) text =
      List.zipWith (fun c flag => w.accepts c && flag) text (matchTails pattern text).tail ++
        [false] := by
  cases w with
  | anyRun => exact absurd rfl single
  | _ => rfl

theorem matchTails_nil (pattern : List Wildcard) : ∃ flag, matchTails pattern [] = [flag] := by
  induction pattern with
  | nil => exact ⟨true, rfl⟩
  | cons w pattern ih =>
      obtain ⟨flag, only⟩ := ih
      by_cases run : w = .anyRun
      · subst run
        rw [matchTails, only]
        exact ⟨_, rfl⟩
      · rw [matchTails_single run]
        exact ⟨false, rfl⟩

theorem matchTails_cons (pattern : List Wildcard) (c : Char) (text : List Char) :
    matchTails pattern (c :: text) =
      matchesWhole pattern (c :: text) :: matchTails pattern text := by
  suffices split : ∃ flag, matchTails pattern (c :: text) = flag :: matchTails pattern text by
    obtain ⟨flag, split⟩ := split
    rw [matchesWhole, split]
    rfl
  induction pattern generalizing c text with
  | nil => exact ⟨false, rfl⟩
  | cons w pattern ih =>
      obtain ⟨flag, split⟩ := ih c text
      by_cases run : w = .anyRun
      · subst run
        rw [matchTails, split]
        exact ⟨_, rfl⟩
      · rw [matchTails_single run, split, List.tail_cons, matchTails_single run]
        cases text with
        | nil =>
            obtain ⟨flag, only⟩ := matchTails_nil pattern
            rw [only]
            exact ⟨_, rfl⟩
        | cons d rest =>
            obtain ⟨flag', split'⟩ := ih d rest
            rw [split']
            exact ⟨_, rfl⟩

theorem matchesWhole_nil (text : List Char) : matchesWhole [] text = text.isEmpty := by
  cases text <;> rfl

theorem matchesWhole_run_nil (pattern : List Wildcard) :
    matchesWhole (.anyRun :: pattern) [] = matchesWhole pattern [] := by
  obtain ⟨flag, only⟩ := matchTails_nil pattern
  rw [matchesWhole, matchesWhole, matchTails, only]
  simp [anyFrom]

theorem matchesWhole_run_cons (pattern : List Wildcard) (c : Char) (text : List Char) :
    matchesWhole (.anyRun :: pattern) (c :: text) =
      (matchesWhole pattern (c :: text) || matchesWhole (.anyRun :: pattern) text) := by
  rw [matchesWhole, matchTails, matchTails_cons]
  rfl

theorem matchesWhole_single_nil {w : Wildcard} (single : w ≠ .anyRun) (pattern : List Wildcard) :
    matchesWhole (w :: pattern) [] = false := by
  rw [matchesWhole, matchTails_single single]
  rfl

theorem matchesWhole_single_cons {w : Wildcard} (single : w ≠ .anyRun) (pattern : List Wildcard)
    (c : Char) (text : List Char) :
    matchesWhole (w :: pattern) (c :: text) = (w.accepts c && matchesWhole pattern text) := by
  rw [matchesWhole, matchTails_single single, matchTails_cons, List.tail_cons]
  cases text with
  | nil =>
      obtain ⟨flag, only⟩ := matchTails_nil pattern
      rw [matchesWhole, only]
      rfl
  | cons d rest =>
      rw [matchTails_cons]
      rfl

theorem matchesWhole_run_iff {pattern : List Wildcard} {text : List Char} :
    matchesWhole (.anyRun :: pattern) text = true ↔
      ∃ piece rest, text = piece ++ rest ∧ matchesWhole pattern rest = true := by
  induction text with
  | nil => simp [matchesWhole_run_nil]
  | cons c text ih =>
      rw [matchesWhole_run_cons, Bool.or_eq_true, ih]
      constructor
      · rintro (here | ⟨piece, rest, rfl, later⟩)
        · exact ⟨[], c :: text, rfl, here⟩
        · exact ⟨c :: piece, rest, rfl, later⟩
      · rintro ⟨piece, rest, split, matched⟩
        cases piece with
        | nil =>
            rw [List.nil_append] at split
            exact .inl (split ▸ matched)
        | cons d piece =>
            cases split
            exact .inr ⟨piece, rest, rfl, matched⟩

theorem ofChar_percent : ofChar '%' = .anyRun := rfl

theorem ofChar_single {c : Char} (single : c ≠ '%') : ofChar c ≠ .anyRun := by
  by_cases anyChar : c = '_' <;> simp [ofChar, single, anyChar]

end Wildcard

open Wildcard

theorem matchesPattern_iff_cuts {pattern text : List Char} :
    matchesPattern pattern text = true ↔ Cuts pattern text := by
  change matchesWhole (pattern.map ofChar) text = true ↔ Cuts pattern text
  induction pattern generalizing text with
  | nil => rw [List.map_nil, matchesWhole_nil, List.isEmpty_iff, cuts_nil]
  | cons c pattern ih =>
      rw [List.map_cons]
      by_cases run : c = '%'
      · subst run
        simp only [ofChar_percent, matchesWhole_run_iff, ih, cuts_cons, takes_percent, true_and]
      · rw [cuts_single run]
        cases text with
        | nil => simp [matchesWhole_single_nil (ofChar_single run)]
        | cons d rest =>
            rw [matchesWhole_single_cons (ofChar_single run), Bool.and_eq_true, ih]
            constructor
            · rintro ⟨accepted, cut⟩
              exact ⟨d, rest, rfl, accepted, cut⟩
            · rintro ⟨_, _, split, accepted, cut⟩
              cases split
              exact ⟨accepted, cut⟩

/-! ## Patterns as regular expressions -/

namespace Regex

/-- What stands for a single character in a regular expression.  The point stands for any
character, also for the end of a line, and letters for themselves in any case. -/
inductive Atom
  | any
  | letter (c : Char)
  deriving DecidableEq, Repr

/-- A part of a regular expression: an atom, or an atom any number of times. -/
inductive Part
  | once (atom : Atom)
  | repeated (atom : Atom)
  deriving DecidableEq, Repr

inductive Symbol
  | atom (a : Atom)
  | star
  deriving DecidableEq, Repr

/-! ### Writing -/

def specials : List Char :=
  ['(', ')', '[', ']', '\x7b', '\x7d', '?', '*', '+', '-', '|', '^', '$', '\\', '.', '&', '~', '#',
    ' ', '\t', '\n', '\r', '\x0b', '\x0c']

def escape (text : List Char) : List Char :=
  text.flatMap fun c => if specials.contains c then ['\\', c] else [c]

def replace (c : Char) (new text : List Char) : List Char :=
  text.flatMap fun d => if d == c then new else [d]

def ofPattern (pattern : List Char) : List Char :=
  replace '_' ['.'] (replace '%' ['.', '*'] (escape pattern))

/-! ### Reading -/

/-- Characters with a meaning that no pattern needs: groups, classes, anchors, alternatives, and
other repetitions. -/
def reserved : List Char := ['(', ')', '[', '\x7b', '+', '?', '^', '$', '|', '\\']

/-- The symbols of a regular expression.  An escaped letter or digit stands for something else than
itself. -/
def symbols? : List Char → Option (List Symbol)
  | [] => some []
  | '\\' :: c :: rest =>
      if c.isAlphanum then none else (symbols? rest).map (.atom (.letter c) :: ·)
  | '.' :: rest => (symbols? rest).map (.atom .any :: ·)
  | '*' :: rest => (symbols? rest).map (.star :: ·)
  | c :: rest =>
      if reserved.contains c then none else (symbols? rest).map (.atom (.letter c) :: ·)

def parts? : List Symbol → Option (List Part)
  | [] => some []
  | .atom a :: .star :: rest => (parts? rest).map (.repeated a :: ·)
  | .atom a :: rest => (parts? rest).map (.once a :: ·)
  | .star :: _ => none

def read? (text : List Char) : Option (List Part) := (symbols? text).bind parts?

/-! ### Matching -/

def Atom.accepts : Atom → Char → Bool
  | any, _ => true
  | letter c, d => sameLetter c d

/-- An atom takes as much of a text as it can, and gives back what the rest needs. -/
def Atom.repeatedThen (a : Atom) (next : List Char → Bool) : List Char → Bool
  | [] => next []
  | c :: text => (a.accepts c && a.repeatedThen next text) || next (c :: text)

def fullMatch : List Part → List Char → Bool
  | [], text => text.isEmpty
  | .once _ :: _, [] => false
  | .once a :: parts, c :: text => a.accepts c && fullMatch parts text
  | .repeated a :: parts, text => a.repeatedThen (fullMatch parts) text

/-! ### What the expression of a pattern reads as -/

def partOf : Wildcard → Part
  | .anyRun => .repeated .any
  | .anyChar => .once .any
  | .letter c => .once (.letter c)

def symbolsOf : Wildcard → List Symbol
  | .anyRun => [.atom .any, .star]
  | .anyChar => [.atom .any]
  | .letter c => [.atom (.letter c)]

theorem ofPattern_cons (c : Char) (pattern : List Char) :
    ofPattern (c :: pattern) = ofPattern [c] ++ ofPattern pattern := by
  simp [ofPattern, escape, replace]

theorem not_isAlphanum_of_special {c : Char} (special : c ∈ specials) :
    c.isAlphanum = false := by
  have all : specials.all (!Char.isAlphanum ·) = true := by decide
  simpa using List.all_eq_true.mp all c special

/-- No wildcard is special, so escaping leaves it alone; and what is replaced is a wildcard of the
pattern, never a part of an escaped character. -/
theorem ofPattern_special {c : Char} (special : c ∈ specials) : ofPattern [c] = ['\\', c] := by
  have noRun : c ≠ '%' := by
    rintro rfl
    revert special
    decide
  have noChar : c ≠ '_' := by
    rintro rfl
    revert special
    decide
  simp [ofPattern, escape, replace, special, noRun, noChar]

theorem ofPattern_plain {c : Char} (plain : c ∉ specials) (noRun : c ≠ '%') (noChar : c ≠ '_') :
    ofPattern [c] = [c] := by
  simp [ofPattern, escape, replace, plain, noRun, noChar]

theorem symbols?_plain {c : Char} (plain : c ∉ specials) (rest : List Char) :
    symbols? (c :: rest) = (symbols? rest).map (.atom (.letter c) :: ·) := by
  have ne {d : Char} (special : d ∈ specials) : c ≠ d := fun same => plain (same ▸ special)
  have free : c ∉ reserved := by
    have all : reserved ⊆ specials := by decide
    exact fun found => plain (all found)
  have backslash := ne (d := '\\') (by decide)
  have point := ne (d := '.') (by decide)
  have star := ne (d := '*') (by decide)
  rw [symbols?]
  · simp [free]
  all_goals simp [backslash, point, star]

theorem symbols?_ofPattern_append (c : Char) (rest : List Char) :
    symbols? (ofPattern [c] ++ rest) = (symbols? rest).map (symbolsOf (.ofChar c) ++ ·) := by
  by_cases run : c = '%'
  · subst run
    change symbols? ('.' :: '*' :: rest) = _
    cases read : symbols? rest <;> simp [symbols?, read, symbolsOf, Wildcard.ofChar_percent]
  by_cases anyChar : c = '_'
  · subst anyChar
    change symbols? ('.' :: rest) = _
    cases read : symbols? rest <;> simp [symbols?, read, symbolsOf, Wildcard.ofChar]
  have letter : symbolsOf (.ofChar c) = [.atom (.letter c)] := by
    simp [Wildcard.ofChar, run, anyChar, symbolsOf]
  rw [letter]
  by_cases special : c ∈ specials
  · rw [ofPattern_special special]
    simp [symbols?, not_isAlphanum_of_special special]
  · rw [ofPattern_plain special run anyChar]
    exact symbols?_plain special rest

theorem symbols?_ofPattern (pattern : List Char) :
    symbols? (ofPattern pattern) = some ((pattern.map Wildcard.ofChar).flatMap symbolsOf) := by
  induction pattern with
  | nil => rfl
  | cons c pattern ih =>
      rw [ofPattern_cons, symbols?_ofPattern_append, ih]
      rfl

theorem head?_symbolsOf (pattern : List Wildcard) :
    (pattern.flatMap symbolsOf).head? ≠ some .star := by
  cases pattern with
  | nil => simp
  | cons w pattern => cases w <;> simp [symbolsOf]

theorem parts?_once {symbols : List Symbol} (unstarred : symbols.head? ≠ some .star) (a : Atom) :
    parts? (.atom a :: symbols) = (parts? symbols).map (.once a :: ·) := by
  rw [parts?]
  rintro rest rfl
  exact unstarred rfl

/-- A star stands only behind the point of a run, since every other star is escaped. -/
theorem parts?_symbolsOf (pattern : List Wildcard) :
    parts? (pattern.flatMap symbolsOf) = some (pattern.map partOf) := by
  induction pattern with
  | nil => rfl
  | cons w pattern ih =>
      cases w with
      | anyRun =>
          change parts? (.atom .any :: .star :: pattern.flatMap symbolsOf) = _
          rw [parts?, ih]
          rfl
      | anyChar | letter c =>
          rw [List.flatMap_cons, symbolsOf, List.singleton_append,
            parts?_once (head?_symbolsOf pattern), ih]
          rfl

theorem read?_ofPattern (pattern : List Char) :
    read? (ofPattern pattern) = some ((pattern.map Wildcard.ofChar).map partOf) := by
  rw [read?, symbols?_ofPattern, Option.bind_some, parts?_symbolsOf]

/-- Giving back character after character finds what the answers for all tails of a text find. -/
theorem repeatedThen_any {next : List Char → Bool} {pattern : List Wildcard}
    (same : ∀ text, next text = Wildcard.matchesWhole pattern text) (text : List Char) :
    Atom.any.repeatedThen next text = Wildcard.matchesWhole (.anyRun :: pattern) text := by
  induction text with
  | nil => rw [Atom.repeatedThen, same, Wildcard.matchesWhole_run_nil]
  | cons c text ih =>
      rw [Atom.repeatedThen, ih, same, Wildcard.matchesWhole_run_cons, Bool.or_comm]
      rfl

theorem fullMatch_partOf (pattern : List Wildcard) (text : List Char) :
    fullMatch (pattern.map partOf) text = Wildcard.matchesWhole pattern text := by
  induction pattern generalizing text with
  | nil => rw [Wildcard.matchesWhole_nil, List.map_nil, fullMatch]
  | cons w pattern ih =>
      cases w with
      | anyRun => exact repeatedThen_any ih text
      | anyChar | letter c =>
          cases text with
          | nil =>
              rw [Wildcard.matchesWhole_single_nil (by simp)]
              rfl
          | cons d text =>
              rw [Wildcard.matchesWhole_single_cons (by simp), ← ih]
              rfl

end Regex

/-- A pattern, written as a regular expression and held against a text as a whole, matches exactly
the texts that can be cut into consecutive pieces, one for each character of the pattern: any piece
for a percent sign, one character for an underscore, and one character that is the same letter for
any other character, whatever it means in regular expressions.  Predicates match their texts without
the detour. -/
theorem fullMatch_ofPattern_iff_cuts (pattern text : List Char) :
    (∃ parts, Regex.read? (Regex.ofPattern pattern) = some parts ∧
      (Regex.fullMatch parts text = true ↔ Cuts pattern text)) ∧
    (matchesPattern pattern text = true ↔ Cuts pattern text) := by
  refine ⟨⟨_, Regex.read?_ofPattern pattern, ?_⟩, matchesPattern_iff_cuts⟩
  rw [Regex.fullMatch_partOf]
  exact matchesPattern_iff_cuts

/-- A backslash is matched as it stands, and the percent sign behind it remains a wildcard. -/
example : Regex.ofPattern ['(', '\\', '%', '_'] = ['\\', '(', '\\', '\\', '.', '*', '.'] := by
  decide

end RecordFilter
