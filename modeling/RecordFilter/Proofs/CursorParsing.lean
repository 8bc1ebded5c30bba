import Mathlib.Data.List.TakeWhile
import RecordFilter.Expr.Tape
import RecordFilter.Proofs.FirstWrongToken

/-!
# The cursor stays in front of the end

The parser that moves a cursor gives what the parser of lists gives for the tokens up to the first
end of text.  Its functions call each other at places further on only behind a token that they have
moved on from, and none of them moves on from the end.  So the number of tokens up to the end goes
down with the calls, and nothing depends on what is behind it.

That the cursor cannot move on from its last place is not used: it would not get that far.
-/

namespace RecordFilter

open TokenTape

/-! ## Steps of the cursor -/

namespace TapeReading

variable {α β : Type} {x : TapeReading α} {next : α → TapeReading β} {place later : Nat}

theorem runAt_get (place : Nat) :
    (get : TapeReading Nat).runAt place = some (.ok place, place) := rfl

theorem runAt_set (place later : Nat) :
    (set later : TapeReading PUnit).runAt place = some (.ok ⟨⟩, later) := rfl

theorem runAt_liftM (a : α) (place : Nat) :
    (liftM (some a) : TapeReading α).runAt place = some (.ok a, place) := rfl

theorem runAt_bind_ok {a : α} (h : x.runAt place = some (.ok a, later)) :
    (x >>= next).runAt place = (next a).runAt later := by
  simp only [runAt, ExceptT.run_bind, StateT.run_bind] at h ⊢
  rw [h]
  rfl

theorem runAt_bind_error {e : ParseError} (h : x.runAt place = some (.error e, later)) :
    (x >>= next).runAt place = some (.error e, later) := by
  simp only [runAt, ExceptT.run_bind, StateT.run_bind] at h ⊢
  rw [h]
  rfl

end TapeReading

namespace TokenTape

open TapeReading

variable {tape : TokenTape} {α : Type} {place later : Nat}

theorem runAt_current_bind {t : Token} (on : tape.tokens[place]? = some t)
    (next : Token → TapeReading α) :
    (tape.current >>= next).runAt place = (next t).runAt place := by
  refine runAt_bind_ok ?_
  rw [current, runAt_bind_ok (runAt_get place), on]
  exact runAt_liftM t place

theorem runAt_advance (moves : tape.next? place = some later) :
    tape.advance.runAt place = some (.ok (), later) := by
  rw [advance, runAt_bind_ok (runAt_get place), moves, runAt_bind_ok (runAt_liftM later place)]
  exact runAt_set place later

theorem runAt_advance_bind (moves : tape.next? place = some later) (next : Unit → TapeReading α) :
    (tape.advance >>= next).runAt place = (next ()).runAt later :=
  runAt_bind_ok (runAt_advance moves)

end TokenTape

/-! ## Where the cursor is -/

/-- A tape has the tokens `before` and then an end of text, whatever is behind it, and the cursor
moves on from each of these tokens to the one behind. -/
structure TokenTape.Offers (tape : TokenTape) (before : List Token) (finish : Token) : Prop where
  tokens : ∃ behind, tape.tokens = before ++ finish :: behind
  only : ∀ t ∈ before, t.kind ≠ .finish
  ends : finish.kind = .finish
  moves : ∀ place < before.length, tape.next? place = some (place + 1)

inductive Stands (tape : TokenTape) (before : List Token) (finish : Token) (place : Nat) :
    List Token → Prop
  | finish (on : tape.tokens[place]? = some finish) : Stands tape before finish place []
  | token (t : Token) (on : tape.tokens[place]? = some t)
      (moves : tape.next? place = some (place + 1)) (inside : place + 1 ≤ before.length) :
      Stands tape before finish place (t :: before.drop (place + 1))

section

variable {tape : TokenTape} {before : List Token} {finish : Token} {place least : Nat}

theorem TokenTape.Offers.stands (offers : tape.Offers before finish)
    (inside : place ≤ before.length) : Stands tape before finish place (before.drop place) := by
  obtain ⟨behind, tokens⟩ := offers.tokens
  rcases Nat.lt_or_eq_of_le inside with shorter | rfl
  · rw [List.drop_eq_getElem_cons shorter]
    refine .token _ ?_ (offers.moves place shorter) shorter
    rw [tokens, List.getElem?_append_left shorter, List.getElem?_eq_getElem shorter]
  · rw [List.drop_length]
    refine .finish ?_
    rw [tokens, List.getElem?_append_right (Nat.le_refl _), Nat.sub_self]
    rfl

/-! ## Agreement with the parser of lists -/

/-- What is read with the cursor is what is taken from the front of a list.  Then the cursor is past
what was taken, at the place `least` or behind it, and in any case not past the end of text. -/
inductive KeepsUp {α : Type} (before : List Token) (least : Nat) :
    Option (Except ParseError α × Nat) → Except ParseError (α × List Token) → Prop
  | ok (a : α) {place : Nat} (reached : least ≤ place) (inside : place ≤ before.length) :
      KeepsUp before least (some (.ok a, place)) (.ok (a, before.drop place))
  | error (e : ParseError) {place : Nat} (inside : place ≤ before.length) :
      KeepsUp before least (some (.error e, place)) (.error e)

namespace KeepsUp

open TapeReading

variable {α β : Type} {x : TapeReading α} {next : α → TapeReading β} {goal : Nat}

theorem mono {read : Option (Except ParseError α × Nat)}
    {taken : Except ParseError (α × List Token)} (h : KeepsUp before least read taken)
    (less : goal ≤ least) : KeepsUp before goal read taken := by
  cases h with
  | ok a reached inside => exact .ok a (Nat.le_trans less reached) inside
  | error e inside => exact .error e inside

theorem bind {taken : Except ParseError (α × List Token)}
    {step : α × List Token → Except ParseError (β × List Token)}
    (h : KeepsUp before least (x.runAt place) taken)
    (later : ∀ a place, least ≤ place → place ≤ before.length →
      KeepsUp before goal ((next a).runAt place) (step (a, before.drop place))) :
    KeepsUp before goal ((x >>= next).runAt place) (taken >>= step) := by
  generalize read : x.runAt place = result at h
  cases h with
  | ok a reached inside =>
      rw [runAt_bind_ok read]
      exact later a _ reached inside
  | error e inside =>
      rw [runAt_bind_error read]
      exact .error e inside

theorem check {result : Except ParseError α} {step : α → Except ParseError (β × List Token)}
    (h : x.runAt place = some (result, place)) (inside : place ≤ before.length)
    (later : ∀ a, KeepsUp before goal ((next a).runAt place) (step a)) :
    KeepsUp before goal ((x >>= next).runAt place) (result >>= step) := by
  cases result with
  | ok a =>
      rw [runAt_bind_ok h]
      exact later a
  | error e =>
      rw [runAt_bind_error h]
      exact .error e inside

theorem ofExcept (result : Except ParseError α) (reached : least ≤ place)
    (inside : place ≤ before.length) :
    KeepsUp before least ((ofExcept result : TapeReading α).runAt place)
      (result.map (·, before.drop place)) := by
  cases result with
  | ok a => exact .ok a reached inside
  | error e => exact .error e inside

end KeepsUp

/-! ## Single tokens -/

theorem TokenTape.Offers.inert (offers : tape.Offers before finish) : finish.Inert :=
  Token.inert_of_kind offers.ends (by decide)

theorem skip_keepsUp (offers : tape.Offers before finish) {expect : Reader Unit}
    {wanted : Token → Bool} {problem : Token → ParseProblem}
    (expects : Expects expect wanted problem) (inside : place ≤ before.length) :
    KeepsUp before (place + 1) ((tape.skip wanted problem).runAt place)
      (expect finish (before.drop place)) := by
  have stands := offers.stands inside
  generalize before.drop place = tokens at stands
  rw [skip]
  cases stands with
  | finish on =>
      have other := expects.inert finish offers.inert
      rw [runAt_current_bind on, if_neg (by simp [other]), expects.nothing]
      exact .error _ inside
  | token t on moves inside' =>
      rw [runAt_current_bind on]
      split_ifs with here
      · rw [expects.takes finish t _ here, runAt_advance moves]
        exact .ok () (Nat.le_refl _) inside'
      · rw [expects.fails finish t _ (by simpa using here)]
        exact .error _ inside

theorem skipMark_keepsUp (offers : tape.Offers before finish) (mark : String)
    (problem : Option String → ParseProblem)
    (reported : ∀ found position, (⟨problem found, position⟩ : ParseError).isUnclosed = false)
    (inside : place ≤ before.length) :
    KeepsUp before (place + 1) ((tape.skipMark mark problem).runAt place)
      (outcome (expectMark finish mark problem (before.drop place))) :=
  skip_keepsUp offers (expectMark_expects mark reported) inside

theorem skipAnd_keepsUp (offers : tape.Offers before finish) (operator : String)
    (inside : place ≤ before.length) :
    KeepsUp before (place + 1) ((tape.skipAnd operator).runAt place)
      (outcome (expectAnd finish operator (before.drop place))) :=
  skip_keepsUp offers (expectAnd_expects operator) inside

theorem runAt_refuseEmpty (offers : tape.Offers before finish) (operator : String)
    (inside : place ≤ before.length) :
    (tape.refuseEmpty operator).runAt place =
      some (RecordFilter.refuseEmpty operator (before.drop place), place) := by
  have stands := offers.stands inside
  generalize before.drop place = tokens at stands
  rw [TokenTape.refuseEmpty]
  cases stands with
  | finish on =>
      rw [runAt_current_bind on, if_neg (offers.inert.not_isPunctuation _)]
      rfl
  | token t on moves inside' =>
      rw [runAt_current_bind on]
      split_ifs with closes
      · rw [refuseEmpty_fail closes]
        rfl
      · rw [refuseEmpty_cons closes]
        rfl

/-! ## Trees -/

def TiersKeepUp (tape : TokenTape) (before : List Token) (finish : Token) (n : Nat) : Prop :=
  ∀ (tier : Tier) (place : Nat), place ≤ before.length → before.length < place + n →
    KeepsUp before (place + 1) ((tape.readTier tier).runAt place)
      (outcome (parseTier finish tier (before.drop place)))

variable {n : Nat}

theorem readPrimary_keepsUp (offers : tape.Offers before finish)
    (shorter : TiersKeepUp tape before finish n) {t : Token} (on : tape.tokens[place]? = some t)
    (moves : tape.next? place = some (place + 1)) (inside : place + 1 ≤ before.length)
    (bound : before.length < place + 1 + n) :
    KeepsUp before (place + 1) (tape.readPrimary.runAt place)
      (outcome (parsePrimary finish t (before.drop (place + 1)))) := by
  rw [readPrimary, runAt_current_bind on, outcome_parsePrimary]
  split_ifs with opens isField isLiteral
  · rw [runAt_advance_bind moves]
    refine (shorter .disjunction _ inside bound).bind fun e later reached inside => ?_
    have closing := skipMark_keepsUp offers ")" .openParenthesis (fun _ _ => rfl) inside
    refine closing.bind fun _ last reached' inside => ?_
    exact .ok e (by omega) inside
  · rw [runAt_advance_bind moves]
    exact .ofExcept _ (Nat.le_refl _) inside
  · rw [runAt_advance_bind moves]
    cases t.literal with
    | ok v => exact .ok _ (Nat.le_refl _) inside
    | error e => exact .error e inside
  · exact .error _ (Nat.le_of_succ_le inside)

theorem readSigned_keepsUp (offers : tape.Offers before finish)
    (shorter : TiersKeepUp tape before finish n) {place : Nat} (inside : place ≤ before.length)
    (bound : before.length < place + (n + 1)) :
    KeepsUp before (place + 1) (tape.readSigned.runAt place)
      (outcome (parseSigned finish (before.drop place))) := by
  have stands := offers.stands inside
  generalize before.drop place = tokens at stands
  rw [readSigned]
  cases stands with
  | finish on =>
      rw [runAt_current_bind on, offers.inert.sign?_eq_none, outcome_parseSigned_nil]
      dsimp only
      rw [readPrimary, runAt_current_bind on, if_neg (offers.inert.not_isPunctuation _)]
      simp only [offers.ends]
      exact .error _ inside
  | token t on moves inside' =>
      rw [runAt_current_bind on]
      cases sign : t.sign? with
      | none =>
          rw [outcome_parseSigned_primary finish sign]
          exact readPrimary_keepsUp offers shorter on moves inside' (by omega)
      | some op =>
          rw [outcome_parseSigned_sign finish sign]
          dsimp only
          rw [runAt_advance_bind moves]
          have operand := readSigned_keepsUp offers shorter inside' (by omega)
          refine operand.bind fun e later reached inside => ?_
          exact .ok _ (by omega) inside
  termination_by before.length - place

theorem readChain_keepsUp (offers : tape.Offers before finish) {tier : Tier}
    (operand : ∀ place ≤ before.length, before.length < place + n →
      KeepsUp before (place + 1) ((tape.readOperand tier).runAt place)
        (outcome (parseOperand finish tier (before.drop place))))
    (left : Expr) {place : Nat} (inside : place ≤ before.length)
    (bound : before.length < place + (n + 1)) :
    KeepsUp before place ((tape.readChain tier left).runAt place)
      (outcome (parseChain finish tier left (before.drop place))) := by
  have alone := KeepsUp.ok left (Nat.le_refl place) inside
  have stands := offers.stands inside
  generalize before.drop place = tokens at stands alone
  rw [readChain]
  cases stands with
  | finish on =>
      rw [runAt_current_bind on, Token.operator?_of_kind offers.inert.symbol,
        outcome_parseChain_nil]
      exact alone
  | token t on moves inside' =>
      rw [runAt_current_bind on]
      cases operator : tier.operator? t with
      | none =>
          rw [outcome_parseChain_stop finish operator]
          exact alone
      | some op =>
          rw [outcome_parseChain_cons finish operator]
          dsimp only
          rw [runAt_advance_bind moves]
          refine (operand _ inside' (by omega)).bind fun right later reached inside => ?_
          have chain := readChain_keepsUp offers operand (.binary op left right) inside (by omega)
          exact chain.mono (by omega)
  termination_by before.length - place

theorem readTier_keepsUp (offers : tape.Offers before finish) {tier : Tier}
    (operand : ∀ place ≤ before.length, before.length < place + (n + 1) →
      KeepsUp before (place + 1) ((tape.readOperand tier).runAt place)
        (outcome (parseOperand finish tier (before.drop place))))
    (inside : place ≤ before.length) (bound : before.length < place + (n + 1)) :
    KeepsUp before (place + 1) ((tape.readTier tier).runAt place)
      (outcome (parseTier finish tier (before.drop place))) := by
  rw [readTier, outcome_parseTier]
  refine (operand place inside bound).bind fun left later reached inside => ?_
  have chain := readChain_keepsUp offers operand left inside (by omega)
  exact chain.mono reached

theorem readItems_keepsUp (offers : tape.Offers before finish)
    (shorter : TiersKeepUp tape before finish n) {place : Nat} (inside : place ≤ before.length)
    (bound : before.length < place + (n + 1)) :
    KeepsUp before place (tape.readItems.runAt place)
      (outcome (parseItems finish (before.drop place))) := by
  have none := KeepsUp.ok ([] : List Expr) (Nat.le_refl place) inside
  have stands := offers.stands inside
  generalize before.drop place = tokens at stands none
  rw [readItems]
  cases stands with
  | finish on =>
      rw [runAt_current_bind on, if_neg (offers.inert.not_isPunctuation _),
        outcome_parseItems_nil]
      exact none
  | token t on moves inside' =>
      rw [runAt_current_bind on]
      split_ifs with comma
      · rw [outcome_parseItems_cons finish comma, runAt_advance_bind moves]
        refine (shorter .sum _ inside' (by omega)).bind fun item later reached inside => ?_
        have items := readItems_keepsUp offers shorter inside (by omega)
        refine items.bind fun others last reached' inside => ?_
        exact .ok _ (by omega) inside
      · rw [outcome_parseItems_stop finish comma]
        exact none
  termination_by before.length - place

theorem readTail_keepsUp (offers : tape.Offers before finish)
    (shorter : TiersKeepUp tape before finish n) (left : Expr) (inside : place ≤ before.length)
    (bound : before.length < place + (n + 1)) :
    KeepsUp before place ((tape.readTail left).runAt place)
      (outcome (parseTail finish left (before.drop place))) := by
  have alone := KeepsUp.ok left (Nat.le_refl place) inside
  have stands := offers.stands inside
  generalize before.drop place = tokens at stands alone
  rw [readTail]
  cases stands with
  | finish on =>
      rw [runAt_current_bind on, offers.inert.tail?_eq_none, outcome_parseTail_nil]
      exact alone
  | token t on moves inside' =>
      rw [runAt_current_bind on, outcome_parseTail_cons]
      have next := shorter .sum _ inside' (by omega)
      cases t.tail? with
      | none => exact alone
      | some tail =>
          cases tail with
          | compare c | like negated =>
              dsimp only
              rw [runAt_advance_bind moves]
              refine next.bind fun right later reached inside => ?_
              exact .ok _ (by omega) inside
          | between negated =>
              dsimp only
              rw [runAt_advance_bind moves]
              refine next.bind fun lower later reached inside => ?_
              refine (skipAnd_keepsUp offers t.text inside).bind fun _ later' reached' inside => ?_
              refine (shorter .sum _ inside (by omega)).bind fun upper last reached'' inside => ?_
              exact .ok _ (by omega) inside
          | among negated =>
              dsimp only
              rw [runAt_advance_bind moves]
              have opening := skipMark_keepsUp offers "\x7b" (.noValueList t.text)
                (fun _ _ => rfl) inside'
              refine opening.bind fun _ opened reached inside => ?_
              refine .check (runAt_refuseEmpty offers t.text inside) inside fun _ => ?_
              refine (shorter .sum _ inside (by omega)).bind fun first later reached' inside => ?_
              have items := readItems_keepsUp offers shorter inside (by omega)
              refine items.bind fun others later' reached'' inside => ?_
              have closing := skipMark_keepsUp offers "\x7d" (.openValueList t.text)
                (fun _ _ => rfl) inside
              refine closing.bind fun _ last closed inside => ?_
              exact .ok _ (by omega) inside
          | state test =>
              dsimp only
              rw [runAt_advance_bind moves]
              exact .ok _ (Nat.le_succ place) inside'
          | bareIs => exact .error _ inside

theorem tiersKeepUp (offers : tape.Offers before finish) (n : Nat) :
    TiersKeepUp tape before finish n := by
  induction n with
  | zero => exact fun _ _ inside bound => absurd inside (Nat.not_le_of_lt bound)
  | succ n shorter =>
      -- The tiers from the tightest on, as each takes its operands from the one before.
      have products : ∀ place ≤ before.length, before.length < place + (n + 1) →
          KeepsUp before (place + 1) ((tape.readTier .product).runAt place)
            (outcome (parseTier finish .product (before.drop place))) :=
        fun place => readTier_keepsUp offers fun place inside bound => by
          rw [readOperand, parseOperand]
          exact readSigned_keepsUp offers shorter inside bound
      have sums : ∀ place ≤ before.length, before.length < place + (n + 1) →
          KeepsUp before (place + 1) ((tape.readTier .sum).runAt place)
            (outcome (parseTier finish .sum (before.drop place))) :=
        fun place => readTier_keepsUp offers fun place inside bound => by
          rw [readOperand, parseOperand]
          exact products place inside bound
      have conjunctions : ∀ place ≤ before.length, before.length < place + (n + 1) →
          KeepsUp before (place + 1) ((tape.readTier .conjunction).runAt place)
            (outcome (parseTier finish .conjunction (before.drop place))) :=
        fun place => readTier_keepsUp offers fun place inside bound => by
          rw [readOperand, parseOperand, readComparison, outcome_parseComparison]
          refine (sums place inside bound).bind fun left later reached inside => ?_
          exact (readTail_keepsUp offers shorter left inside (by omega)).mono reached
      intro tier place inside bound
      cases tier with
      | product => exact products place inside bound
      | sum => exact sums place inside bound
      | conjunction => exact conjunctions place inside bound
      | disjunction =>
          refine readTier_keepsUp offers ?_ inside bound
          intro place inside bound
          rw [readOperand, parseOperand]
          exact conjunctions place inside bound

/-! ## Whole lists -/

theorem runAt_readAll (offers : tape.Offers before finish) :
    ∃ place ≤ before.length, tape.readAll.runAt 0 = some (parseBefore finish before, place) := by
  have ends : isFinish finish := by simp [isFinish, offers.ends]
  have going (t : Token) (found : t ∈ before) : ¬ isFinish t := by
    simpa [isFinish] using offers.only t found
  rw [readAll]
  cases before with
  | nil =>
      cases offers.stands (Nat.zero_le _) with
      | finish on =>
          rw [runAt_current_bind on, if_pos ends]
          exact ⟨0, Nat.le_refl 0, rfl⟩
  | cons t rest =>
      have on : tape.tokens[0]? = some t := by
        cases offers.stands (Nat.zero_le _) with
        | token _ on _ _ => exact on
      rw [runAt_current_bind on, if_neg (going t List.mem_cons_self),
        parseBefore_eq finish (List.cons_ne_nil t rest)]
      have whole := tiersKeepUp offers (rest.length + 2) .disjunction 0 (Nat.zero_le _) (by simp)
      rw [List.drop_zero] at whole
      generalize outcome (parseTier finish .disjunction (t :: rest)) = taken at whole
      generalize read : (tape.readTier .disjunction).runAt 0 = result at whole
      cases whole with
      | error e inside =>
          rw [TapeReading.runAt_bind_error read]
          exact ⟨_, inside, rfl⟩
      | @ok e place _ inside =>
          rw [TapeReading.runAt_bind_ok read]
          refine ⟨place, inside, ?_⟩
          have stands := offers.stands inside
          generalize behind : (t :: rest).drop place = tokens at stands
          cases stands with
          | finish on =>
              rw [runAt_current_bind on, if_pos ends]
              rfl
          | token u on _ _ =>
              have found : u ∈ t :: rest :=
                List.mem_of_mem_drop (behind ▸ List.mem_cons_self : u ∈ (t :: rest).drop place)
              rw [runAt_current_bind on, if_neg (going u found)]
              rfl

end

namespace TokenTape

def MovesOn (tape : TokenTape) : Prop :=
  ∀ place t, tape.tokens[place]? = some t → t.kind ≠ .finish → tape.next? place = some (place + 1)

def ReadsAs (tape : TokenTape) (result : Except ParseError Expr) : Prop :=
  ∃ place < tape.tokens.length, (∀ t ∈ tape.tokens.take place, t.kind ≠ .finish) ∧
    tape.readAll.runAt 0 = some (result, place)

theorem closed_of_ends {tokens : List Token} (last : tokens.getLast?.any isFinish) :
    closed tokens = tokens := if_pos last

theorem closed_of_open {tokens : List Token} (last : ¬ tokens.getLast?.any isFinish) :
    closed tokens = tokens ++ [impliedFinish tokens] := if_neg last

theorem impliedFinish_kind (tokens : List Token) : (impliedFinish tokens).kind = .finish := by
  unfold impliedFinish
  split <;> rfl

theorem closed_eq_append (tokens : List Token) : ∃ behind, closed tokens = tokens ++ behind := by
  by_cases last : tokens.getLast?.any isFinish
  · exact ⟨[], by rw [closed_of_ends last, List.append_nil]⟩
  · exact ⟨_, closed_of_open last⟩

theorem getLast?_closed (tokens : List Token) :
    ∃ finish, (closed tokens).getLast? = some finish ∧ finish.kind = .finish := by
  by_cases last : tokens.getLast?.any isFinish
  · obtain ⟨finish, found, ends⟩ := (Option.any_eq_true isFinish _).mp last
    rw [closed_of_ends last]
    exact ⟨finish, found, by simpa [isFinish] using ends⟩
  · rw [closed_of_open last, List.getLast?_concat]
    exact ⟨_, rfl, impliedFinish_kind tokens⟩

theorem ofTokens_movesOn (tokens : List Token) : (ofTokens tokens).MovesOn := by
  intro place t on going
  refine congrArg some (if_pos ?_)
  by_contra last
  obtain ⟨finish, found, ends⟩ := getLast?_closed tokens
  obtain ⟨inside, -⟩ := List.getElem?_eq_some_iff.mp on
  have onLast : place = (closed tokens).length - 1 := by
    change place < (closed tokens).length at inside
    omega
  rw [List.getLast?_eq_getElem?, ← onLast] at found
  cases on.symm.trans found
  exact going ends

theorem not_any_of_only {tokens : List Token} (only : ∀ t ∈ tokens, t.kind ≠ .finish) :
    ¬ tokens.getLast?.any isFinish := by
  intro last
  obtain ⟨finish, found, ends⟩ := (Option.any_eq_true isFinish _).mp last
  exact only finish (List.mem_of_getLast? found) (by simpa [isFinish] using ends)

theorem exists_first_finish (tokens : List Token) :
    ∃ before finish behind, closed tokens = before ++ finish :: behind ∧
      (∀ t ∈ before, t.kind ≠ .finish) ∧ finish.kind = .finish ∧
      parseTokens tokens = parseBefore finish before := by
  cases found : tokens.find? isFinish with
  | some finish =>
      obtain ⟨ends, before, behind, rfl, only⟩ := List.find?_eq_some_iff_append.mp found
      replace ends : finish.kind = .finish := by simpa [isFinish] using ends
      replace only : ∀ t ∈ before, t.kind ≠ .finish := by simpa [isFinish] using only
      obtain ⟨more, same⟩ := closed_eq_append (before ++ finish :: behind)
      refine ⟨before, finish, behind ++ more, ?_, only, ends, parseTokens_append ends only behind⟩
      rw [same, List.append_assoc, List.cons_append]
  | none =>
      have only : ∀ t ∈ tokens, t.kind ≠ .finish := by simpa [isFinish] using found
      refine ⟨tokens, impliedFinish tokens, [], closed_of_open (not_any_of_only only), only,
        impliedFinish_kind tokens, ?_⟩
      have all : tokens.takeWhile (!isFinish ·) = tokens :=
        List.takeWhile_eq_self_iff.mpr (by simpa [isFinish] using only)
      rw [parseTokens, found, all]
      rfl

theorem MovesOn.readsAs {tape : TokenTape} (moves : tape.MovesOn) {tokens : List Token}
    (same : tape.tokens = closed tokens) : tape.ReadsAs (parseTokens tokens) := by
  obtain ⟨before, finish, behind, split, only, ends, parsed⟩ := exists_first_finish tokens
  rw [split] at same
  have offers : tape.Offers before finish := by
    refine ⟨⟨behind, same⟩, only, ends, fun place inside => ?_⟩
    refine moves place before[place] ?_ (only _ (List.getElem_mem inside))
    rw [same, List.getElem?_append_left inside, List.getElem?_eq_getElem inside]
  obtain ⟨place, inside, read⟩ := runAt_readAll offers
  refine ⟨place, ?_, fun t found => ?_, parsed ▸ read⟩
  · rw [same, List.length_append, List.length_cons]
    omega
  · rw [same, List.take_append_of_le_length inside] at found
    exact only t (List.mem_of_mem_take found)

end TokenTape

/-- Every list of tokens is parsed to an end.  The cursor stays on the tokens, and it is never moved
on from an end of text, whatever would come of that.  So what is behind the first end of text makes
no difference, and where there is none it is the same as if one followed the last token. -/
theorem parseByCursor_ends (tokens : List Token) :
    (∃ place < (closed tokens).length, (∀ t ∈ (closed tokens).take place, t.kind ≠ .finish) ∧
      parseByCursor tokens = some (parseTokens tokens, place)) ∧
    (∀ next?, (TokenTape.mk (closed tokens) next?).MovesOn →
      (TokenTape.mk (closed tokens) next?).ReadsAs (parseTokens tokens)) ∧
    (∀ before finish behind others, tokens = before ++ finish :: behind →
      (∀ t ∈ before, t.kind ≠ .finish) → finish.kind = .finish →
      (parseByCursor tokens).map Prod.fst =
        (parseByCursor (before ++ finish :: others)).map Prod.fst) ∧
    ((∀ t ∈ tokens, t.kind ≠ .finish) →
      parseByCursor tokens = parseByCursor (tokens ++ [impliedFinish tokens])) := by
  have reads (tokens : List Token) : (ofTokens tokens).ReadsAs (parseTokens tokens) :=
    (ofTokens_movesOn tokens).readsAs rfl
  refine ⟨reads tokens, fun next? moves => moves.readsAs rfl, ?_, ?_⟩
  · rintro before finish behind others rfl only ends
    obtain ⟨place, -, -, read⟩ := reads (before ++ finish :: behind)
    obtain ⟨place', -, -, read'⟩ := reads (before ++ finish :: others)
    rw [parseByCursor, parseByCursor, read, read', parseTokens_append ends only,
      parseTokens_append ends only]
    rfl
  · intro only
    have open' := closed_of_open (not_any_of_only only)
    have ended : closed (tokens ++ [impliedFinish tokens]) = tokens ++ [impliedFinish tokens] := by
      refine closed_of_ends ?_
      rw [List.getLast?_concat]
      simp [isFinish, impliedFinish_kind]
    rw [parseByCursor, parseByCursor, ofTokens, ofTokens, open', ended]

def endedInside : List Token := [⟨.field, "[A]", 0⟩, ⟨.finish, "", 3⟩, ⟨.symbol, ">", 4⟩]

def stuckAtEnds (place : Nat) : Option Nat :=
  if place = 0 ∨ place = 2 then some (place + 1) else none

theorem stuckAtEnds_movesOn : (TokenTape.mk (closed endedInside) stuckAtEnds).MovesOn := by
  rintro (_ | _ | _ | _ | place) t on going
  · rfl
  · cases on
    exact absurd rfl going
  · rfl
  · cases on
    exact absurd rfl going
  · cases on

theorem parseByCursor_ends_endedInside :
    (parseTokens endedInside).map Expr.fieldNames = .ok ["A"] ∧
    (∃ place < 4, parseByCursor endedInside = some (parseTokens endedInside, place)) ∧
    (TokenTape.mk (closed endedInside) stuckAtEnds).ReadsAs (parseTokens endedInside) ∧
    (parseByCursor endedInside).map Prod.fst =
      (parseByCursor [⟨.field, "[A]", 0⟩, ⟨.finish, "", 3⟩]).map Prod.fst ∧
    parseByCursor [⟨.field, "[A]", 0⟩] =
      parseByCursor [⟨.field, "[A]", 0⟩, ⟨.finish, "", 3⟩] := by
  obtain ⟨⟨place, inside, -, read⟩, stuck, others, -⟩ := parseByCursor_ends endedInside
  obtain ⟨-, -, -, implied⟩ := parseByCursor_ends [⟨.field, "[A]", 0⟩]
  refine ⟨by decide +kernel, ⟨place, inside, read⟩, stuck _ stuckAtEnds_movesOn, ?_, ?_⟩
  · exact others [⟨.field, "[A]", 0⟩] ⟨.finish, "", 3⟩ _ [] rfl (by decide) rfl
  · exact implied (by decide)

end RecordFilter
