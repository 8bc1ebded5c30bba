import RecordFilter.Proofs.ParserMeetsGrammar

/-!
# One token of lookahead

The parser never looks beyond the first token that it does not take.  So what a function of the
parser takes from the front, it takes again with anything behind as long as the next token looks the
same from in front of it; and where it fails, it is the token in view that is wrong: the tokens
before it can be completed, and with a token written like it behind them they cannot.

`Locates` says both of a function, and carries over to one function behind another.
-/

namespace RecordFilter

/-! ## Tokens in view -/

namespace Token

def movedTo (t : Token) (position : Nat) : Token := { t with position := position }

structure Inert (t : Token) : Prop where
  symbol : t.kind ≠ .symbol
  punctuation : t.kind ≠ .punctuation
  keyword : t.kind ≠ .keyword

theorem inert_of_kind {t : Token} {kind : TokenKind} (same : t.kind = kind)
    (other : kind ∉ [TokenKind.symbol, .punctuation, .keyword]) : t.Inert := by
  subst same
  simp only [List.mem_cons, List.not_mem_nil, or_false, not_or] at other
  exact ⟨other.1, other.2.1, other.2.2⟩

namespace Inert

variable {t : Token} (inert : t.Inert)

include inert

theorem tail?_eq_none : t.tail? = none := by
  simp [tail?, comparison?_of_kind inert.symbol, keyword_of_kind inert.keyword]

theorem sign?_eq_none : t.sign? = none := by
  simp [sign?, isSymbol, inert.symbol]

theorem not_isPunctuation (mark : String) : ¬ t.isPunctuation mark := by
  simp [isPunctuation, inert.punctuation]

end Inert

theorem eq_movedTo {t u : Token} (kind : u.kind = t.kind) (text : u.text = t.text) :
    u = t.movedTo u.position := by
  cases u
  cases kind
  cases text
  rfl

/-- Whoever stops in front of the second token stops in front of the first. -/
def LooksLike (u t : Token) : Prop := u.Inert ∨ ∃ position, u = t.movedTo position

namespace LooksLike

variable {t u : Token}

theorem refl (t : Token) : t.LooksLike t := .inr ⟨t.position, rfl⟩

theorem movedTo (t : Token) (position : Nat) : (t.movedTo position).LooksLike t :=
  .inr ⟨position, rfl⟩

theorem operator?_eq_none (h : u.LooksLike t) {tier : Tier} (stops : tier.operator? t = none) :
    tier.operator? u = none := by
  obtain inert | ⟨position, rfl⟩ := h
  · exact operator?_of_kind inert.symbol tier
  · exact stops

theorem tail?_eq_none (h : u.LooksLike t) (stops : t.tail? = none) : u.tail? = none := by
  obtain inert | ⟨position, rfl⟩ := h
  · exact inert.tail?_eq_none
  · exact stops

theorem not_isPunctuation (h : u.LooksLike t) {mark : String} (other : ¬ t.isPunctuation mark) :
    ¬ u.isPunctuation mark := by
  obtain inert | ⟨position, rfl⟩ := h
  · exact inert.not_isPunctuation mark
  · exact other

end LooksLike

end Token

/-! ## Functions of the parser -/

abbrev Reader (α : Type) := Token → List Token → Except ParseError (α × List Token)

variable {α β : Type}

/-- Nothing that begins with these tokens is read. -/
def Refuses (reader : Reader α) (before : List Token) (t : Token) : Prop :=
  ∀ finish behind read, reader finish (before ++ t :: behind) ≠ .ok read

/-- The place where an operand has to begin. -/
structure OperandWanted (viable : List Token → Prop) (before : List Token) (t : Token)
    (problem : ParseProblem) : Prop where
  reported : problem = t.invalidProblem
  operand : ∀ u : Token, u.kind = .null → viable (before ++ [u])

structure MarkWanted (reader : Reader α) (before : List Token) (problem : ParseProblem) : Prop where
  reported : ∀ position, (⟨problem, position⟩ : ParseError).isUnclosed = false
  refused : ∀ u : Token, u.Inert → Refuses reader before u

/-- An error is about the token `t`, which is met behind `before`. -/
structure Blames (viable : List Token → Prop) (reader : Reader α) (finish : Token)
    (tokens : List Token) (e : ParseError) (before : List Token) (t : Token) : Prop where
  met : before ++ [t] <+: tokens ++ [finish]
  position : e.position = t.position
  begun : viable before
  refused : ∀ position, Refuses reader before (t.movedTo position)
  invalid : t.kind = .invalid →
    OperandWanted viable before t e.problem ∨ MarkWanted reader before e.problem

/-- What is read is read with anything behind it that looks the same, and an error is about the
first token that cannot stand where it does. -/
def Locates (viable : List Token → Prop) (reader : Reader α) (finish : Token)
    (tokens : List Token) : Prop :=
  match reader finish tokens with
  | .ok (a, rest) => ∃ ts, tokens = ts ++ rest ∧ ∀ u : Token, u.LooksLike (current finish rest) →
      ∀ finish' behind, reader finish' (ts ++ u :: behind) = .ok (a, u :: behind)
  | .error e => ∃ before t, Blames viable reader finish tokens e before t

theorem locates_of_ok {viable : List Token → Prop} {reader : Reader α} {finish : Token}
    {tokens rest : List Token} {a : α} (read : reader finish tokens = .ok (a, rest)) :
    Locates viable reader finish tokens ↔ ∃ ts, tokens = ts ++ rest ∧
      ∀ u : Token, u.LooksLike (current finish rest) →
        ∀ finish' behind, reader finish' (ts ++ u :: behind) = .ok (a, u :: behind) := by
  rw [Locates, read]

theorem locates_of_error {viable : List Token → Prop} {reader : Reader α} {finish : Token}
    {tokens : List Token} {e : ParseError} (failed : reader finish tokens = .error e) :
    Locates viable reader finish tokens ↔
      ∃ before t, Blames viable reader finish tokens e before t := by
  rw [Locates, failed]

theorem Blames.lift {viable viable' : List Token → Prop} {reader : Reader α} {reader' : Reader β}
    {finish t : Token} {rest before : List Token} {e : ParseError} (ts : List Token)
    (h : Blames viable reader finish rest e before t)
    (sooner : ∀ us, viable us → viable' (ts ++ us))
    (refuses : ∀ u : Token, u.LooksLike t → Refuses reader before u →
      Refuses reader' (ts ++ before) u) :
    Blames viable' reader' finish (ts ++ rest) e (ts ++ before) t where
  met := by
    rw [List.append_assoc, List.append_assoc]
    exact (List.prefix_append_right_inj ts).mpr h.met
  position := h.position
  begun := sooner before h.begun
  refused position := refuses _ (.movedTo t position) (h.refused position)
  invalid kind := by
    obtain operand | mark := h.invalid kind
    · refine .inl ⟨operand.reported, fun u null => ?_⟩
      rw [List.append_assoc]
      exact sooner _ (operand.operand u null)
    · exact .inr ⟨mark.reported, fun u inert => refuses u (.inl inert) (mark.refused u inert)⟩

theorem head?_append_finish (finish : Token) (tokens : List Token) :
    (tokens ++ [finish]).head? = some (current finish tokens) := by
  cases tokens <;> rfl

theorem reads_again {reader : Reader α} {finish t u : Token} {a : α} {ts rest us : List Token}
    (read : ∀ u : Token, u.LooksLike (current finish rest) →
      ∀ finish' behind, reader finish' (ts ++ u :: behind) = .ok (a, u :: behind))
    (met : us ++ [t] <+: rest ++ [finish]) (looks : u.LooksLike t) (finish' : Token)
    (behind : List Token) :
    reader finish' (ts ++ (us ++ u :: behind)) = .ok (a, us ++ u :: behind) := by
  have view : (us ++ [t]).head? = some (current finish rest) := by
    obtain ⟨others, met⟩ := met
    rw [← head?_append_finish, ← met]
    cases us <;> rfl
  cases us with
  | nil =>
      cases view
      exact read u looks finish' behind
  | cons v us =>
      cases view
      exact read _ (.refl _) finish' (us ++ u :: behind)

namespace Locates

variable {viable viable' : List Token → Prop} {finish t : Token} {tokens : List Token}

theorem mono {reader : Reader α} (h : Locates viable reader finish tokens)
    (weaker : ∀ us, viable us → viable' us) : Locates viable' reader finish tokens := by
  cases read : reader finish tokens with
  | ok result =>
      obtain ⟨a, rest⟩ := result
      rwa [locates_of_ok read] at h ⊢
  | error e =>
      obtain ⟨before, t, blames⟩ := (locates_of_error read).mp h
      exact (locates_of_error read).mpr
        ⟨before, t, blames.lift [] weaker fun _ _ refused => refused⟩

theorem stop {reader : Reader α} {a : α} (here : reader finish tokens = .ok (a, tokens))
    (stops : ∀ u : Token, u.LooksLike (current finish tokens) →
      ∀ finish' behind, reader finish' (u :: behind) = .ok (a, u :: behind)) :
    Locates viable reader finish tokens :=
  (locates_of_ok here).mpr ⟨[], rfl, stops⟩

theorem pure (a : α) : Locates viable (fun _ tokens => .ok (a, tokens)) finish tokens :=
  stop rfl fun _ _ _ _ => rfl

theorem fail {reader : Reader α} {problem : ParseProblem}
    (here : reader finish tokens = (current finish tokens).fail problem) (begun : viable [])
    (refused : ∀ position, Refuses reader [] ((current finish tokens).movedTo position))
    (invalid : (current finish tokens).kind = .invalid →
      OperandWanted viable [] (current finish tokens) problem ∨ MarkWanted reader [] problem) :
    Locates viable reader finish tokens := by
  refine (locates_of_error here).mpr
    ⟨[], current finish tokens, ?_, rfl, begun, refused, invalid⟩
  cases tokens with
  | nil => exact List.prefix_rfl
  | cons t rest => exact ⟨rest ++ [finish], rfl⟩

theorem fail_cons {reader : Reader α} {problem : ParseProblem}
    (fails : ∀ position finish rest,
      reader finish (t.movedTo position :: rest) = (t.movedTo position).fail problem)
    (begun : viable []) (valid : t.kind ≠ .invalid) (rest : List Token) :
    Locates viable reader finish (t :: rest) := by
  refine .fail (fails t.position finish rest) begun (fun position finish' behind read => ?_) ?_
  · exact fun accepted => nomatch (fails position finish' behind).symm.trans accepted
  · exact fun invalid => absurd invalid valid

theorem past {reader inner : Reader α} {rest : List Token}
    (same : ∀ finish rest, reader finish (t :: rest) = inner finish rest)
    (h : Locates (fun us => viable (t :: us)) inner finish rest) :
    Locates viable reader finish (t :: rest) := by
  have here := same finish rest
  cases read : inner finish rest with
  | ok result =>
      obtain ⟨ts, rfl, again⟩ := (locates_of_ok read).mp h
      refine (locates_of_ok (here.trans read)).mpr ⟨t :: ts, rfl, fun u looks finish' behind => ?_⟩
      rw [List.cons_append, same, again u looks]
  | error e =>
      obtain ⟨before, u, blames⟩ := (locates_of_error read).mp h
      refine (locates_of_error (here.trans read)).mpr ⟨t :: before, u, ?_⟩
      refine blames.lift [t] (fun us => id) fun v _ refused finish' behind result => ?_
      rw [List.singleton_append, List.cons_append, same]
      exact refused finish' behind result

theorem bind {reader : Reader β} {first : Reader α} {wanted : List Token → α → Prop}
    {next : Token → α × List Token → Except ParseError (β × List Token)}
    (same : ∀ finish tokens, reader finish tokens = first finish tokens >>= next finish)
    (h : Locates viable first finish tokens) (yields : Yields wanted tokens (first finish tokens))
    (sooner : ∀ us, viable us → viable' us)
    (step : ∀ ts a rest, tokens = ts ++ rest → wanted ts a → Locates (fun us => viable' (ts ++ us))
      (fun finish rest => next finish (a, rest)) finish rest) :
    Locates viable' reader finish tokens := by
  have here := same finish tokens
  cases read : first finish tokens with
  | error e =>
      rw [read] at here
      obtain ⟨before, t, blames⟩ := (locates_of_error read).mp h
      refine (locates_of_error here).mpr ⟨before, t, blames.lift [] sooner ?_⟩
      intro u _ refused finish' behind result accepted
      rw [same] at accepted
      obtain ⟨part, accepted, -⟩ := bind_eq_ok.mp accepted
      exact refused finish' behind part accepted
  | ok result =>
      obtain ⟨a, rest⟩ := result
      obtain ⟨ts, taken, again⟩ := (locates_of_ok read).mp h
      rw [read] at here yields
      obtain ⟨ts', taken', good⟩ := yields
      obtain rfl : ts' = ts := List.append_cancel_right (taken'.symm.trans taken)
      have later := step ts' a rest taken good
      cases read' : next finish (a, rest) with
      | ok result =>
          obtain ⟨b, rest'⟩ := result
          obtain ⟨us, rfl, again'⟩ := (locates_of_ok read').mp later
          refine (locates_of_ok (here.trans read')).mpr ⟨ts' ++ us, ?_, ?_⟩
          · rw [taken, List.append_assoc]
          · intro u looks finish' behind
            have met : us ++ [current finish rest'] <+: (us ++ rest') ++ [finish] := by
              cases rest' <;> simp [current]
            rw [same, List.append_assoc, reads_again again met looks, ok_bind]
            exact again' u looks finish' behind
      | error e =>
          obtain ⟨before, t, blames⟩ := (locates_of_error read').mp later
          rw [taken] at here ⊢
          refine (locates_of_error (here.trans read')).mpr ⟨ts' ++ before, t, ?_⟩
          refine blames.lift ts' (fun us => id) fun u looks refused finish' behind result => ?_
          rw [same, List.append_assoc, reads_again again blames.met looks, ok_bind]
          exact refused finish' behind result

theorem check {reader inner : Reader α} {test : List Token → Except ParseError Unit}
    (same : ∀ finish tokens, reader finish tokens = test tokens >>= fun _ => inner finish tokens)
    (h : Locates viable (fun _ tokens => (test tokens).map (·, tokens)) finish tokens)
    (sane : ∀ {e}, test tokens = .error e → e.problem ≠ .malformedNumeral)
    (inside : Locates viable inner finish tokens) : Locates viable reader finish tokens := by
  have yields : Yields (fun ts _ => ts = []) tokens ((test tokens).map (·, tokens)) := by
    cases passed : test tokens with
    | error e => exact sane passed
    | ok a => exact Yields.nothing rfl
  have split (finish : Token) (tokens : List Token) : reader finish tokens =
      (test tokens).map (·, tokens) >>= fun read => inner finish read.2 := by
    rw [same]
    cases test tokens <;> rfl
  refine .bind split h yields (fun us => id) fun ts a rest taken nothing => ?_
  subst nothing taken
  exact inside

end Locates

structure Expects (expect : Reader Unit) (wanted : Token → Bool) (problem : Token → ParseProblem) :
    Prop where
  takes : ∀ finish t rest, wanted t = true → expect finish (t :: rest) = .ok ((), rest)
  fails : ∀ finish t rest, wanted t = false → expect finish (t :: rest) = t.fail (problem t)
  nothing : ∀ finish : Token, expect finish [] = finish.fail (problem finish)
  moved : ∀ (t : Token) position, wanted (t.movedTo position) = wanted t
  inert : ∀ t : Token, t.Inert → wanted t = false
  reported : ∀ t position, (⟨problem t, position⟩ : ParseError).isUnclosed = false

theorem Locates.expect {viable : List Token → Prop} {finish : Token} {tokens : List Token}
    {reader : Reader α} {expect : Reader Unit} {wanted : Token → Bool}
    {problem : Token → ParseProblem}
    {next : Token → Unit × List Token → Except ParseError (α × List Token)}
    (expects : Expects expect wanted problem) (ends : finish.kind = .finish)
    (same : ∀ finish tokens, reader finish tokens = expect finish tokens >>= next finish)
    (begun : viable [])
    (step : ∀ t rest, tokens = t :: rest → wanted t = true → Locates (fun us => viable (t :: us))
      (fun finish rest => next finish ((), rest)) finish rest) :
    Locates viable reader finish tokens := by
  have refuses {u : Token} (other : wanted u = false) : Refuses reader [] u := by
    intro finish behind read
    rw [List.nil_append, same, expects.fails finish u behind other]
    exact nofun
  cases here : wanted (current finish tokens) with
  | true =>
      cases tokens with
      | nil =>
          have inert : finish.Inert := Token.inert_of_kind ends (by decide)
          exact absurd ((expects.inert finish inert).symm.trans here) (by decide)
      | cons t rest =>
          refine .past (fun finish rest => ?_) (step t rest rfl here)
          rw [same, expects.takes finish t rest here, ok_bind]
  | false =>
      have fails : reader finish tokens =
          (current finish tokens).fail (problem (current finish tokens)) := by
        cases tokens with
        | nil =>
            rw [same, expects.nothing]
            rfl
        | cons t rest =>
            rw [same, expects.fails finish t rest here]
            rfl
      refine .fail fails begun (fun position => refuses ?_) fun _ => .inr ⟨expects.reported _, ?_⟩
      · rw [expects.moved, here]
      · exact fun u inert => refuses (expects.inert u inert)

end RecordFilter
