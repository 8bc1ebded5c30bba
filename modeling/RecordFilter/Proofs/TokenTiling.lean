import RecordFilter.Proofs.Scanning

/-!
# Scanning loses nothing

The tokens of a text lie in it one behind the other, each where its position says, and what lies
between them is blank.  A tiling says so along the text.  Scanning keeps to it because what a
lexeme takes is there to be taken; places, order and gaps are read off the tiling.
-/

namespace RecordFilter

open Text

namespace Token

/-! ## Lengths of lexemes -/

theorem delimited_le (kind : TokenKind) (closing : Char) (rest : List Char) :
    (delimited kind closing rest).2 ≤ rest.length := by
  rw [delimited]
  cases span : closedSpan? closing rest with
  | none => exact Nat.le_refl _
  | some length =>
      obtain ⟨inner, behind, rfl, -, rfl⟩ := eq_append_of_closedSpan? span
      simp only [List.length_append, List.length_cons]
      omega

theorem digitRun_le (text : List Char) : digitRun text ≤ text.length :=
  (List.takeWhile_sublist isAsciiDigit).length_le

theorem numeralRun_le (rest : List Char) : numeralRun rest ≤ rest.length := by
  rw [numeralRun]
  have whole := digitRun_le rest
  split
  · next fraction point =>
      have places := digitRun_le fraction
      have behind := congrArg List.length point
      rw [List.length_drop, List.length_cons] at behind
      split_ifs <;> omega
  · exact whole

theorem wordLexeme_le (c : Char) (rest : List Char) : (wordLexeme c rest).2 ≤ rest.length := by
  unfold wordLexeme
  split
  · next length compound =>
      obtain ⟨behind, -, rfl⟩ := Option.map_eq_some_iff.mp compound
      exact Nat.sub_le _ _
  · exact (List.takeWhile_sublist isWordChar).length_le

theorem length_pos_of_startsDouble {c : Char} {rest : List Char}
    (double : startsDouble c rest = true) : 1 ≤ rest.length := by
  cases rest with
  | nil => cases double
  | cons d rest => exact Nat.succ_pos _

theorem lexeme_le (c : Char) (rest : List Char) : (lexeme c rest).2 ≤ rest.length := by
  unfold lexeme
  split_ifs with bracket mark digit double single punctuation word
  · exact delimited_le _ _ rest
  · exact delimited_le _ _ rest
  · exact numeralRun_le rest
  · exact length_pos_of_startsDouble double
  · exact Nat.zero_le _
  · exact Nat.zero_le _
  · exact wordLexeme_le c rest
  · exact Nat.zero_le _

/-! ## Tilings -/

def stop (t : Token) : Nat := t.position + t.text.length

inductive Tiles : Nat → List Char → List Token → Prop
  | nothing (position : Nat) : Tiles position [] []
  | blank {position : Nat} {c : Char} {rest : List Char} {tokens : List Token}
      (blank : isBlank c = true) (behind : Tiles (position + 1) rest tokens) :
      Tiles position (c :: rest) tokens
  | token {t : Token} {rest : List Char} {tokens : List Token} (nonempty : t.text ≠ "")
      (behind : Tiles t.stop rest tokens) :
      Tiles t.position (t.text.toList ++ rest) (t :: tokens)

/-- Scanning tiles the text, and puts the only end of text behind it. -/
theorem scanFrom_tiles (position : Nat) (text : List Char) :
    ∃ tokens, scanFrom position text = tokens ++ [⟨.finish, "", position + text.length⟩] ∧
      (∀ t ∈ tokens, t.kind ≠ .finish) ∧ Tiles position text tokens := by
  match text with
  | [] => exact ⟨[], by simp [scanFrom], nofun, .nothing position⟩
  | c :: rest =>
      cases blank : isBlank c with
      | true =>
          obtain ⟨tokens, scanned, only, tiles⟩ := scanFrom_tiles (position + 1) rest
          refine ⟨tokens, ?_, only, .blank blank tiles⟩
          rw [scanFrom_blank blank, scanned, List.length_cons, Nat.add_right_comm, Nat.add_assoc]
      | false =>
          have fits := lexeme_le c rest
          obtain ⟨tokens, scanned, only, tiles⟩ := scanFrom_tiles
            (position + 1 + (lexeme c rest).2) (rest.drop (lexeme c rest).2)
          let t : Token := ⟨(lexeme c rest).1, String.ofList (c :: rest.take (lexeme c rest).2),
            position⟩
          have kind : t.kind ≠ .finish :=
            (hasForm_of_lexeme (t := t) rfl (String.toList_ofList)).2
          have stop : t.stop = position + 1 + (lexeme c rest).2 := by
            simp only [Token.stop, t, String.length_ofList, List.length_cons, List.length_take]
            omega
          refine ⟨t :: tokens, ?_, List.forall_mem_cons.mpr ⟨kind, only⟩, ?_⟩
          · have last : position + 1 + (lexeme c rest).2 + (rest.drop (lexeme c rest).2).length =
                position + (c :: rest).length := by
              rw [List.length_drop, List.length_cons]
              omega
            rw [scanFrom_lexeme blank, scanned, last, List.cons_append]
          · have tiled := Tiles.token (t := t) (by simp [t]) (stop ▸ tiles)
            simpa [t] using tiled
  termination_by text.length

namespace Tiles

variable {position : Nat} {text : List Char} {tokens : List Token}

theorem position_le (tiles : Tiles position text tokens) : ∀ t ∈ tokens, position ≤ t.position := by
  induction tiles with
  | nothing => exact nofun
  | blank _ _ ih => exact fun t found => Nat.le_of_succ_le (ih t found)
  | @token t _ _ _ _ ih =>
      refine List.forall_mem_cons.mpr ⟨Nat.le_refl _, fun u found => ?_⟩
      exact Nat.le_trans (Nat.le_add_right _ _) (ih u found)

theorem text_eq (tiles : Tiles position text tokens) : ∀ t ∈ tokens, t.text ≠ "" ∧
    (text.drop (t.position - position)).take t.text.length = t.text.toList := by
  induction tiles with
  | nothing => exact nofun
  | @blank position c rest tokens _ behind ih =>
      intro t found
      have after := behind.position_le t found
      have shift : t.position - position = t.position - (position + 1) + 1 := by omega
      rw [shift, List.drop_succ_cons]
      exact ih t found
  | @token t rest tokens nonempty behind ih =>
      refine List.forall_mem_cons.mpr ⟨⟨nonempty, ?_⟩, fun u found => ?_⟩
      · rw [Nat.sub_self, List.drop_zero, ← String.length_toList, List.take_left]
      · have after := behind.position_le u found
        have shift : u.position - t.position = t.text.toList.length + (u.position - t.stop) := by
          simp only [stop, String.length_toList] at after ⊢
          omega
        rw [shift, List.drop_length_add_append]
        exact ih u found

theorem pairwise (tiles : Tiles position text tokens) :
    tokens.Pairwise fun t u => t.stop ≤ u.position := by
  induction tiles with
  | nothing => exact .nil
  | blank _ _ ih => exact ih
  | token _ behind ih => exact .cons behind.position_le ih

theorem isBlank_of_gap (tiles : Tiles position text tokens) {i : Nat} {c : Char}
    (there : text[i]? = some c)
    (gap : ∀ t ∈ tokens, position + i < t.position ∨ t.stop ≤ position + i) : isBlank c = true := by
  induction tiles generalizing i with
  | nothing => cases there
  | @blank position d rest tokens blank _ ih =>
      cases i with
      | zero =>
          cases there
          exact blank
      | succ i =>
          refine ih there fun t found => ?_
          rw [Nat.add_right_comm, Nat.add_assoc]
          exact gap t found
  | @token t rest tokens _ _ ih =>
      obtain ⟨outside, gap⟩ := List.forall_mem_cons.mp gap
      -- The character is not in the first token, so it lies behind it.
      have behind : t.text.toList.length ≤ i := by
        simp only [stop, String.length_toList] at outside ⊢
        omega
      rw [List.getElem?_append_right behind] at there
      have place : t.stop + (i - t.text.toList.length) = t.position + i := by
        simp only [stop, String.length_toList] at behind ⊢
        omega
      exact ih there (place ▸ gap)

end Tiles

/-- Every text is scanned.  The last token is the only end of text and stands behind the last
character.  Each other token has a text, which is what the filter holds at its position; tokens
stand one behind the other, and each character that lies in none of them is blank. -/
theorem scan_tiles (text : String) :
    ∃ tokens, scan text = tokens ++ [⟨.finish, "", text.length⟩] ∧
      (∀ t ∈ tokens, t.kind ≠ .finish ∧ t.text ≠ "" ∧
        (text.toList.drop t.position).take t.text.length = t.text.toList) ∧
      (tokens.Pairwise fun t u => t.stop ≤ u.position) ∧
      ∀ i c, text.toList[i]? = some c → (∀ t ∈ tokens, i < t.position ∨ t.stop ≤ i) →
        isBlank c = true := by
  obtain ⟨tokens, scanned, only, tiles⟩ := scanFrom_tiles 0 text.toList
  rw [Nat.zero_add, String.length_toList] at scanned
  refine ⟨tokens, scanned, fun t found => ?_, tiles.pairwise, fun i c there gap => ?_⟩
  · obtain ⟨nonempty, placed⟩ := tiles.text_eq t found
    exact ⟨only t found, nonempty, placed⟩
  · exact tiles.isBlank_of_gap there (by simpa using gap)

end Token

end RecordFilter
