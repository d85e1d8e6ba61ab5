import PlanarMotion.Proofs.Script.Lexemes
import PlanarMotion.Proofs.Script.LongestNumerals

/-!
# Texts Taken Apart into Their Longest Lexemes

What a token looks like is a matter of its own. `IsLexeme` says it of a row of characters: a
numeral, a name or a mark. The reader of tokens decides by the first character which of the three
it tries. That is no loss, since no two of them begin alike, so it takes the longest lexeme that is
there.

A text is then taken apart from the front: all blanks, the longest lexeme, all blanks again, until
no lexeme begins. `Munches` says of a result that it was found in this way, without saying how the
lexemes are found. There is always exactly one.

## Main definitions

* `IsLexeme`: The rows of characters that are tokens.
* `BlankRun`: All blanks in front of a text.
* `Munch`, `Munches`: A text taken apart.

## Theorems

* `Token.greedy_read?`: The reader of tokens takes the longest lexeme.
* `Munches.of_none`, `Munches.of_some`: A text is taken apart token by token.
* `exists_munches`, `Munches.unique`: A text is taken apart in exactly one way.
* `Munches.text_eq`: Nothing of the text is lost.
* `Munches.forall₂_scan`, `Munches.forall₂_iff`: The tokens of a text are those of its lexemes.
-/

namespace PlanarMotion

namespace Script

open PlanarMotion.Text

/-- A row of characters that is a token: a numeral that begins with a sign or a digit, a name, or
    one mark. -/
inductive IsLexeme : List Char → Token → Prop where
  | number (cs : List Char) (n : Numeral) (hstart : cs.head?.any startsNumeral = true)
      (h : IsNumeral cs n) : IsLexeme cs (.number n.value)
  | name (c : Char) (cs : List Char) (hstart : startsName c = true)
      (hcs : ∀ d ∈ cs, continuesName d = true) :
      IsLexeme (c :: cs) (.name (String.ofList (c :: cs)))
  | mark (m : Mark) : IsLexeme [m.char] (.mark m)

/-- A name begins with an ASCII letter or an underscore. -/
theorem toNat_of_startsName (c : Char) (h : startsName c = true) :
    65 ≤ c.toNat ∧ c.toNat ≤ 122 := by
  rw [startsName, Bool.or_eq_true, beq_iff_eq] at h
  rcases h with hletter | rfl
  · rcases Bool.or_eq_true_iff.mp hletter with hupper | hlower
    · have hbounds : 'A'.val ≤ c.val ∧ c.val ≤ 'Z'.val := of_decide_eq_true hupper
      have hlow : 65 ≤ c.toNat := UInt32.le_iff_toNat_le.mp hbounds.1
      have hhigh : c.toNat ≤ 90 := UInt32.le_iff_toNat_le.mp hbounds.2
      omega
    · have hbounds := Bool.and_eq_true_iff.mp hlower
      have hlow : 97 ≤ c.toNat := UInt32.le_iff_toNat_le.mp (of_decide_eq_true hbounds.1)
      have hhigh : c.toNat ≤ 122 := UInt32.le_iff_toNat_le.mp (of_decide_eq_true hbounds.2)
      omega
  · decide

-- Only the first run of digits is in reach of the letters, and it holds none.
theorem startsNumeral_eq_false (c : Char) (h : startsName c = true) : startsNumeral c = false := by
  have hzeros : ∀ start ∈ digitZeros, start = 48 ∨ 128 ≤ start := by decide
  have hrange := toNat_of_startsName c h
  have hdigit : isDigit c = false := by
    rw [Bool.eq_false_iff, Ne, isDigit_iff]
    rintro ⟨start, hstart, hlow, hhigh⟩
    have hcases := hzeros start hstart
    omega
  have hplus : c ≠ '+' := by
    rintro rfl
    exact absurd hrange (by decide)
  have hminus : c ≠ '-' := by
    rintro rfl
    exact absurd hrange (by decide)
  rw [startsNumeral, hdigit, beq_eq_false_iff_ne.mpr hplus, beq_eq_false_iff_ne.mpr hminus]
  rfl

theorem not_starts_mark (m : Mark) : startsNumeral m.char = false ∧ startsName m.char = false := by
  cases m <;> decide

theorem Mark.char_of_ofChar? (c : Char) (m : Mark) (h : Mark.ofChar? c = some m) :
    m.char = c := by
  rw [Mark.ofChar?] at h
  exact beq_iff_eq.mp (List.find?_some (p := fun m : Mark => m.char == c) h)

theorem head?_any_true (rest : List Char) (h : 0 < rest.length) :
    rest.head?.any (fun _ => true) = true := by
  cases rest with
  | nil => cases h
  | cons c cs => rfl

/-- The reader of tokens takes the longest lexeme in front of a text. -/
theorem Token.greedy_read? : Greedy IsLexeme Token.read? fun _ => true := by
  refine ⟨fun cs t rest h => ?_, fun front t rest hfront => ?_⟩
  · cases cs with
    | nil => cases h
    | cons c cs =>
        by_cases hnumeral : startsNumeral c = true
        · rw [Token.read?, if_pos hnumeral, Option.map_eq_some_iff] at h
          rcases h with ⟨⟨n, rest'⟩, hread, hparts⟩
          rw [Prod.mk.injEq] at hparts
          rcases hparts with ⟨rfl, rfl⟩
          have hlt := Numeral.read?_length_lt _ _ _ hread
          rcases Numeral.greedy_read?.sound _ n rest' hread with ⟨front, hcs, hfront⟩
          refine ⟨front, hcs, .number front n ?_ hfront⟩
          -- The numeral is not empty, so it begins with the first character.
          cases front with
          | nil =>
              rw [hcs, List.nil_append] at hlt
              exact absurd hlt (Nat.lt_irrefl _)
          | cons d ds =>
              rw [List.cons_append, List.cons.injEq] at hcs
              rw [List.head?_cons, Option.any_some, ← hcs.1, hnumeral]
        · rw [Token.read?, if_neg hnumeral] at h
          by_cases hname : startsName c = true
          · rw [if_pos hname, Option.some.injEq, Prod.mk.injEq] at h
            rcases h with ⟨rfl, rfl⟩
            refine ⟨c :: cs.takeWhile continuesName, ?_, .name c _ hname fun d hd =>
              List.mem_takeWhile_imp hd⟩
            rw [List.cons_append, List.takeWhile_append_dropWhile]
          · rw [if_neg hname, Option.map_eq_some_iff] at h
            rcases h with ⟨m, hm, hparts⟩
            rw [Prod.mk.injEq] at hparts
            rcases hparts with ⟨rfl, rfl⟩
            rw [← Mark.char_of_ofChar? c m hm]
            exact ⟨_, rfl, .mark m⟩
  -- The first character of a lexeme leads the reader to the kind that it is of.
  · cases hfront with
    | number _ n hstart hn =>
        cases front with
        | nil => cases hstart
        | cons c cs =>
            rw [List.head?_cons, Option.any_some] at hstart
            have hread := Numeral.greedy_read?.longest (c :: cs) n rest hn
            rw [List.cons_append] at hread ⊢
            rw [Token.read?, if_pos hstart]
            rcases hread with hsame | ⟨n', rest', hmore, hlt, _⟩
            · rw [hsame]
              exact Or.inl rfl
            · rw [hmore]
              exact Or.inr ⟨_, _, rfl, hlt, head?_any_true rest (by omega)⟩
    | name c cs hstart hcs =>
        rw [List.cons_append, Token.read?,
          if_neg (Bool.eq_false_iff.mp (startsNumeral_eq_false c hstart)), if_pos hstart,
          List.takeWhile_append_of_pos hcs, List.dropWhile_append_of_pos hcs]
        rcases dropWhile_cases continuesName rest with ⟨hnone, hsame⟩ | ⟨hlt, _⟩
        · rw [hnone, hsame, List.append_nil]
          exact Or.inl rfl
        · exact Or.inr ⟨_, _, rfl, hlt, head?_any_true rest (by omega)⟩
    | mark m =>
        rcases not_starts_mark m with ⟨hnumeral, hname⟩
        rw [List.singleton_append, Token.read?, if_neg (Bool.eq_false_iff.mp hnumeral),
          if_neg (Bool.eq_false_iff.mp hname), Mark.ofChar?_char]
        exact Or.inl rfl

/-- No token is written with nothing. -/
theorem IsLexeme.ne_nil {cs : List Char} {t : Token} (h : IsLexeme cs t) : cs ≠ [] := by
  cases h with
  | number _ _ hstart _ =>
      rintro rfl
      cases hstart
  | name c cs _ _ => exact List.cons_ne_nil _ _
  | mark m => exact List.cons_ne_nil _ _

/-- A lexeme is one token only. -/
theorem IsLexeme.unique {cs : List Char} {t t' : Token} (h : IsLexeme cs t) (h' : IsLexeme cs t') :
    t = t' := by
  have hread : ∀ u, IsLexeme cs u → Token.read? (cs ++ []) = some (u, []) := by
    intro u hu
    rcases Token.greedy_read?.longest cs u [] hu with hsame | ⟨_, _, _, hlt, _⟩
    · exact hsame
    · cases hlt
  have hsame := (hread t h).symm.trans (hread t' h')
  rw [Option.some.injEq, Prod.mk.injEq] at hsame
  exact hsame.1

/-- The row of all blanks in front of a text. The last argument is what follows it. -/
structure BlankRun (blanks rest : List Char) : Prop where
  /-- All of them are blank. -/
  isBlank : ∀ c ∈ blanks, isBlank c = true
  /-- No blank follows. -/
  ends : rest.head?.any Text.isBlank = false

theorem BlankRun.takeWhile_eq {blanks rest : List Char} (h : BlankRun blanks rest) :
    (blanks ++ rest).takeWhile Text.isBlank = blanks ∧ dropBlanks (blanks ++ rest) = rest :=
  takeWhile_append_eq Text.isBlank blanks rest h.isBlank h.ends

theorem blankRun_takeWhile (cs : List Char) :
    BlankRun (cs.takeWhile Text.isBlank) (dropBlanks cs) where
  isBlank _ hc := List.mem_takeWhile_imp hc
  ends := by
    have hnot := List.head?_dropWhile_not Text.isBlank cs
    cases hrest : (dropBlanks cs).head? with
    | none => rfl
    | some c =>
        rw [dropBlanks] at hrest
        rw [hrest] at hnot
        exact hnot

/-- A lexeme and the blanks in front of it. -/
structure Piece where
  /-- The blanks. -/
  blanks : List Char
  /-- The lexeme. -/
  lexeme : List Char

/-- The characters of a piece. -/
def Piece.text (p : Piece) : List Char :=
  p.blanks ++ p.lexeme

/-- A text as pieces, with blanks and a rest behind them. -/
structure Munch where
  /-- The lexemes, each with the blanks in front of it. -/
  pieces : List Piece
  /-- The blanks behind the last lexeme. -/
  blanks : List Char
  /-- What follows. -/
  rest : List Char

/-- A text is taken apart into its longest lexemes. -/
inductive Munches : List Char → Munch → Prop where
  /-- No lexeme begins behind the blanks. -/
  | stop (blanks rest : List Char) (hblanks : BlankRun blanks rest)
      (hrest : ∀ front t tail, IsLexeme front t → rest ≠ front ++ tail) :
      Munches (blanks ++ rest) ⟨[], blanks, rest⟩
  /-- The longest lexeme there is behind the blanks. -/
  | piece (blanks lexeme tail : List Char) (t : Token) (m : Munch)
      (hblanks : BlankRun blanks (lexeme ++ tail)) (hlexeme : IsLexeme lexeme t)
      (hlongest : Longest IsLexeme lexeme tail) (hm : Munches tail m) :
      Munches (blanks ++ (lexeme ++ tail)) { m with pieces := ⟨blanks, lexeme⟩ :: m.pieces }

theorem next?_stop (blanks rest : List Char) (hblanks : BlankRun blanks rest)
    (hrest : ∀ front t tail, IsLexeme front t → rest ≠ front ++ tail) :
    Token.next? (blanks ++ rest) = none := by
  rw [Token.next?, hblanks.takeWhile_eq.2]
  exact (Token.greedy_read?.eq_none_iff rest).mpr hrest

theorem next?_piece (blanks lexeme tail : List Char) (t : Token)
    (hblanks : BlankRun blanks (lexeme ++ tail)) (hlexeme : IsLexeme lexeme t)
    (hlongest : Longest IsLexeme lexeme tail) :
    Token.next? (blanks ++ (lexeme ++ tail)) = some (t, tail) := by
  rw [Token.next?, hblanks.takeWhile_eq.2]
  exact (Token.greedy_read?.eq_some_iff _ tail t).mpr ⟨lexeme, rfl, hlexeme, hlongest⟩

theorem Munches.of_none (cs : List Char) (hnext : Token.next? cs = none) :
    Munches cs ⟨[], cs.takeWhile isBlank, dropBlanks cs⟩ := by
  have hstop := Munches.stop _ _ (blankRun_takeWhile cs)
    ((Token.greedy_read?.eq_none_iff _).mp hnext)
  rw [dropBlanks, List.takeWhile_append_dropWhile] at hstop
  exact hstop

theorem Munches.of_some {cs lexeme tail : List Char} {t : Token} {m : Munch}
    (hnext : Token.next? cs = some (t, tail)) (htext : dropBlanks cs = lexeme ++ tail)
    (hm : Munches tail m) :
    Munches cs { m with pieces := ⟨cs.takeWhile isBlank, lexeme⟩ :: m.pieces } := by
  rcases (Token.greedy_read?.eq_some_iff _ tail t).mp hnext with
    ⟨front, hfront, hwritten, hlongest⟩
  -- The longest lexeme is the one that is given, for both leave the same text.
  rw [htext, List.append_left_inj] at hfront
  subst hfront
  have hblanks := blankRun_takeWhile cs
  rw [htext] at hblanks
  have hpiece := Munches.piece _ lexeme tail t m hblanks hwritten hlongest hm
  rw [← htext, dropBlanks, List.takeWhile_append_dropWhile] at hpiece
  exact hpiece

/-- Every text can be taken apart. -/
theorem exists_munches (cs : List Char) : ∃ m, Munches cs m := by
  -- By induction on the run of the scan.
  induction cs using Token.scan.induct with
  | case1 cs hnext => exact ⟨_, Munches.of_none cs hnext⟩
  | case2 cs t tail hnext ih =>
      rcases ih with ⟨m, hm⟩
      rcases (Token.greedy_read?.eq_some_iff _ tail t).mp hnext with ⟨_, htext, _⟩
      exact ⟨_, Munches.of_some hnext htext hm⟩

/-- The first token tells how the text is taken apart. -/
theorem Munches.cases_next {cs : List Char} {m : Munch} (h : Munches cs m) :
    (Token.next? cs = none ∧ m = ⟨[], cs.takeWhile isBlank, dropBlanks cs⟩) ∨
      ∃ t lexeme tail m', Token.next? cs = some (t, tail) ∧ dropBlanks cs = lexeme ++ tail ∧
        Munches tail m' ∧
        m = { m' with pieces := ⟨cs.takeWhile isBlank, lexeme⟩ :: m'.pieces } := by
  cases h with
  | stop blanks rest hblanks hrest =>
      refine Or.inl ⟨next?_stop blanks rest hblanks hrest, ?_⟩
      rw [hblanks.takeWhile_eq.1, hblanks.takeWhile_eq.2]
  | piece blanks lexeme tail t m' hblanks hlexeme hlongest hm =>
      refine Or.inr ⟨t, lexeme, tail, m',
        next?_piece blanks lexeme tail t hblanks hlexeme hlongest, hblanks.takeWhile_eq.2, hm, ?_⟩
      rw [hblanks.takeWhile_eq.1]

/-- There is one way to do it. -/
theorem Munches.unique {cs : List Char} {m m' : Munch} (h : Munches cs m) (h' : Munches cs m') :
    m' = m := by
  -- By induction on one way; the other begins with the same token and leaves the same text.
  induction h generalizing m' with
  | stop blanks rest hblanks hrest =>
      rcases h'.cases_next with ⟨_, rfl⟩ | ⟨t, _, tail, _, hnext, _⟩
      · rw [hblanks.takeWhile_eq.1, hblanks.takeWhile_eq.2]
      · rw [next?_stop blanks rest hblanks hrest] at hnext
        cases hnext
  | piece blanks lexeme tail t m hblanks hlexeme hlongest hm ih =>
      have hfirst := next?_piece blanks lexeme tail t hblanks hlexeme hlongest
      rcases h'.cases_next with ⟨hnone, _⟩ | ⟨t', lexeme', tail', m'', hnext, htext, hm'', rfl⟩
      · rw [hfirst] at hnone
        cases hnone
      · rw [hfirst, Option.some.injEq, Prod.mk.injEq] at hnext
        rcases hnext with ⟨rfl, rfl⟩
        rw [hblanks.takeWhile_eq.2, List.append_left_inj] at htext
        rw [ih hm'', hblanks.takeWhile_eq.1, htext]

/-- The pieces and what is behind them are the text. -/
theorem Munches.text_eq {cs : List Char} {m : Munch} (h : Munches cs m) :
    cs = m.pieces.flatMap Piece.text ++ (m.blanks ++ m.rest) := by
  induction h with
  | stop blanks rest hblanks hrest => rfl
  | piece blanks lexeme tail t m hblanks hlexeme hlongest hm ih =>
      rw [List.flatMap_cons, Piece.text, List.append_assoc, List.append_assoc, ← ih]

/-- The tokens that are scanned are those of the lexemes. -/
theorem Munches.forall₂_scan {cs : List Char} {m : Munch} (h : Munches cs m) :
    List.Forall₂ IsLexeme (m.pieces.map Piece.lexeme) (tokensOf cs) := by
  induction h with
  | stop blanks rest hblanks hrest =>
      rw [tokensOf, scan_of_none _ (next?_stop blanks rest hblanks hrest)]
      exact .nil
  | piece blanks lexeme tail t m hblanks hlexeme hlongest hm ih =>
      rw [tokensOf_cons _ _ _ (next?_piece blanks lexeme tail t hblanks hlexeme hlongest)]
      exact .cons hlexeme ih

/-- The lexemes determine the tokens. -/
theorem Munches.forall₂_iff {cs : List Char} {m : Munch} (h : Munches cs m) (ts : List Token) :
    List.Forall₂ IsLexeme (m.pieces.map Piece.lexeme) ts ↔ ts = tokensOf cs := by
  have hscan := h.forall₂_scan
  have hright : Relator.RightUnique IsLexeme := fun _ _ _ => IsLexeme.unique
  constructor
  · exact fun hts => List.right_unique_forall₂' hright hts hscan
  · rintro rfl
    exact hscan

end Script

end PlanarMotion
