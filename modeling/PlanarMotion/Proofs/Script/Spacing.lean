import PlanarMotion.Script.Reader
import PlanarMotion.Proofs.Script.Tokenizer

/-!
# Blanks Between Lexemes

Blanks can be put into a text in front of its first token, between two tokens and behind the last
one, and the text is read as before. This is not clear from how tokens are read. A numeral gives
back an exponent without digits, so what is behind a lexeme takes part in where it ends. And behind
the last token a character stands that begins none, such as a sign without digits, and none may
begin there afterwards.

Both are settled by one observation. No lexeme has a blank in it, so what is written in front of a
text is decided by the characters up to its first blank. Blanks that are put in leave a part of
these, or all of them, and so bring no lexeme that was not there. The lexeme that was there stays,
unless a blank is put into it.

`Spaced` says of two texts that one is the other with blanks put in, and nothing of where they are.
That is all the observation needs. Where blanks may be put in for the lexemes to stay is said by
position: `withGaps` puts a row of characters in at every position, and `InsideLexeme` says which
positions are left out.

## Main definitions

* `Spaced`: A text with blanks put in.
* `inserted`, `withGaps`: A text with a given row put in at each position.
* `Munch.Cuts`, `InsideLexeme`: The positions inside a lexeme.

## Theorems

* `IsLexeme.not_isBlank`: No lexeme has a blank in it.
* `Spaced.isPrefix_of_isPrefix`: Up to the first blank, nothing is new.
* `Longest.spaced`, `Spaced.next?_eq_none`: Blanks bring no lexeme.
* `Munches.exists_inserted`: With blanks between them, the lexemes are the same.
* `read_withGaps`: So are the tokens, and what is read.
-/

namespace PlanarMotion

namespace Script

open PlanarMotion.Number PlanarMotion.Text

theorem SignText.not_isBlank {cs : List Char} {negative : Bool} (h : SignText cs negative) :
    ∀ c ∈ cs, isBlank c = false := by
  cases h with
  | none => exact fun c hc => absurd hc List.not_mem_nil
  | plus => exact List.forall_mem_singleton.mpr (by decide)
  | minus => exact List.forall_mem_singleton.mpr (by decide)

theorem AllDigits.not_isBlank {cs : List Char} (h : AllDigits cs) : ∀ c ∈ cs, isBlank c = false :=
  fun c hc => isBlank_of_isDigit c (h c hc)

theorem MantissaText.not_isBlank {cs : List Char} {x : List Char × List Char}
    (h : MantissaText cs x) : ∀ c ∈ cs, isBlank c = false := by
  have hpoint : isBlank '.' = false := by decide
  cases h with
  | whole _ hds _ => exact hds.not_isBlank
  | point ds fs hds hfs _ =>
      exact List.forall_mem_append.mpr
        ⟨hds.not_isBlank, List.forall_mem_cons.mpr ⟨hpoint, hfs.not_isBlank⟩⟩
  | fraction fs hfs _ => exact List.forall_mem_cons.mpr ⟨hpoint, hfs.not_isBlank⟩

theorem ExponentText.not_isBlank {cs : List Char} {power : Int} (h : ExponentText cs power) :
    ∀ c ∈ cs, isBlank c = false := by
  cases h with
  | none => exact fun c hc => absurd hc List.not_mem_nil
  | written c sign ds _ hc hsign hds _ =>
      refine List.forall_mem_cons.mpr
        ⟨?_, List.forall_mem_append.mpr ⟨hsign.not_isBlank, hds.not_isBlank⟩⟩
      rcases hc with rfl | rfl <;> decide

theorem SuffixText.not_isBlank {cs : List Char} (h : SuffixText cs ()) :
    ∀ c ∈ cs, isBlank c = false := by
  cases h with
  | none => exact fun c hc => absurd hc List.not_mem_nil
  | written c hc =>
      refine List.forall_mem_singleton.mpr ?_
      rcases hc with rfl | rfl <;> decide

/-- No part of a numeral has a blank in it, so no numeral has. -/
theorem IsNumeral.not_isBlank {cs : List Char} {n : Numeral} (h : IsNumeral cs n) :
    ∀ c ∈ cs, isBlank c = false := by
  cases h with
  | mk _ _ _ _ _ _ _ _ hsign hmantissa hexponent hsuffix =>
      simp only [List.forall_mem_append]
      exact ⟨hsign.not_isBlank, ⟨hmantissa.not_isBlank, hexponent.not_isBlank⟩,
        hsuffix.not_isBlank⟩

/-- No character of a name is blank. -/
theorem isBlank_of_continuesName (c : Char) (h : continuesName c = true) : isBlank c = false := by
  rcases Bool.or_eq_true_iff.mp h with hletter | hunderscore
  · rcases Bool.or_eq_true_iff.mp hletter with halpha | hdigit
    · have hrange := toNat_of_startsName c (Bool.or_eq_true_iff.mpr (Or.inl halpha))
      exact isBlank_of_range c (by omega) (by omega)
    · exact isBlank_of_isDigit c (isDigit_of_isDigit c hdigit)
  · rw [beq_iff_eq.mp hunderscore]
    decide

theorem continuesName_of_startsName (c : Char) (h : startsName c = true) :
    continuesName c = true := by
  rcases Bool.or_eq_true_iff.mp h with halpha | hunderscore
  · exact Bool.or_eq_true_iff.mpr (Or.inl (Bool.or_eq_true_iff.mpr (Or.inl halpha)))
  · exact Bool.or_eq_true_iff.mpr (Or.inr hunderscore)

/-- No lexeme has a blank in it. -/
theorem IsLexeme.not_isBlank {cs : List Char} {t : Token} (h : IsLexeme cs t) :
    ∀ c ∈ cs, isBlank c = false := by
  cases h with
  | number _ n _ hn => exact hn.not_isBlank
  | name c cs hstart hcs =>
      exact List.forall_mem_cons.mpr
        ⟨isBlank_of_continuesName c (continuesName_of_startsName c hstart),
          fun d hd => isBlank_of_continuesName d (hcs d hd)⟩
  | mark m =>
      refine List.forall_mem_singleton.mpr ?_
      cases m <;> decide

/-- Blanks in front of a lexeme are all there are. -/
theorem IsLexeme.blankRun {lexeme : List Char} {t : Token} (h : IsLexeme lexeme t)
    {blanks : List Char} (hblanks : ∀ c ∈ blanks, isBlank c = true) (tail : List Char) :
    BlankRun blanks (lexeme ++ tail) where
  isBlank := hblanks
  ends := by
    cases lexeme with
    | nil => exact absurd rfl h.ne_nil
    | cons c cs => exact h.not_isBlank c List.mem_cons_self

/-- A text with blanks put in. -/
inductive Spaced : List Char → List Char → Prop where
  /-- Nothing is left. -/
  | nil : Spaced [] []
  /-- A blank is put in. -/
  | blank (c : Char) (cs ds : List Char) (hc : isBlank c = true) (h : Spaced cs ds) :
      Spaced cs (c :: ds)
  /-- A character of the text. -/
  | keep (c : Char) (cs ds : List Char) (h : Spaced cs ds) : Spaced (c :: cs) (c :: ds)

theorem Spaced.append_left {cs ds : List Char} (h : Spaced cs ds) (front : List Char) :
    Spaced (front ++ cs) (front ++ ds) := by
  induction front with
  | nil => exact h
  | cons c front ih => exact .keep c _ _ ih

/-- A row of blanks is put in one by one. -/
theorem Spaced.blanks {cs ds : List Char} (h : Spaced cs ds) (blanks : List Char)
    (hblanks : ∀ c ∈ blanks, isBlank c = true) : Spaced cs (blanks ++ ds) := by
  induction blanks with
  | nil => exact h
  | cons c blanks ih =>
      rcases List.forall_mem_cons.mp hblanks with ⟨hc, hblanks⟩
      exact .blank c _ _ hc (ih hblanks)

/-- What has no blank in it and stands in front of a text with blanks put in, stood there before. -/
theorem Spaced.isPrefix_of_isPrefix {cs ds front : List Char} (h : Spaced cs ds)
    (hfront : ∀ c ∈ front, isBlank c = false) (hds : front <+: ds) : front <+: cs := by
  induction h generalizing front with
  | nil => exact hds
  | blank c cs ds hc h ih =>
      cases front with
      | nil => exact ⟨cs, rfl⟩
      | cons d front =>
          -- It cannot begin with the blank.
          rcases List.cons_prefix_cons.mp hds with ⟨rfl, _⟩
          rw [hfront d List.mem_cons_self] at hc
          cases hc
  | keep c cs ds h ih =>
      cases front with
      | nil => exact ⟨c :: cs, rfl⟩
      | cons d front =>
          rcases List.cons_prefix_cons.mp hds with ⟨rfl, hrest⟩
          exact List.cons_prefix_cons.mpr ⟨rfl, ih (List.forall_mem_cons.mp hfront).2 hrest⟩

/-- Behind the blanks in front, one text is still the other with blanks put in. -/
theorem Spaced.behindBlanks {cs ds : List Char} (h : Spaced cs ds) :
    Spaced (dropBlanks cs) (dropBlanks ds) := by
  induction h with
  | nil => exact .nil
  | blank c cs ds hc h ih =>
      rw [dropBlanks, dropBlanks, List.dropWhile_cons_of_pos hc]
      exact ih
  | keep c cs ds h ih =>
      by_cases hc : isBlank c = true
      · rw [dropBlanks, dropBlanks, List.dropWhile_cons_of_pos hc, List.dropWhile_cons_of_pos hc]
        exact ih
      · rw [dropBlanks, dropBlanks, List.dropWhile_cons_of_neg hc, List.dropWhile_cons_of_neg hc]
        exact .keep c cs ds h

/-- Blanks behind a lexeme bring no longer one. -/
theorem Longest.spaced {lexeme tail tail' : List Char} (h : Longest IsLexeme lexeme tail)
    (htail : Spaced tail tail') : Longest IsLexeme lexeme tail' := by
  intro front t rest hfront heq
  rcases (htail.append_left lexeme).isPrefix_of_isPrefix hfront.not_isBlank ⟨rest, heq.symm⟩ with
    ⟨rest', hrest'⟩
  exact h front t rest' hfront hrest'.symm

/-- Where no token begins, blanks bring none. -/
theorem Spaced.next?_eq_none {cs ds : List Char} (h : Spaced cs ds)
    (hnext : Token.next? cs = none) : Token.next? ds = none := by
  rw [Token.next?, Token.greedy_read?.eq_none_iff] at hnext ⊢
  intro front t rest hfront heq
  rcases h.behindBlanks.isPrefix_of_isPrefix hfront.not_isBlank ⟨rest, heq.symm⟩ with
    ⟨rest', hrest'⟩
  exact hnext front t rest' hfront hrest'.symm

/-- A row of characters with others put in. At each position a row is put in front of the character
    there, and a last one behind all characters. -/
def inserted (gaps : Nat → List Char) : List Char → List Char
  | [] => gaps 0
  | c :: cs => gaps 0 ++ c :: inserted (fun k => gaps (k + 1)) cs

/-- A text with rows of characters put in. -/
def withGaps (gaps : Nat → List Char) (text : String) : String :=
  String.ofList (inserted gaps text.toList)

/-- Rows of blanks that are put in are blanks that are put in. -/
theorem spaced_inserted (gaps : Nat → List Char) (cs : List Char)
    (hgaps : ∀ k, ∀ c ∈ gaps k, isBlank c = true) : Spaced cs (inserted gaps cs) := by
  induction cs generalizing gaps with
  | nil =>
      have hend := Spaced.nil.blanks (gaps 0) (hgaps 0)
      rwa [List.append_nil] at hend
  | cons c cs ih =>
      have hrest := ih (fun k => gaps (k + 1)) fun k => hgaps (k + 1)
      exact (Spaced.keep c _ _ hrest).blanks (gaps 0) (hgaps 0)

/-- Characters with nothing put in among them stay together. -/
theorem inserted_append (gaps : Nat → List Char) (cs ds : List Char)
    (hcs : ∀ k, k < cs.length → gaps k = []) :
    inserted gaps (cs ++ ds) = cs ++ inserted (fun k => gaps (k + cs.length)) ds := by
  induction cs generalizing gaps with
  | nil => rfl
  | cons c cs ih =>
      rw [List.cons_append, inserted, hcs 0 (Nat.zero_lt_succ _), List.nil_append,
        ih _ fun k hk => hcs (k + 1) (Nat.succ_lt_succ hk)]
      rfl

/-- A lexeme with nothing put in among its characters stays together, with blanks in front. -/
theorem exists_inserted_piece (gaps : Nat → List Char) (blanks lexeme tail : List Char)
    (hgaps : ∀ k, ∀ c ∈ gaps k, isBlank c = true) (hblanks : ∀ c ∈ blanks, isBlank c = true)
    (hne : lexeme ≠ [])
    (hwhole : ∀ k, blanks.length < k → k < blanks.length + lexeme.length → gaps k = []) :
    ∃ blanks', (∀ c ∈ blanks', isBlank c = true) ∧
      inserted gaps (blanks ++ (lexeme ++ tail))
        = blanks' ++ (lexeme ++ inserted (fun k => gaps (k + (blanks ++ lexeme).length)) tail) := by
  induction blanks generalizing gaps with
  | nil =>
      cases lexeme with
      | nil => exact absurd rfl hne
      | cons c cs =>
          -- The only row that is put in is the one in front.
          refine ⟨gaps 0, hgaps 0, ?_⟩
          rw [List.nil_append, List.cons_append, inserted, inserted_append _ cs tail fun k hk =>
            hwhole (k + 1) (Nat.zero_lt_succ k) (by rw [List.length_cons, List.length_nil]; omega)]
          rfl
  | cons b blanks ih =>
      rcases List.forall_mem_cons.mp hblanks with ⟨hb, hblanks⟩
      rcases ih (fun k => gaps (k + 1)) (fun k => hgaps (k + 1)) hblanks fun k hlow hhigh =>
        hwhole (k + 1) (by rw [List.length_cons]; omega) (by rw [List.length_cons]; omega) with
        ⟨blanks', hblanks', htext⟩
      refine ⟨gaps 0 ++ b :: blanks',
        List.forall_mem_append.mpr ⟨hgaps 0, List.forall_mem_cons.mpr ⟨hb, hblanks'⟩⟩, ?_⟩
      rw [List.cons_append, inserted, htext, List.append_assoc]
      rfl

/-- A position is inside a lexeme if characters of it are in front and others behind. -/
def Munch.Cuts (m : Munch) (k : Nat) : Prop :=
  ∃ j p, m.pieces[j]? = some p ∧ m.ends j + p.blanks.length < k ∧ k < m.ends (j + 1)

/-- A position of a text is inside one of the lexemes into which it is taken apart. -/
def InsideLexeme (text : String) (k : Nat) : Prop :=
  ∃ m, Munches text.toList m ∧ m.Cuts k

theorem Munch.ends_cons (p : Piece) (m : Munch) (j : Nat) :
    ({ m with pieces := p :: m.pieces } : Munch).ends (j + 1) = p.text.length + m.ends j := by
  rw [Munch.ends, List.take_succ_cons, List.flatMap_cons, List.length_append]
  rfl

/-- The positions inside the first lexeme. -/
theorem Munch.cuts_first (p : Piece) (m : Munch) (k : Nat) (hlow : p.blanks.length < k)
    (hhigh : k < p.blanks.length + p.lexeme.length) :
    ({ m with pieces := p :: m.pieces } : Munch).Cuts k := by
  refine ⟨0, p, rfl, ?_, ?_⟩
  · rw [Munch.ends, List.take_zero, List.flatMap_nil, List.length_nil]
    omega
  · rw [Munch.ends_cons, Piece.text, List.length_append]
    omega

/-- The positions inside the others. -/
theorem Munch.Cuts.cons {m : Munch} {k : Nat} (h : m.Cuts k) (p : Piece) :
    ({ m with pieces := p :: m.pieces } : Munch).Cuts (k + p.text.length) := by
  rcases h with ⟨j, q, hq, hlow, hhigh⟩
  refine ⟨j + 1, q, hq, ?_, ?_⟩
  · rw [Munch.ends_cons]
    omega
  · rw [Munch.ends_cons]
    omega

/-- A text with blanks put in, but not into a lexeme, is taken apart into the same lexemes. What is
    not read is the same up to blanks. -/
theorem Munches.exists_inserted {cs : List Char} {m : Munch} (h : Munches cs m)
    (gaps : Nat → List Char) (hgaps : ∀ k, ∀ c ∈ gaps k, isBlank c = true)
    (hwhole : ∀ k, m.Cuts k → gaps k = []) :
    ∃ m', Munches (inserted gaps cs) m' ∧
      m'.pieces.map Piece.lexeme = m.pieces.map Piece.lexeme ∧ Spaced m.rest m'.rest := by
  -- By induction on how the text is taken apart; the rows to put in go with what is left of it.
  induction h generalizing gaps with
  | stop blanks rest hblanks hrest =>
      have hspaced := spaced_inserted gaps (blanks ++ rest) hgaps
      have hnone := hspaced.next?_eq_none (next?_stop blanks rest hblanks hrest)
      have hbehind := hspaced.behindBlanks
      rw [hblanks.takeWhile_eq.2] at hbehind
      exact ⟨_, Munches.of_none _ hnone, rfl, hbehind⟩
  | piece blanks lexeme tail t m hblanks hlexeme hlongest hm ih =>
      -- The first lexeme stays together, and nothing longer comes up in its place.
      rcases exists_inserted_piece gaps blanks lexeme tail hgaps hblanks.isBlank hlexeme.ne_nil
        fun k hlow hhigh => hwhole k (m.cuts_first ⟨blanks, lexeme⟩ k hlow hhigh) with
        ⟨blanks', hblanks', htext⟩
      have hbehind : ∀ k, ∀ c ∈ gaps (k + (blanks ++ lexeme).length), isBlank c = true :=
        fun k => hgaps _
      rcases ih _ hbehind fun k hk => hwhole _ (hk.cons ⟨blanks, lexeme⟩) with
        ⟨m', hm', hlexemes, hrest⟩
      have hpiece := Munches.piece blanks' lexeme _ t m' (hlexeme.blankRun hblanks' _) hlexeme
        (hlongest.spaced (spaced_inserted _ tail hbehind)) hm'
      rw [← htext] at hpiece
      refine ⟨_, hpiece, ?_, hrest⟩
      rw [List.map_cons, List.map_cons, hlexemes]

/-- Layout does not matter. Whatever blanks are put into a text at whatever positions that are not
    inside a lexeme, its tokens are the same, and so is the program that is read from it or the
    cause for which it is rejected. -/
theorem read_withGaps (text : String) (gaps : Nat → List Char)
    (hblank : ∀ k, ∀ c ∈ gaps k, isBlank c = true)
    (hwhole : ∀ k, InsideLexeme text k → gaps k = []) :
    Token.ofText (withGaps gaps text) = Token.ofText text ∧
      read (withGaps gaps text) = read text := by
  rcases exists_munches text.toList with ⟨m, hm⟩
  rcases hm.exists_inserted gaps hblank fun k hk => hwhole k ⟨m, hm, hk⟩ with
    ⟨m', hm', hlexemes, _⟩
  have htokens : Token.ofText (withGaps gaps text) = Token.ofText text := by
    -- Tokens are determined by the lexemes, which are those of the text.
    have hscan := hm'.forall₂_scan
    rw [hlexemes, hm.forall₂_iff] at hscan
    rw [Token.ofText, withGaps, String.toList_ofList]
    exact hscan
  refine ⟨htokens, ?_⟩
  rw [read, read, htokens]

-- Inside a lexeme a blank is not layout.
example : tokensOf ['2', ' ', '5'] ≠ tokensOf ['2', '5'] := by decide +kernel

/-- A numeral gives back an exponent without digits, and a sign behind it begins no token. Blanks at
    all positions outside the two lexemes change nothing. -/
theorem read_withGaps_givenBack :
    let gaps : Nat → List Char := fun k => if k = 1 ∨ k = 2 then [] else [' ']
    (∀ k, ∀ c ∈ gaps k, isBlank c = true) ∧ (∀ k, InsideLexeme "1.5e+" k → gaps k = []) ∧
      withGaps gaps "1.5e+" = " 1.5 e + " ∧
      Token.ofText (withGaps gaps "1.5e+") = Token.ofText "1.5e+" ∧
      read (withGaps gaps "1.5e+") = read "1.5e+" := by
  intro gaps
  have hblank : ∀ k, ∀ c ∈ gaps k, isBlank c = true := by
    intro k
    by_cases hk : k = 1 ∨ k = 2
    · rw [show gaps k = [] from if_pos hk]
      exact fun c hc => absurd hc List.not_mem_nil
    · rw [show gaps k = [' '] from if_neg hk]
      exact List.forall_mem_singleton.mpr (by decide)
  have hmunches : Munches "1.5e+".toList ⟨[⟨[], ['1', '.', '5']⟩, ⟨[], ['e']⟩], [], ['+']⟩ := by
    have hnumber : Token.next? ['1', '.', '5', 'e', '+'] = some (.number 1.5, ['e', '+']) := by
      decide +kernel
    have hname : Token.next? ['e', '+'] = some (.name "e", ['+']) := by decide +kernel
    have hnone : Token.next? ['+'] = none := by decide +kernel
    exact .of_some hnumber rfl (.of_some hname rfl (.of_none _ hnone))
  have hwhole : ∀ k, InsideLexeme "1.5e+" k → gaps k = [] := by
    rintro k ⟨m, hm, j, p, hp, hlow, hhigh⟩
    rw [hmunches.unique hm] at hp hlow hhigh
    refine if_pos ?_
    match j with
    | 0 =>
        cases hp
        change 0 < k at hlow
        change k < 3 at hhigh
        omega
    | 1 =>
        cases hp
        change 3 < k at hlow
        change k < 4 at hhigh
        omega
    | j + 2 => cases hp
  have hread := read_withGaps "1.5e+" gaps hblank hwhole
  exact ⟨hblank, hwhole, by decide, hread.1, hread.2⟩

end Script

end PlanarMotion
