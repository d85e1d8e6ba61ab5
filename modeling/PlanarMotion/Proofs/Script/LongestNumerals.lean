import PlanarMotion.Proofs.Script.Numerals
import Mathlib.Data.List.TakeWhile

/-!
# The Longest Numeral in Front of a Text

A numeral has parts that may be missing: a sign, a fraction, an exponent and a size mark. Its reader
takes each of them if it is there, once and without going back. That it so takes the longest numeral
has to be shown, since a part that is taken early could in principle cost more than it brings.

`Greedy` says of a reader what it takes and that no other choice takes more. It also says where a
shorter choice stops: in front of a character from a known set. For a part these are the characters
with which it could have gone on, and no later part begins with one of them. So a shorter choice for
one part leaves nothing to the later ones, and greed is kept by sequencing.

What a numeral is comes from a grammar of its own, which knows nothing of the reader.

## Main definitions

* `Longest`: A row of characters that no other one beats.
* `Greedy`: A reader that takes the longest row.
* `IsNumeral`: The grammar of numerals.

## Theorems

* `Greedy.eq_some_iff`, `Greedy.eq_none_iff`: A greedy reader is known by what it takes.
* `Greedy.seq`: Sequencing keeps greed.
* `greedy_readMantissa?`, `greedy_readExponent`, `greedy_dropSuffix`: The parts are read greedily.
* `Numeral.greedy_read?`: So are numerals.
-/

namespace PlanarMotion

namespace Script

open PlanarMotion.Text

/-- No written row of characters in front of the same text is longer than this one. The last
    argument is what follows it. -/
def Longest {β : Type} (Written : List Char → β → Prop) (front rest : List Char) : Prop :=
  ∀ front' b rest', Written front' b → front ++ rest = front' ++ rest' →
    front'.length ≤ front.length

/-- A reader that takes the longest written row off the front of a text. A shorter written row stops
    in front of a character that `more` holds of. -/
structure Greedy {β : Type} (Written : List Char → β → Prop)
    (read : List Char → Option (β × List Char)) (more : Char → Bool) : Prop where
  /-- What it takes is written there. -/
  sound : ∀ cs b rest, read cs = some (b, rest) → ∃ front, cs = front ++ rest ∧ Written front b
  /-- What is written there is taken, unless more is. -/
  longest : ∀ front b rest, Written front b → read (front ++ rest) = some (b, rest) ∨
    ∃ b' rest', read (front ++ rest) = some (b', rest') ∧ rest'.length < rest.length ∧
      rest.head?.any more = true

theorem head?_any_or (rest : List Char) (p q : Char → Bool)
    (h : rest.head?.any p = true ∨ rest.head?.any q = true) :
    rest.head?.any (fun c => p c || q c) = true := by
  cases rest with
  | nil => exact h.elim id id
  | cons c cs => exact Bool.or_eq_true_iff.mpr h

section Greedy

variable {β γ : Type} {Written : List Char → β → Prop} {Next : List Char → γ → Prop}
    {read : List Char → Option (β × List Char)} {next : List Char → γ × List Char}
    {more more' : Char → Bool}

/-- A greedy reader fails exactly where nothing is written. -/
theorem Greedy.eq_none_iff (h : Greedy Written read more) (cs : List Char) :
    read cs = none ↔ ∀ front b rest, Written front b → cs ≠ front ++ rest := by
  constructor
  · rintro hnone front b rest hfront rfl
    rcases h.longest front b rest hfront with hsame | ⟨b', rest', hmore, _⟩
    · rw [hnone] at hsame
      cases hsame
    · rw [hnone] at hmore
      cases hmore
  · intro hnothing
    cases hread : read cs with
    | none => rfl
    | some answer =>
        rcases h.sound cs answer.1 answer.2 hread with ⟨front, hcs, hfront⟩
        exact absurd hcs (hnothing front _ _ hfront)

/-- It answers with the longest row, and with no other. -/
theorem Greedy.eq_some_iff (h : Greedy Written read more) (cs rest : List Char) (b : β) :
    read cs = some (b, rest) ↔
      ∃ front, cs = front ++ rest ∧ Written front b ∧ Longest Written front rest := by
  constructor
  · intro hread
    rcases h.sound cs b rest hread with ⟨front, rfl, hfront⟩
    refine ⟨front, rfl, hfront, fun front' b' rest' hfront' heq => ?_⟩
    have hlength := congrArg List.length heq
    rw [List.length_append, List.length_append] at hlength
    rw [heq] at hread
    -- What is left of the text is no longer than behind the other row.
    rcases h.longest front' b' rest' hfront' with hsame | ⟨b'', rest'', hmore, hlt, _⟩
    · rw [hread, Option.some.injEq, Prod.mk.injEq] at hsame
      rw [hsame.2] at hlength
      omega
    · rw [hread, Option.some.injEq, Prod.mk.injEq] at hmore
      rw [← hmore.2] at hlt
      omega
  · rintro ⟨front, rfl, hfront, hlongest⟩
    rcases h.longest front b rest hfront with hsame | ⟨b', rest', hmore, hlt, _⟩
    · exact hsame
    · rcases h.sound _ b' rest' hmore with ⟨front', heq, hfront'⟩
      have hlength := congrArg List.length heq
      rw [List.length_append, List.length_append] at hlength
      have hle := hlongest front' b' rest' hfront' heq
      omega

/-- A row of one grammar with a row of another behind it. -/
def Seq (Written : List Char → β → Prop) (Next : List Char → γ → Prop) (cs : List Char)
    (x : β × γ) : Prop :=
  ∃ front back, cs = front ++ back ∧ Written front x.1 ∧ Next back x.2

/-- Sequencing keeps greed, if what comes second may be missing and never begins with a character
    with which what comes first could go on. -/
theorem Greedy.seq (h : Greedy Written read more)
    (hnext : Greedy Next (fun cs => some (next cs)) more')
    (happart : ∀ cs c, Next cs c → cs.head?.any more = false) :
    Greedy (Seq Written Next)
      (fun cs => (read cs).map fun x => ((x.1, (next x.2).1), (next x.2).2))
      (fun c => more c || more' c) := by
  refine ⟨fun cs x rest hx => ?_, ?_⟩
  · rw [Option.map_eq_some_iff] at hx
    rcases hx with ⟨⟨b, middle⟩, hread, hparts⟩
    rw [Prod.mk.injEq] at hparts
    rcases hparts with ⟨rfl, rfl⟩
    rcases h.sound cs b middle hread with ⟨front, rfl, hfront⟩
    rcases hnext.sound middle _ _ rfl with ⟨back, hback, hwritten⟩
    refine ⟨front ++ back, ?_, front, back, rfl, hfront, hwritten⟩
    rw [List.append_assoc, ← hback]
  · rintro _ ⟨b, c⟩ rest ⟨front, back, rfl, hfront, hback⟩
    rw [List.append_assoc]
    rcases h.longest front b (back ++ rest) hfront with hsame | ⟨b', middle, hmore, hlt, hhead⟩
    · rw [hsame]
      rcases hnext.longest back c rest hback with hsame' | ⟨c', rest', hmore', hlt', hhead'⟩
      · rw [Option.some.injEq] at hsame'
        refine Or.inl ?_
        rw [Option.map_some, hsame']
      · rw [Option.some.injEq] at hmore'
        refine Or.inr ⟨(b, c'), rest', ?_, hlt', head?_any_or rest _ _ (Or.inr hhead')⟩
        rw [Option.map_some, hmore']
    -- The first reader took more, so nothing was written behind the shorter row.
    · have hnil : back = [] := by
        cases back with
        | nil => rfl
        | cons d ds =>
            have hfalse := happart (d :: ds) c hback
            rw [List.cons_append, List.head?_cons] at hhead
            rw [List.head?_cons, hhead] at hfalse
            cases hfalse
      rw [hnil, List.nil_append] at hmore hlt hhead ⊢
      rcases hnext.sound middle _ _ rfl with ⟨taken, htaken, _⟩
      have hlength := congrArg List.length htaken
      rw [List.length_append] at hlength
      refine Or.inr ⟨(b', (next middle).1), (next middle).2, ?_, by omega,
        head?_any_or rest _ _ (Or.inl hhead)⟩
      rw [hmore, Option.map_some]

end Greedy

/-- A row of digits, of any script. -/
def AllDigits (cs : List Char) : Prop :=
  ∀ c ∈ cs, isDigit c = true

/-- An optional sign, and whether it is a minus sign. -/
inductive SignText : List Char → Bool → Prop where
  | none : SignText [] false
  | plus : SignText ['+'] false
  | minus : SignText ['-'] true

/-- Digits around an optional point, and those on its two sides. -/
inductive MantissaText : List Char → List Char × List Char → Prop where
  | whole (ds : List Char) (hds : AllDigits ds) (hne : ds ≠ []) : MantissaText ds (ds, [])
  | point (ds fs : List Char) (hds : AllDigits ds) (hfs : AllDigits fs) (hne : ds ≠ []) :
      MantissaText (ds ++ '.' :: fs) (ds, fs)
  | fraction (fs : List Char) (hfs : AllDigits fs) (hne : fs ≠ []) :
      MantissaText ('.' :: fs) ([], fs)

/-- An optional exponent and its value. -/
inductive ExponentText : List Char → Int → Prop where
  | none : ExponentText [] 0
  | written (c : Char) (sign ds : List Char) (negative : Bool) (hc : c = 'e' ∨ c = 'E')
      (hsign : SignText sign negative) (hds : AllDigits ds) (hne : ds ≠ []) :
      ExponentText (c :: (sign ++ ds))
        (if negative then -(digitsValue ds : Int) else digitsValue ds)

/-- An optional size mark. -/
inductive SuffixText : List Char → Unit → Prop where
  | none : SuffixText [] ()
  | written (c : Char) (hc : c = 'f' ∨ c = 'F') : SuffixText [c] ()

/-- A row of characters that is a numeral, and its parts. -/
inductive IsNumeral : List Char → Numeral → Prop where
  | mk (sign mantissa exponent suffix : List Char) (negative : Bool) (whole fraction : List Char)
      (power : Int) (hsign : SignText sign negative)
      (hmantissa : MantissaText mantissa (whole, fraction))
      (hexponent : ExponentText exponent power) (hsuffix : SuffixText suffix ()) :
      IsNumeral (sign ++ (mantissa ++ exponent ++ suffix)) ⟨negative, whole, fraction, power⟩

-- Dropping characters of a kind drops none, or there is one in front.
theorem dropWhile_cases (p : Char → Bool) (cs : List Char) :
    (cs.takeWhile p = [] ∧ cs.dropWhile p = cs) ∨
      ((cs.dropWhile p).length < cs.length ∧ cs.head?.any p = true) := by
  cases cs with
  | nil => exact Or.inl ⟨rfl, rfl⟩
  | cons c cs =>
      by_cases hc : p c = true
      · have hle := (List.dropWhile_sublist p (l := cs)).length_le
        refine Or.inr ⟨?_, hc⟩
        rw [List.dropWhile_cons_of_pos hc, List.length_cons]
        omega
      · exact Or.inl ⟨List.takeWhile_cons_of_neg hc, List.dropWhile_cons_of_neg hc⟩

theorem allDigits_takeWhile (cs : List Char) : AllDigits (cs.takeWhile isDigit) :=
  fun _ hc => List.mem_takeWhile_imp hc

/-- The characters with which digits around a point could go on. -/
def continuesMantissa (c : Char) : Bool :=
  isDigit c || c == '.'

/-- The characters with which an exponent could go on, or begin. -/
def continuesExponent (c : Char) : Bool :=
  isDigit c || (c == 'e' || c == 'E')

theorem takeWhile_append_ne_nil (ds rest : List Char) (hds : AllDigits ds) (hne : ds ≠ []) :
    (ds ++ rest).takeWhile isDigit ≠ [] := by
  rw [List.takeWhile_append_of_pos hds]
  exact List.append_ne_nil_of_left_ne_nil hne _

theorem mantissaText_point (ds fs : List Char) (hds : AllDigits ds) (hfs : AllDigits fs)
    (hne : ds ≠ [] ∨ fs ≠ []) : MantissaText (ds ++ '.' :: fs) (ds, fs) := by
  by_cases hwhole : ds = []
  · subst hwhole
    exact .fraction fs hfs (hne.resolve_left fun h => h rfl)
  · exact .point ds fs hds hfs hwhole

/-- What is read as digits around a point is written so. -/
theorem readMantissa?_sound (cs whole fraction rest : List Char)
    (h : readMantissa? cs = some (whole, fraction, rest)) :
    ∃ front, cs = front ++ rest ∧ MantissaText front (whole, fraction) := by
  have hcs := List.takeWhile_append_dropWhile (p := isDigit) (l := cs)
  by_cases hpoint : (cs.dropWhile isDigit).head? = some '.'
  · rcases List.head?_eq_some_iff.mp hpoint with ⟨us, hus⟩
    have hback := List.takeWhile_append_dropWhile (p := isDigit) (l := us)
    -- A lone point would have been refused.
    have hne : cs.takeWhile isDigit ≠ [] ∨ us.takeWhile isDigit ≠ [] := by
      by_contra hnone
      rw [not_or, not_not, not_not] at hnone
      unfold readMantissa? at h
      simp only [hus, hnone.1, hnone.2] at h
      cases h
    rw [readMantissa?_of_point cs us hus hne, Option.some.injEq, Prod.mk.injEq,
      Prod.mk.injEq] at h
    rcases h with ⟨rfl, rfl, rfl⟩
    refine ⟨_, ?_, mantissaText_point _ _ (allDigits_takeWhile cs) (allDigits_takeWhile us) hne⟩
    rw [List.append_assoc, List.cons_append, hback, ← hus, hcs]
  · have hne : cs.takeWhile isDigit ≠ [] := by
      intro hnone
      unfold readMantissa? at h
      simp only [hnone] at h
      split at h
      · rename_i hus
        rw [hus] at hpoint
        exact hpoint rfl
      · cases h
    rw [readMantissa?_of_no_point cs hpoint hne, Option.some.injEq, Prod.mk.injEq,
      Prod.mk.injEq] at h
    rcases h with ⟨rfl, rfl, rfl⟩
    exact ⟨_, hcs.symm, .whole _ (allDigits_takeWhile cs) hne⟩

-- Behind whole digits, more of them are taken, and a point with what follows it.
theorem longest_whole (ds rest : List Char) (hds : AllDigits ds) (hne : ds ≠ []) :
    readMantissa? (ds ++ rest) = some (ds, [], rest) ∨
      ∃ whole fraction rest', readMantissa? (ds ++ rest) = some (whole, fraction, rest') ∧
        rest'.length < rest.length ∧ rest.head?.any continuesMantissa = true := by
  have htake := takeWhile_append_ne_nil ds rest hds hne
  have hdrop : (ds ++ rest).dropWhile isDigit = rest.dropWhile isDigit :=
    List.dropWhile_append_of_pos hds
  have hcases := dropWhile_cases isDigit rest
  by_cases hpoint : (rest.dropWhile isDigit).head? = some '.'
  · rcases List.head?_eq_some_iff.mp hpoint with ⟨us, hus⟩
    refine Or.inr ⟨_, _, _, readMantissa?_of_point _ us (hdrop.trans hus) (Or.inl htake), ?_, ?_⟩
    · have hall := length_dropDigits_le rest
      have hback := length_dropDigits_le us
      rw [hus, List.length_cons] at hall
      omega
    · refine head?_any_or rest _ _ ?_
      rcases hcases with ⟨_, hsame⟩ | ⟨_, hhead⟩
      · rw [hsame] at hus
        rw [hus]
        exact Or.inr rfl
      · exact Or.inl hhead
  -- Without a point only digits could have been taken.
  · rw [← hdrop] at hpoint
    rw [readMantissa?_of_no_point _ hpoint htake, hdrop, List.takeWhile_append_of_pos hds]
    rcases hcases with ⟨hnone, hsame⟩ | ⟨hlt, hhead⟩
    · rw [hnone, hsame, List.append_nil]
      exact Or.inl rfl
    · exact Or.inr ⟨_, _, _, rfl, hlt, head?_any_or rest _ _ (Or.inl hhead)⟩

-- Behind a point, digits are taken as long as there are any.
theorem longest_point (ds fs rest : List Char) (hds : AllDigits ds) (hfs : AllDigits fs)
    (hne : ds ≠ [] ∨ fs ≠ []) :
    readMantissa? (ds ++ '.' :: (fs ++ rest)) = some (ds, fs, rest) ∨
      ∃ whole fraction rest', readMantissa? (ds ++ '.' :: (fs ++ rest))
          = some (whole, fraction, rest') ∧
        rest'.length < rest.length ∧ rest.head?.any continuesMantissa = true := by
  have hpoint : isDigit '.' = false := by decide
  rcases takeWhile_append_eq isDigit ds ('.' :: (fs ++ rest)) hds hpoint with ⟨htake, hdrop⟩
  have hsome : (ds ++ '.' :: (fs ++ rest)).takeWhile isDigit ≠ [] ∨
      (fs ++ rest).takeWhile isDigit ≠ [] := by
    rw [htake]
    exact hne.imp_right (takeWhile_append_ne_nil fs rest hfs)
  rw [readMantissa?_of_point _ _ hdrop hsome, htake, List.takeWhile_append_of_pos hfs,
    List.dropWhile_append_of_pos hfs]
  rcases dropWhile_cases isDigit rest with ⟨hnone, hsame⟩ | ⟨hlt, hhead⟩
  · rw [hnone, hsame, List.append_nil]
    exact Or.inl rfl
  · exact Or.inr ⟨_, _, _, rfl, hlt, head?_any_or rest _ _ (Or.inl hhead)⟩

/-- Digits around a point are read greedily. -/
theorem greedy_readMantissa? :
    Greedy MantissaText
      (fun cs => (readMantissa? cs).map fun x => ((x.1, x.2.1), x.2.2)) continuesMantissa := by
  refine ⟨fun cs b rest h => ?_, fun front b rest hfront => ?_⟩
  · rw [Option.map_eq_some_iff] at h
    rcases h with ⟨⟨whole, fraction, rest'⟩, hread, hparts⟩
    rw [Prod.mk.injEq] at hparts
    rcases hparts with ⟨rfl, rfl⟩
    exact readMantissa?_sound cs whole fraction rest' hread
  · have hlongest : readMantissa? (front ++ rest) = some (b.1, b.2, rest) ∨
        ∃ whole fraction rest', readMantissa? (front ++ rest) = some (whole, fraction, rest') ∧
          rest'.length < rest.length ∧ rest.head?.any continuesMantissa = true := by
      -- The three forms of digits around a point, of which two have the point.
      cases hfront with
      | whole _ hds hne => exact longest_whole front rest hds hne
      | point ds fs hds hfs hne =>
          rw [List.append_assoc, List.cons_append]
          exact longest_point ds fs rest hds hfs (Or.inl hne)
      | fraction fs hfs hne =>
          exact longest_point [] fs rest (fun c hc => absurd hc List.not_mem_nil) hfs (Or.inr hne)
    rcases hlongest with hsame | ⟨whole, fraction, rest', hmore, hlt⟩
    · rw [hsame]
      exact Or.inl rfl
    · rw [hmore]
      exact Or.inr ⟨_, _, rfl, hlt⟩

/-- What is taken as a sign is one. -/
theorem readSign_sound (cs : List Char) :
    ∃ sign, cs = sign ++ (readSign cs).2 ∧ SignText sign (readSign cs).1 := by
  unfold readSign
  split
  · exact ⟨_, rfl, .minus⟩
  · exact ⟨_, rfl, .plus⟩
  · exact ⟨[], rfl, .none⟩

/-- The signs. -/
def isSign (c : Char) : Bool :=
  c == '+' || c == '-'

/-- A sign is taken whole if no other follows. -/
theorem SignText.readSign_append {sign : List Char} {negative : Bool} (h : SignText sign negative)
    (body : List Char) (hbody : body.head?.any isSign = false) :
    readSign (sign ++ body) = (negative, body) := by
  cases h with
  | plus => rfl
  | minus => rfl
  | none =>
      rw [List.nil_append]
      unfold readSign
      split
      · cases hbody
      · cases hbody
      · rfl

theorem head?_any_isSign (ds rest : List Char) (hds : AllDigits ds) (hne : ds ≠ []) :
    (ds ++ rest).head?.any isSign = false := by
  cases ds with
  | nil => exact absurd rfl hne
  | cons d ds =>
      have hd := hds d List.mem_cons_self
      rw [List.cons_append, List.head?_cons, Option.any_some, isSign, Bool.or_eq_false_iff,
        beq_eq_false_iff_ne, beq_eq_false_iff_ne]
      constructor
      · rintro rfl
        exact absurd hd (by decide)
      · rintro rfl
        exact absurd hd (by decide)

/-- Without digits none is taken. -/
theorem readExponent_of_no_digits (c : Char) (rest : List Char)
    (h : (readSign rest).2.takeWhile isDigit = []) : readExponent (c :: rest) = (0, c :: rest) := by
  rw [readExponent]
  split
  · simp only [h, List.isEmpty_nil, if_true]
  · rfl

theorem readExponent_of_not_mark (c : Char) (rest : List Char) (hc : ¬ (c = 'e' ∨ c = 'E')) :
    readExponent (c :: rest) = (0, c :: rest) := by
  rw [readExponent, if_neg hc]

/-- What is taken as an exponent is one. -/
theorem readExponent_sound (cs : List Char) :
    ∃ front, cs = front ++ (readExponent cs).2 ∧ ExponentText front (readExponent cs).1 := by
  cases cs with
  | nil => exact ⟨[], rfl, .none⟩
  | cons c rest =>
      by_cases hc : c = 'e' ∨ c = 'E'
      · by_cases hdigits : (readSign rest).2.takeWhile isDigit = []
        · rw [readExponent_of_no_digits c rest hdigits]
          exact ⟨[], rfl, .none⟩
        · rw [readExponent_of_digits c rest hc hdigits]
          rcases readSign_sound rest with ⟨sign, hrest, hsign⟩
          refine ⟨_, ?_, .written c sign _ _ hc hsign (allDigits_takeWhile _) hdigits⟩
          rw [List.cons_append, List.append_assoc, List.takeWhile_append_dropWhile, ← hrest]
      · rw [readExponent_of_not_mark c rest hc]
        exact ⟨[], rfl, .none⟩

/-- Exponents are read greedily. -/
theorem greedy_readExponent :
    Greedy ExponentText (fun cs => some (readExponent cs)) continuesExponent := by
  refine ⟨fun cs b rest h => ?_, fun front b rest hfront => ?_⟩
  · rw [Option.some.injEq] at h
    have hsound := readExponent_sound cs
    rwa [h] at hsound
  · cases hfront with
    | none =>
        rw [List.nil_append]
        cases rest with
        | nil => exact Or.inl rfl
        | cons c rest =>
            -- A mark without digits behind it is given back.
            by_cases hc : c = 'e' ∨ c = 'E'
            · by_cases hdigits : (readSign rest).2.takeWhile isDigit = []
              · rw [readExponent_of_no_digits c rest hdigits]
                exact Or.inl rfl
              -- None is written where one could be: the text goes on with its mark.
              · have hsign := readSign_length_le rest
                have hdrop := length_dropDigits_le (readSign rest).2
                rw [readExponent_of_digits c rest hc hdigits]
                refine Or.inr ⟨_, _, rfl, ?_, ?_⟩
                · rw [List.length_cons]
                  omega
                · rcases hc with rfl | rfl <;> rfl
            · rw [readExponent_of_not_mark c rest hc]
              exact Or.inl rfl
    | written c sign ds negative hc hsign hds hne =>
        have hread := hsign.readSign_append (ds ++ rest) (head?_any_isSign ds rest hds hne)
        have hdigits : (readSign (sign ++ (ds ++ rest))).2.takeWhile isDigit ≠ [] := by
          rw [hread]
          exact takeWhile_append_ne_nil ds rest hds hne
        rw [List.cons_append, List.append_assoc, readExponent_of_digits c _ hc hdigits, hread,
          List.takeWhile_append_of_pos hds, List.dropWhile_append_of_pos hds]
        rcases dropWhile_cases isDigit rest with ⟨hnone, hsame⟩ | ⟨hlt, hhead⟩
        · rw [hnone, hsame, List.append_nil]
          exact Or.inl rfl
        · exact Or.inr ⟨_, _, rfl, hlt, head?_any_or rest _ _ (Or.inl hhead)⟩

/-- The size marks. -/
def isSuffix (c : Char) : Bool :=
  c == 'f' || c == 'F'

/-- Size marks are read greedily. -/
theorem greedy_dropSuffix : Greedy SuffixText (fun cs => some ((), dropSuffix cs)) isSuffix := by
  refine ⟨fun cs b rest h => ?_, fun front b rest hfront => ?_⟩
  · rw [Option.some.injEq, Prod.mk.injEq] at h
    rw [← h.2]
    cases cs with
    | nil => exact ⟨[], rfl, .none⟩
    | cons c cs =>
        by_cases hc : c = 'f' ∨ c = 'F'
        · rw [dropSuffix, if_pos hc]
          exact ⟨[c], rfl, .written c hc⟩
        · rw [dropSuffix, if_neg hc]
          exact ⟨[], rfl, .none⟩
  · cases hfront with
    | none =>
        rw [List.nil_append]
        cases rest with
        | nil => exact Or.inl rfl
        | cons c cs =>
            by_cases hc : c = 'f' ∨ c = 'F'
            · rw [dropSuffix, if_pos hc]
              refine Or.inr ⟨(), cs, rfl, Nat.lt_succ_self _, ?_⟩
              rcases hc with rfl | rfl <;> rfl
            · rw [dropSuffix, if_neg hc]
              exact Or.inl rfl
    | written c hc =>
        rw [List.singleton_append, dropSuffix, if_pos hc]
        exact Or.inl rfl

/-- The unsigned part of a numeral. -/
def readUnsigned? (cs : List Char) :
    Option ((((List Char × List Char) × Int) × Unit) × List Char) :=
  (((readMantissa? cs).map fun x => ((x.1, x.2.1), x.2.2)).map fun x =>
    ((x.1, (readExponent x.2).1), (readExponent x.2).2)).map fun x =>
    ((x.1, ()), dropSuffix x.2)

theorem Numeral.read?_eq (cs : List Char) :
    Numeral.read? cs = (readUnsigned? (readSign cs).2).map fun x =>
      (⟨(readSign cs).1, x.1.1.1.1, x.1.1.1.2, x.1.1.2⟩, x.2) := by
  unfold Numeral.read? readUnsigned?
  rw [Option.map_map, Option.map_map, Option.map_map]
  rfl

/-- The characters with which a numeral could go on. -/
def continuesNumeral (c : Char) : Bool :=
  continuesMantissa c || continuesExponent c || isSuffix c

/-- The unsigned part is read greedily, since no part begins as an earlier one goes on. -/
theorem greedy_readUnsigned? :
    Greedy (Seq (Seq MantissaText ExponentText) SuffixText) readUnsigned? continuesNumeral := by
  have hmark : ∀ c, c = 'e' ∨ c = 'E' → continuesMantissa c = false := by
    rintro c (rfl | rfl) <;> decide
  have hsuffix : ∀ c, c = 'f' ∨ c = 'F' → (continuesMantissa c || continuesExponent c) = false := by
    rintro c (rfl | rfl) <;> decide
  refine (greedy_readMantissa?.seq greedy_readExponent ?_).seq greedy_dropSuffix ?_
  · intro cs power hcs
    cases hcs with
    | none => rfl
    | written c _ _ _ hc => exact hmark c hc
  · intro cs _ hcs
    cases hcs with
    | none => rfl
    | written c hc => exact hsuffix c hc

theorem MantissaText.head?_any_isSign {front : List Char} {x : List Char × List Char}
    (h : MantissaText front x) (rest : List Char) : (front ++ rest).head?.any isSign = false := by
  cases h with
  | whole _ hds hne => exact Script.head?_any_isSign front rest hds hne
  | point ds fs hds hfs hne =>
      rw [List.append_assoc]
      exact Script.head?_any_isSign ds _ hds hne
  | fraction fs hfs hne => rfl

/-- The reader of numerals takes the longest numeral in front of a text. -/
theorem Numeral.greedy_read? : Greedy IsNumeral Numeral.read? continuesNumeral := by
  refine ⟨fun cs n rest h => ?_, ?_⟩
  · rw [Numeral.read?_eq, Option.map_eq_some_iff] at h
    rcases h with ⟨⟨x, rest'⟩, hread, hparts⟩
    rw [Prod.mk.injEq] at hparts
    rcases hparts with ⟨rfl, rfl⟩
    rcases greedy_readUnsigned?.sound _ x rest' hread with
      ⟨_, hback, _, suffix, rfl, ⟨mantissa, exponent, rfl, hmantissa, hexponent⟩, hsuffix⟩
    rcases readSign_sound cs with ⟨sign, hcs, hsign⟩
    refine ⟨sign ++ (mantissa ++ exponent ++ suffix), ?_,
      .mk sign mantissa exponent suffix _ _ _ _ hsign hmantissa hexponent hsuffix⟩
    rw [List.append_assoc, ← hback, ← hcs]
  · rintro _ _ rest ⟨sign, mantissa, exponent, suffix, negative, whole, fraction, power, hsign,
      hmantissa, hexponent, hsuffix⟩
    -- No digits and no point are taken for a sign, so the one that is written is the one taken.
    have hread := hsign.readSign_append (mantissa ++ exponent ++ suffix ++ rest) (by
      rw [List.append_assoc, List.append_assoc]
      exact hmantissa.head?_any_isSign _)
    rw [List.append_assoc, Numeral.read?_eq, hread]
    rcases greedy_readUnsigned?.longest (mantissa ++ exponent ++ suffix)
        (((whole, fraction), power), ()) rest
        ⟨_, suffix, rfl, ⟨mantissa, exponent, rfl, hmantissa, hexponent⟩, hsuffix⟩ with
      hsame | ⟨x, rest', hmore, hlt⟩
    · rw [hsame]
      exact Or.inl rfl
    · rw [hmore]
      exact Or.inr ⟨_, rest', rfl, hlt⟩

-- The mark of an exponent without digits is given back.
example : Numeral.read? ['1', '.', 'e', '+'] = some (⟨false, ['1'], [], 0⟩, ['e', '+']) := by
  decide

end Script

end PlanarMotion
