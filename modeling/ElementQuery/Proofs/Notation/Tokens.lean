import ElementQuery.Proofs.Notation.Spelling

/-!
# Texts as tokens

What the tokens of a text are, whatever is expected where. Which texts are tokens of a sort is said
by a predicate for each sort; a token in front of more text is the longest one of any sort; and a
text is cut into tokens from left to right, separators left out.

## Main definitions

* `Terminal.Matches` : the texts that are tokens of a sort.
* `IsToken` : the longest token at the start of a text.
* `EndsAt` : whether a character behind tokens leaves the last one as it is.
* `Lexes` : the tokens at the start of a text, with what is left.
* `Tokenizes` : the tokens of a whole text.

## Main statements

* `isToken_iff` : the longest token of any sort is the one that is read for its sort.
* `Lexes.replace` : the tokens at the start hardly depend on what is left.
* `Tokenizes.unique` : a text has its tokens in one way.
* `Tokenizes.exists_append` : any tokens can be made to follow those of a text.
-/

namespace ElementQuery.Notation

open ElementQuery.Text

/-- The texts that are tokens of a sort. -/
inductive Terminal.Matches : Terminal → List Char → Prop where
  | openMap : Matches .openMap ['{']
  | closeMap : Matches .closeMap ['}']
  | openVector : Matches .openVector ['[']
  | closeVector : Matches .closeVector [']']
  | keyword {name : List Char} (hne : name ≠ []) (hname : ∀ c ∈ name, isKeywordChar c = true) :
      Matches .keyword (':' :: name)
  | string {body : List Char} (h : IsQuotedBody body) : Matches .string ('"' :: (body ++ ['"']))
  | regex {body : List Char} (h : IsQuotedBody body) :
      Matches .regex ('#' :: '"' :: (body ++ ['"']))
  | integer {sign digits : List Char} (hsign : sign ∈ signs) (hne : digits ≠ [])
      (hdigits : ∀ c ∈ digits, isAsciiDigit c = true) : Matches .integer (sign ++ digits)

/-- Whether a character lengthens the tokens of a sort. -/
def Terminal.goesOn : Terminal → Char → Bool
  | keyword, c => isKeywordChar c
  | integer, c => isAsciiDigit c
  | _, _ => false

/-- The longest token at the start of a text, of whatever sort. -/
def IsToken (t : Terminal) (lexeme rest : List Char) : Prop :=
  t.Matches lexeme ∧
    ∀ (u : Terminal) longer, u.Matches longer → longer <+: lexeme ++ rest →
      longer.length ≤ lexeme.length

/-- No token goes on with what cannot be in a keyword. -/
theorem Terminal.goesOn_eq_false {c : Char} (h : isKeywordChar c = false) (t : Terminal) :
    t.goesOn c = false := by
  cases t with
  | keyword => exact h
  | integer => exact isAsciiDigit_eq_false h
  | _ => rfl

/-- Whether a character behind tokens does not lengthen the last one. -/
def EndsAt (tokens : List Token) (c : Char) : Prop :=
  ∀ t ∈ tokens.getLast?, t.terminal.goesOn c = false

/-- Where no keyword can go on, no token can. -/
theorem IsBoundary.endsAt {rest : List Char} (h : IsBoundary rest) (tokens : List Token) :
    ∀ c, rest.head? = some c → EndsAt tokens c :=
  fun c hc t _ => Terminal.goesOn_eq_false (h c hc) t.terminal

namespace Terminal.Matches

variable {t : Terminal} {lexeme : List Char}

/-- A token that goes on is still of its sort. -/
theorem append (h : t.Matches lexeme) {run : List Char} (hrun : ∀ c ∈ run, t.goesOn c = true) :
    t.Matches (lexeme ++ run) := by
  -- Brackets and quoted texts are lengthened by nothing.
  have hnil : (∀ c, t.goesOn c = false) → run = [] := by
    intro hnone
    rw [List.eq_nil_iff_forall_not_mem]
    intro c hc
    have hgo := hrun c hc
    rw [hnone c] at hgo
    cases hgo
  cases h with
  | openMap | closeMap | openVector | closeVector | string | regex =>
    rw [hnil fun _ => rfl, List.append_nil]
    constructor <;> assumption
  | keyword hne hname =>
    refine .keyword (by simp [hne]) ?_
    intro c hc
    exact (List.mem_append.1 hc).elim (hname c) (hrun c)
  | integer hsign hne hdigits =>
    rw [List.append_assoc]
    refine .integer hsign (by simp [hne]) ?_
    intro c hc
    exact (List.mem_append.1 hc).elim (hdigits c) (hrun c)

/-- A token is read off a text that does not lengthen it. -/
theorem read?_append (h : t.Matches lexeme) {rest : List Char}
    (hrest : ∀ c, rest.head? = some c → t.goesOn c = false) :
    t.read? (lexeme ++ rest) = some (lexeme, rest) := by
  cases h with
  | openMap => exact readChar?_append '{' rest
  | closeMap => exact readChar?_append '}' rest
  | openVector => exact readChar?_append '[' rest
  | closeVector => exact readChar?_append ']' rest
  | keyword hne hname => exact readKeyword?_append hne hname hrest
  | string h => simp [Terminal.read?, readString?, readQuoted?_append h]
  | regex h => simp [Terminal.read?, readRegex?, readQuoted?_append h]
  | integer hsign hne hdigits =>
    rw [List.append_assoc]
    exact readInteger?_append hsign hne hdigits hrest

end Terminal.Matches

/-- What is read up to a quote is the body of a quoted text. -/
theorem exists_isQuotedBody {cs : List Char} {s : Split} (h : readQuoted? cs = some s) :
    ∃ body, IsQuotedBody body ∧ s.1 = body ++ ['"'] := by
  fun_induction readQuoted? cs generalizing s with
  | case1 => cases h
  | case2 rest =>
    cases h
    exact ⟨[], .nil, rfl⟩
  | case3 => cases h
  | case4 c rest hbreak ih =>
    obtain ⟨s', hs', rfl⟩ := Option.map_eq_some_iff.1 h
    obtain ⟨body, hbody, heq⟩ := ih hs'
    exact ⟨'\\' :: c :: body, .escaped hbreak hbody, by simp [heq]⟩
  | case5 => cases h
  | case6 c rest hquote hslash hlone ih =>
    obtain ⟨s', hs', rfl⟩ := Option.map_eq_some_iff.1 h
    obtain ⟨body, hbody, heq⟩ := ih hs'
    refine ⟨c :: body, .plain ?_ ?_ hbody, by simp [heq]⟩
    · exact hquote
    · rintro rfl
      cases rest with
      | nil => exact hlone rfl rfl
      | cons d rest => exact hslash d rest rfl rfl

theorem eq_of_readChar? {x : Char} {cs : List Char} {s : Split} (h : readChar? x cs = some s) :
    s.1 = [x] := by
  cases cs with
  | nil => cases h
  | cons c rest =>
    simp only [readChar?] at h
    split at h
    · next hc =>
      cases h
      rw [hc]
    · cases h

theorem head?_dropWhile_eq {p : Char → Bool} {cs : List Char} {c : Char}
    (h : (cs.dropWhile p).head? = some c) : p c = false := by
  have hhead := List.head?_dropWhile_not p cs
  rw [h] at hhead
  exact hhead

/-- What is read for a sort of tokens is a token of the sort, which the rest does not lengthen. -/
theorem Terminal.matches_of_read? {t : Terminal} {cs lexeme rest : List Char}
    (h : t.read? cs = some (lexeme, rest)) :
    t.Matches lexeme ∧ ∀ c, rest.head? = some c → t.goesOn c = false := by
  cases t with
  | openMap =>
    obtain rfl : lexeme = ['{'] := eq_of_readChar? h
    exact ⟨.openMap, fun _ _ => rfl⟩
  | closeMap =>
    obtain rfl : lexeme = ['}'] := eq_of_readChar? h
    exact ⟨.closeMap, fun _ _ => rfl⟩
  | openVector =>
    obtain rfl : lexeme = ['['] := eq_of_readChar? h
    exact ⟨.openVector, fun _ _ => rfl⟩
  | closeVector =>
    obtain rfl : lexeme = [']'] := eq_of_readChar? h
    exact ⟨.closeVector, fun _ _ => rfl⟩
  | keyword =>
    simp only [Terminal.read?, readKeyword?] at h
    split at h
    · split at h
      · cases h
      · next hne =>
        cases h
        refine ⟨.keyword (by simpa using hne) ?_, fun c hc => head?_dropWhile_eq hc⟩
        exact fun c hc => List.mem_takeWhile_imp hc
    · cases h
  | string =>
    simp only [Terminal.read?, readString?] at h
    split at h
    · obtain ⟨s, hs, heq⟩ := Option.map_eq_some_iff.1 h
      obtain ⟨body, hbody, hs⟩ := exists_isQuotedBody hs
      cases heq
      rw [hs]
      exact ⟨.string hbody, fun _ _ => rfl⟩
    · cases h
  | regex =>
    simp only [Terminal.read?, readRegex?] at h
    split at h
    · obtain ⟨s, hs, heq⟩ := Option.map_eq_some_iff.1 h
      obtain ⟨body, hbody, hs⟩ := exists_isQuotedBody hs
      cases heq
      rw [hs]
      exact ⟨.regex hbody, fun _ _ => rfl⟩
    · cases h
  | integer =>
    simp only [Terminal.read?, readInteger?] at h
    split at h
    · cases h
    · next hshape =>
      rw [not_or] at hshape
      cases h
      refine ⟨.integer ?_ (by simpa using hshape.2) ?_, fun c hc => head?_dropWhile_eq hc⟩
      · -- At most one sign, and there are two of them.
        have hsigns : ∀ c ∈ cs.takeWhile isSign, isSign c = true :=
          fun c hc => List.mem_takeWhile_imp hc
        revert hsigns
        cases hrun : cs.takeWhile isSign with
        | nil => simp [signs]
        | cons c run =>
          rw [hrun, List.length_cons] at hshape
          have hnil : run = [] := List.length_eq_zero_iff.1 (by omega)
          subst hnil
          simp [signs, isSign]
      · exact fun c hc => List.mem_takeWhile_imp hc
  | endOfText => cases h

namespace Terminal.Matches

variable {t u : Terminal} {lexeme lexeme' : List Char}

/-- The first character of a token says of which sort it is. -/
theorem exists_cons (h : t.Matches lexeme) :
    ∃ c cs, lexeme = c :: cs ∧ Terminal.ofFirst? c = some t := by
  have hread : t.read? (lexeme ++ []) = some (lexeme, []) := h.read?_append (by simp)
  rw [List.append_nil] at hread
  obtain ⟨c, cs, rfl⟩ := List.exists_cons_of_ne_nil (Terminal.read?_eq hread).2
  exact ⟨c, cs, rfl, Terminal.ofFirst?_of_read? hread⟩

theorem isSeparator_head (h : t.Matches lexeme) (rest : List Char) :
    ∀ c, (lexeme ++ rest).head? = some c → isSeparator c = false := by
  obtain ⟨c, cs, rfl, hfirst⟩ := h.exists_cons
  rintro _ ⟨⟩
  exact isSeparator_of_ofFirst? hfirst

theorem not_isGap (h : t.Matches lexeme) (gap rest : List Char) :
    ¬IsGap (gap ++ (lexeme ++ rest)) := by
  intro hgap
  obtain ⟨c, cs, rfl, hfirst⟩ := h.exists_cons
  have hsep := hgap c (by simp)
  rw [isSeparator_of_ofFirst? hfirst] at hsep
  cases hsep

/-- Where a text starts with a token behind separators, the separators and the sort of the token
are known. -/
theorem start_unique {gap gap' rest rest' : List Char} (h : t.Matches lexeme)
    (h' : u.Matches lexeme') (hgap : IsGap gap) (hgap' : IsGap gap')
    (heq : gap ++ (lexeme ++ rest) = gap' ++ (lexeme' ++ rest')) :
    gap = gap' ∧ t = u ∧ lexeme ++ rest = lexeme' ++ rest' := by
  have hgaps : gap = gap' := by
    rw [← takeWhile_append_eq hgap (h.isSeparator_head rest), heq,
      takeWhile_append_eq hgap' (h'.isSeparator_head rest')]
  subst hgaps
  have htext := List.append_cancel_left heq
  obtain ⟨c, cs, rfl, hfirst⟩ := h.exists_cons
  obtain ⟨d, ds, rfl, hfirst'⟩ := h'.exists_cons
  obtain rfl := (List.cons.inj htext).1
  exact ⟨rfl, Option.some.inj (hfirst.symm.trans hfirst'), htext⟩

end Terminal.Matches

/-- The longest token of any sort is the one that is read for its sort. -/
theorem isToken_iff {t : Terminal} {lexeme rest : List Char} :
    IsToken t lexeme rest ↔ t.read? (lexeme ++ rest) = some (lexeme, rest) := by
  constructor
  · rintro ⟨hmatch, hlongest⟩
    refine hmatch.read?_append ?_
    -- A character that goes on with the token would make a longer one.
    intro c hc
    by_contra hgo
    rw [Bool.not_eq_false] at hgo
    obtain ⟨rest', rfl⟩ : ∃ rest', rest = c :: rest' := List.head?_eq_some_iff.1 hc
    have hlonger := hlongest t (lexeme ++ [c]) (hmatch.append (by simpa using hgo)) (by simp)
    rw [List.length_append, List.length_singleton] at hlonger
    omega
  · intro h
    obtain ⟨hmatch, hstop⟩ := Terminal.matches_of_read? h
    refine ⟨hmatch, ?_⟩
    rintro u longer hu ⟨behind, heq⟩
    obtain ⟨-, rfl, -⟩ := hu.start_unique hmatch isGap_nil isGap_nil heq
    -- All that goes on with the other token is taken into it; then both are what is read.
    have hread : u.read? (longer ++ behind) =
        some (longer ++ behind.takeWhile u.goesOn, behind.dropWhile u.goesOn) := by
      have hall : u.Matches (longer ++ behind.takeWhile u.goesOn) :=
        hu.append fun c hc => List.mem_takeWhile_imp hc
      have hread : u.read? (longer ++ behind.takeWhile u.goesOn ++ behind.dropWhile u.goesOn) =
          some (longer ++ behind.takeWhile u.goesOn, behind.dropWhile u.goesOn) :=
        hall.read?_append fun c hc => head?_dropWhile_eq hc
      rwa [List.append_assoc, List.takeWhile_append_dropWhile] at hread
    rw [heq, h] at hread
    obtain rfl : lexeme = longer ++ behind.takeWhile u.goesOn :=
      (Prod.ext_iff.1 (Option.some.inj hread)).1
    rw [List.length_append]
    omega

/-- The tokens that a text starts with, each the longest one there, with the place behind them and
what is left. Separators may stand in front of each token. -/
inductive Lexes : Place → List Char → List Token → Place → List Char → Prop where
  | nil {place : Place} {rest : List Char} : Lexes place rest [] place rest
  | cons {place behind : Place} {gap lexeme rest left : List Char} {t : Terminal}
      {tokens : List Token} (hgap : IsGap gap) (htoken : IsToken t lexeme rest)
      (h : Lexes ((place.after gap).after lexeme) rest tokens behind left) :
      Lexes place (gap ++ (lexeme ++ rest)) (⟨t, lexeme, place.after gap⟩ :: tokens) behind left

/-- The tokens of a whole text, separators left out. -/
def Tokenizes (text : List Char) (tokens : List Token) : Prop :=
  ∃ place gap, IsGap gap ∧ Lexes Place.start text tokens place gap

/-- The tokens of a text match their sorts. -/
theorem Lexes.matches {place behind : Place} {cs left : List Char} {tokens : List Token}
    (h : Lexes place cs tokens behind left) :
    ∀ token ∈ tokens, token.terminal.Matches token.lexeme := by
  induction h with
  | nil => simp
  | cons _ htoken _ ih => exact List.forall_mem_cons.2 ⟨htoken.1, ih⟩

/-- A text is cut in one way into separators, a token and the rest. -/
theorem IsToken.split_unique {t u : Terminal} {gap gap' lexeme lexeme' rest rest' : List Char}
    (hgap : IsGap gap) (hgap' : IsGap gap') (h : IsToken t lexeme rest)
    (h' : IsToken u lexeme' rest') (heq : gap ++ (lexeme ++ rest) = gap' ++ (lexeme' ++ rest')) :
    gap = gap' ∧ t = u ∧ lexeme = lexeme' ∧ rest = rest' := by
  obtain ⟨rfl, rfl, htext⟩ := h.1.start_unique h'.1 hgap hgap' heq
  have hread := isToken_iff.1 h
  rw [htext, isToken_iff.1 h'] at hread
  cases hread
  exact ⟨rfl, rfl, rfl, rfl⟩

namespace Lexes

variable {place behind : Place} {cs left : List Char} {tokens : List Token}

theorem trans {behind' : Place} {left' : List Char} {more : List Token}
    (h : Lexes place cs tokens behind left) (h' : Lexes behind left more behind' left') :
    Lexes place cs (tokens ++ more) behind' left' := by
  induction h with
  | nil => exact h'
  | cons hgap htoken _ ih => exact .cons hgap htoken (ih h')

/-- Each token takes up some of the text. -/
theorem length_le (h : Lexes place cs tokens behind left) :
    left.length + tokens.length ≤ cs.length := by
  induction h with
  | nil => simp
  | @cons _ _ gap lexeme _ _ _ _ hgap htoken _ ih =>
    have hpos : 0 < lexeme.length :=
      List.length_pos_iff.2 (Terminal.read?_eq (isToken_iff.1 htoken)).2
    simp only [List.length_append, List.length_cons]
    omega

/-- The tokens at the start of a text depend on what is left by its first character only, and not
even by that where it does not lengthen the last one. -/
theorem replace (h : Lexes place cs tokens behind left) : ∃ consumed,
    cs = consumed ++ left ∧ behind = place.after consumed ∧
    ∀ left', (∀ c, left'.head? = some c → left.head? = some c ∨ EndsAt tokens c) →
      Lexes place (consumed ++ left') tokens behind left' := by
  induction h with
  | nil => exact ⟨[], rfl, rfl, fun _ _ => .nil⟩
  | @cons place behind gap lexeme rest left t tokens hgap htoken hrest ih =>
    obtain ⟨consumed, rfl, hbehind, hreplace⟩ := ih
    refine ⟨gap ++ (lexeme ++ consumed), by simp, ?_, ?_⟩
    · rw [hbehind, Place.after_append, Place.after_append]
    · intro left' hleft
      obtain ⟨hmatch, hstop⟩ := Terminal.matches_of_read? (isToken_iff.1 htoken)
      have htoken' : IsToken t lexeme (consumed ++ left') := by
        refine isToken_iff.2 (hmatch.read?_append ?_)
        intro c hc
        cases consumed with
        | nil =>
          -- This token is the last one.
          have hlength := hrest.length_le
          rw [List.nil_append] at hlength
          obtain rfl : tokens = [] := List.length_eq_zero_iff.1 (by omega)
          rcases hleft c hc with hsame | hends
          · exact hstop c hsame
          · exact hends _ rfl
        | cons d consumed => exact hstop c hc
      have hbehind' : ∀ c, left'.head? = some c → left.head? = some c ∨ EndsAt tokens c := by
        refine fun c hc => (hleft c hc).imp_right fun hends u hu => hends u ?_
        rw [Option.mem_def] at hu ⊢
        rw [List.getLast?_cons, hu]
        rfl
      have hlexes := Lexes.cons hgap htoken' (hreplace left' hbehind')
      simpa only [List.append_assoc] using hlexes

/-- All tokens of a text start with those at its start. -/
theorem exists_more {behind' : Place} {gap : List Char} {all : List Token}
    (h : Lexes place cs tokens behind left) (hall : Lexes place cs all behind' gap)
    (hgap : IsGap gap) : ∃ more, all = tokens ++ more ∧ Lexes behind left more behind' gap := by
  induction h generalizing all with
  | nil => exact ⟨all, rfl, hall⟩
  | @cons place behind gap₁ lexeme rest left t tokens hgap₁ htoken _ ih =>
    generalize htext : gap₁ ++ (lexeme ++ rest) = text at hall
    cases hall with
    | nil =>
      subst htext
      exact absurd hgap (htoken.1.not_isGap _ _)
    | cons hgap₂ htoken₂ hrest =>
      obtain ⟨rfl, rfl, rfl, rfl⟩ := htoken.split_unique hgap₁ hgap₂ htoken₂ htext
      obtain ⟨more, rfl, hmore⟩ := ih hrest
      exact ⟨more, rfl, hmore⟩

/-- If a text starts with a token behind separators, its first token is of the same sort. -/
theorem exists_first {t : Terminal} {gap lexeme rest : List Char} (hgap : IsGap gap)
    (ht : t.Matches lexeme) (h : Lexes place (gap ++ (lexeme ++ rest)) tokens behind left)
    (hleft : IsGap left) : ∃ token more, tokens = token :: more ∧ token.terminal = t := by
  generalize htext : gap ++ (lexeme ++ rest) = text at h
  cases h with
  | nil =>
    subst htext
    exact absurd hleft (ht.not_isGap gap rest)
  | cons hgap' htoken =>
    obtain ⟨-, rfl, -⟩ := ht.start_unique htoken.1 hgap hgap' htext
    exact ⟨_, _, rfl, rfl⟩

/-- Where only separators stand between the tokens and what is left, the tokens are those of the
text in front of it. -/
theorem exists_before {gap rest : List Char} (hgap : IsGap gap)
    (h : Lexes Place.start cs tokens behind (gap ++ rest)) :
    ∃ before, cs = before ++ rest ∧ Place.start.after before = behind.after gap ∧
      Tokenizes before tokens := by
  obtain ⟨consumed, rfl, rfl, hreplace⟩ := h.replace
  refine ⟨consumed ++ gap, by simp, Place.after_append _ _ _, _, gap, hgap, hreplace gap ?_⟩
  intro c hc
  left
  cases gap with
  | nil => cases hc
  | cons d gap => exact hc

end Lexes

/-- A text has one row of tokens. -/
theorem Tokenizes.unique {text : List Char} {tokens tokens' : List Token}
    (h : Tokenizes text tokens) (h' : Tokenizes text tokens') : tokens = tokens' := by
  obtain ⟨place, gap, hgap, h⟩ := h
  obtain ⟨place', gap', hgap', h'⟩ := h'
  obtain ⟨more, rfl, hmore⟩ := h.exists_more h' hgap'
  cases hmore with
  | nil => rw [List.append_nil]
  | cons _ htoken _ => exact absurd hgap (htoken.1.not_isGap _ _)

/-- A token of a sort. -/
def Terminal.sample : Terminal → List Char
  | openMap => ['{']
  | closeMap => ['}']
  | openVector => ['[']
  | closeVector => [']']
  | keyword => [':', 'a']
  | string => ['"', '"']
  | regex => ['#', '"', '"']
  | integer => ['0']
  | endOfText => []

/-- There is a token of every sort. -/
theorem Terminal.matches_sample {t : Terminal} (h : t ≠ .endOfText) : t.Matches t.sample := by
  cases t with
  | openMap => exact .openMap
  | closeMap => exact .closeMap
  | openVector => exact .openVector
  | closeVector => exact .closeVector
  | keyword => exact .keyword (by decide) (List.forall_mem_singleton.2 (by decide))
  | string => exact .string .nil
  | regex => exact .regex .nil
  | integer =>
    exact .integer List.mem_cons_self (by decide) (List.forall_mem_singleton.2 (by decide))
  | endOfText => exact absurd rfl h

/-- Tokens of some sorts, each behind a space. -/
def spaced (ts : List Terminal) : List Char := ts.flatMap fun t => ' ' :: t.sample

theorem isToken_sample {t : Terminal} (h : t ≠ .endOfText) (ts : List Terminal) :
    IsToken t t.sample (spaced ts) := by
  refine isToken_iff.2 ((Terminal.matches_sample h).read?_append ?_)
  intro c hc
  cases ts with
  | nil => cases hc
  | cons u ts =>
    cases hc
    exact Terminal.goesOn_eq_false (by decide) t

/-- Every row of sorts is that of the tokens of a text. -/
theorem exists_lexes_spaced {ts : List Terminal} (hts : ∀ t ∈ ts, t ≠ .endOfText) (place : Place)
    {gap : List Char} (hgap : IsGap gap) : ∃ tokens behind left,
      Lexes place (gap ++ spaced ts) tokens behind left ∧ IsGap left ∧
      tokens.map (·.terminal) = ts := by
  induction ts generalizing place gap with
  | nil => exact ⟨[], place, gap, by simpa [spaced] using .nil, hgap, rfl⟩
  | cons t ts ih =>
    rw [List.forall_mem_cons] at hts
    have hspace : IsGap [' '] := by decide
    obtain ⟨tokens, behind, left, hlexes, hleft, hterminals⟩ :=
      ih hts.2 ((place.after (gap ++ [' '])).after t.sample) isGap_nil
    have hcons := Lexes.cons (hgap.append hspace) (isToken_sample hts.1 ts) hlexes
    rw [List.append_assoc] at hcons
    exact ⟨_, behind, left, hcons, hleft, congrArg (t :: ·) hterminals⟩

/-- Tokens of any sorts can be made to follow the tokens of a text. -/
theorem Tokenizes.exists_append {text : List Char} {tokens : List Token}
    (h : Tokenizes text tokens) {ts : List Terminal} (hts : ∀ t ∈ ts, t ≠ .endOfText) :
    ∃ tail more, Tokenizes (text ++ tail) (tokens ++ more) ∧ more.map (·.terminal) = ts := by
  obtain ⟨place, gap, hgap, h⟩ := h
  obtain ⟨more, behind, left, hmore, hleft, hterminals⟩ := exists_lexes_spaced hts place hgap
  obtain ⟨consumed, rfl, -, hreplace⟩ := h.replace
  refine ⟨spaced ts, more, ⟨behind, left, hleft, ?_⟩, hterminals⟩
  rw [List.append_assoc]
  refine (hreplace (gap ++ spaced ts) ?_).trans hmore
  -- What is put behind the text starts with a separator.
  have hboundary : IsBoundary (spaced ts) := by
    cases ts with
    | nil => simp [IsBoundary, spaced]
    | cons t ts => exact isBoundary_cons.2 (by decide)
  exact fun c hc => .inr ((IsBoundary.append hgap hboundary).endsAt tokens c hc)

end ElementQuery.Notation
