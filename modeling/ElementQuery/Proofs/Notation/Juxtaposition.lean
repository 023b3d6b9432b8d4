import ElementQuery.Proofs.Notation.Grammar

/-!
# Texts side by side

The tokens of a text are the same wherever it stands, but for their places. Those of two texts, one
behind the other, are the tokens of both, unless the first character of the second one lengthens
the last token of the first one.

## Main definitions

* `unplaced` : tokens apart from their places.

## Main statements

* `Lexes.exists_moved` : tokens at another place.
* `Tokenizes.append` : the tokens of two texts side by side.
* `Tokenizes.of_append_left` : a text behind one with tokens has tokens if both together have.
* `Tokenizes.exists_split` : where tokens are told apart, their text can be.
-/

namespace ElementQuery.Notation

open ElementQuery.Text

/-- Tokens apart from their places. -/
def unplaced (tokens : List Token) : List (Terminal × List Char) :=
  tokens.map fun token => (token.terminal, token.lexeme)

@[simp] theorem unplaced_append (a b : List Token) : unplaced (a ++ b) = unplaced a ++ unplaced b :=
  List.map_append

@[simp] theorem unplaced_nil : unplaced [] = [] := rfl

/-- The sorts of tokens do not depend on their places. -/
theorem terminals_eq_map_unplaced (tokens : List Token) :
    terminals tokens = (unplaced tokens).map Prod.fst := by
  rw [unplaced, List.map_map]
  rfl

theorem terminals_congr {a b : List Token} (h : unplaced a = unplaced b) :
    terminals a = terminals b := by
  rw [terminals_eq_map_unplaced, h, ← terminals_eq_map_unplaced]

/-- Separators at the start of a text stand in front of its first token. -/
theorem Terminal.Matches.exists_behind_gap {t : Terminal} {gap gap' cs lexeme rest : List Char}
    (h : t.Matches lexeme) (hgap : IsGap gap) (htext : gap ++ cs = gap' ++ (lexeme ++ rest)) :
    ∃ more, gap' = gap ++ more ∧ cs = more ++ (lexeme ++ rest) := by
  rcases List.append_eq_append_iff.1 htext with ⟨more, hgap', hcs⟩ | ⟨more, rfl, hlexeme⟩
  · exact ⟨more, hgap', hcs⟩
  · cases more with
    | nil => exact ⟨[], by simp, by simpa using hlexeme.symm⟩
    | cons c more =>
      have hsep := hgap c (by simp)
      rw [h.isSeparator_head rest c (by rw [hlexeme]; rfl)] at hsep
      cases hsep

namespace Lexes

variable {place behind : Place} {cs left : List Char} {tokens : List Token}

/-- A text has the same tokens at another place. -/
theorem exists_moved (h : Lexes place cs tokens behind left) (place' : Place) :
    ∃ tokens' behind', Lexes place' cs tokens' behind' left ∧
      unplaced tokens' = unplaced tokens := by
  induction h generalizing place' with
  | nil => exact ⟨[], place', .nil, rfl⟩
  | cons hgap htoken _ ih =>
    obtain ⟨tokens', behind', hmoved, hsame⟩ := ih _
    exact ⟨_, behind', .cons hgap htoken hmoved, congrArg (_ :: ·) hsame⟩

/-- Separators in front of a text change nothing about its tokens. -/
theorem exists_behind_gap_iff {gap : List Char} (hgap : IsGap gap) :
    (∃ behind left, IsGap left ∧ Lexes place (gap ++ cs) tokens behind left) ↔
      ∃ behind left, IsGap left ∧ Lexes (place.after gap) cs tokens behind left := by
  constructor
  · rintro ⟨behind, left, hleft, h⟩
    generalize htext : gap ++ cs = text at h
    cases h with
    | nil =>
      subst htext
      exact ⟨_, cs, fun c hc => hleft c (List.mem_append_right gap hc), .nil⟩
    | @cons _ _ gap' lexeme rest _ t tokens hgap' htoken h =>
      obtain ⟨more, rfl, rfl⟩ := htoken.1.exists_behind_gap hgap htext
      have hmore : IsGap more := fun c hc => hgap' c (List.mem_append_right gap hc)
      rw [Place.after_append] at h ⊢
      exact ⟨_, _, hleft, .cons hmore htoken h⟩
  · rintro ⟨behind, left, hleft, h⟩
    cases h with
    | nil => exact ⟨_, gap ++ cs, hgap.append hleft, .nil⟩
    | @cons _ _ gap' lexeme rest _ t tokens hgap' htoken h =>
      rw [← Place.after_append place gap gap'] at h ⊢
      have hcons := Lexes.cons (hgap.append hgap') htoken h
      rw [List.append_assoc] at hcons
      exact ⟨_, _, hleft, hcons⟩

/-- Tokens of a text are those in front of a place in it and those behind it. -/
theorem exists_split {a b : List Token} (h : Lexes place cs (a ++ b) behind left) :
    ∃ between middle, Lexes place cs a between middle ∧ Lexes between middle b behind left := by
  induction a generalizing place cs with
  | nil => exact ⟨place, cs, .nil, h⟩
  | cons token a ih =>
    cases h with
    | cons hgap htoken hrest =>
      obtain ⟨between, middle, ha, hb⟩ := ih hrest
      exact ⟨between, middle, .cons hgap htoken ha, hb⟩

end Lexes

namespace Tokenizes

variable {a b text : List Char} {as bs tokens : List Token}

/-- The tokens of a text are also read in front of another one. -/
theorem exists_lexes_append (h : Tokenizes a as) (hends : ∀ c, b.head? = some c → EndsAt as c) :
    ∃ behind gap, IsGap gap ∧ Lexes Place.start (a ++ b) as behind (gap ++ b) := by
  obtain ⟨behind, gap, hgap, h⟩ := h
  obtain ⟨consumed, rfl, -, hreplace⟩ := h.replace
  refine ⟨behind, gap, hgap, ?_⟩
  rw [List.append_assoc]
  refine hreplace (gap ++ b) fun c hc => ?_
  -- Only where no separator is left does the last token meet the other text.
  cases gap with
  | nil => exact .inr (hends c hc)
  | cons d gap => exact .inl hc

/-- The tokens of two texts side by side are the tokens of both. -/
theorem append (ha : Tokenizes a as) (hb : Tokenizes b bs)
    (hends : ∀ c, b.head? = some c → EndsAt as c) :
    ∃ tokens, Tokenizes (a ++ b) tokens ∧ unplaced tokens = unplaced as ++ unplaced bs := by
  obtain ⟨between, gap, hgap, ha⟩ := ha.exists_lexes_append hends
  obtain ⟨_, left, hleft, hb⟩ := hb
  obtain ⟨bs', behind, hb, hsame⟩ := hb.exists_moved (between.after gap)
  obtain ⟨behind, left, hleft, hb⟩ := (Lexes.exists_behind_gap_iff hgap).2 ⟨behind, left, hleft, hb⟩
  exact ⟨as ++ bs', ⟨behind, left, hleft, ha.trans hb⟩, by rw [unplaced_append, hsame]⟩

/-- What stands behind a text with tokens has tokens if all of it has. -/
theorem of_append_left (ha : Tokenizes a as) (h : Tokenizes (a ++ b) tokens)
    (hends : ∀ c, b.head? = some c → EndsAt as c) :
    ∃ bs, Tokenizes b bs ∧ unplaced tokens = unplaced as ++ unplaced bs := by
  obtain ⟨between, gap, hgap, ha⟩ := ha.exists_lexes_append hends
  obtain ⟨behind, left, hleft, h⟩ := h
  obtain ⟨more, rfl, hmore⟩ := ha.exists_more h hleft
  obtain ⟨behind, left, hleft, hb⟩ :=
    (Lexes.exists_behind_gap_iff hgap).1 ⟨behind, left, hleft, hmore⟩
  obtain ⟨bs, behind, hb, hsame⟩ := hb.exists_moved Place.start
  exact ⟨bs, ⟨behind, left, hleft, hb⟩, by rw [unplaced_append, hsame]⟩

/-- A text can be told apart where its tokens are. -/
theorem exists_split (h : Tokenizes text (as ++ bs)) :
    ∃ a b bs', text = a ++ b ∧ Tokenizes a as ∧ Tokenizes b bs' ∧ unplaced bs' = unplaced bs := by
  obtain ⟨behind, gap, hgap, h⟩ := h
  obtain ⟨between, middle, ha, hb⟩ := h.exists_split
  obtain ⟨a, rfl, -, hreplace⟩ := ha.replace
  obtain ⟨bs', behind, hb, hsame⟩ := hb.exists_moved Place.start
  have ha := hreplace [] nofun
  rw [List.append_nil] at ha
  exact ⟨a, middle, bs', rfl, ⟨between, [], nofun, ha⟩, ⟨behind, gap, hgap, hb⟩, hsame⟩

end Tokenizes

/-- A text of one token with separators around it. -/
theorem Terminal.Matches.tokenizes {t : Terminal} {lexeme lead trail : List Char}
    (h : t.Matches lexeme) (hlead : IsGap lead) (htrail : IsGap trail) :
    Tokenizes (lead ++ (lexeme ++ trail)) [⟨t, lexeme, Place.start.after lead⟩] := by
  refine ⟨_, trail, htrail, .cons hlead (isToken_iff.2 (h.read?_append ?_)) .nil⟩
  exact fun c hc => Terminal.goesOn_eq_false (htrail.isBoundary c hc) t

end ElementQuery.Notation
