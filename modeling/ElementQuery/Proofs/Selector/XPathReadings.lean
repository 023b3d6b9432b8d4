import ElementQuery.Proofs.Selector.Asks
import ElementQuery.Selector.XPath

/-!
# Readings of XPaths

Strings of an XPath end with the first quote like the one they start with, and names may hold
apostrophes. Two readings of one text could differ on which of the quotes start strings. From there
on they never are outside of strings both: where the string of one of them ends, what follows is no
place in a name, so that the other one is inside of a string or starts one there.

## Main definitions

* `FollowsString` : what can stand behind a string.
* `IsOutside` : the texts that can be read from a place outside of strings.
* `IsPiece` : the pieces that a text is cut into.
* `StartsString` : the texts that start with a string.

## Main statements

* `IsOutside.ne_string` : readings inside and outside of a string do not end together.
* `startsString_literalChars` : an expression starts with a string, or a function does so.
* `literalChars_append_inj` : an expression tells its text.
-/

namespace ElementQuery.XPath

open ElementQuery.Notation ElementQuery.Text

/-- What can stand behind a string: the end of a check, of an argument or of all arguments. -/
inductive FollowsString : List Char → Prop where
  | bracket (t : List Char) : FollowsString (']' :: t)
  | comma (t : List Char) : FollowsString (',' :: t)
  | paren (t : List Char) : FollowsString (')' :: ']' :: t)

/-- The texts that can be read from a place outside of strings. An apostrophe that belongs to a
name has nothing behind it that could follow a string. -/
inductive IsOutside : List Char → Prop where
  | nil : IsOutside []
  | plain {c : Char} {t : List Char} (hc : c ≠ '"') (hname : c = '\'' → ¬FollowsString t)
      (ht : IsOutside t) : IsOutside (c :: t)
  | string (quote : Quote) {s t : List Char} (hs : quote.char ∉ s) (hfollows : FollowsString t)
      (ht : IsOutside t) : IsOutside (quote.char :: (s ++ quote.char :: t))

theorem Quote.char_injective {quote quote' : Quote} (h : quote.char = quote'.char) :
    quote = quote' := by
  cases quote <;> cases quote' <;> first | rfl | cases h

theorem Quote.char_ne {quote : Quote} {c : Char} (hc : c ≠ '"') (hc' : c ≠ '\'') :
    quote.char ≠ c := by
  cases quote with
  | single => exact hc'.symm
  | double => exact hc.symm

/-- Two readings of a text, one from outside of strings and one from inside of one, do not end
together. -/
theorem IsOutside.ne_string {t s rest : List Char} {quote : Quote} (h : IsOutside t)
    (hs : quote.char ∉ s) (hfollows : FollowsString rest) (hrest : IsOutside rest) :
    t ≠ s ++ quote.char :: rest := by
  -- By induction on what is left to read, since the readings may change places.
  induction hlen : t.length using Nat.strong_induction_on generalizing t s rest quote with
  | _ n ih =>
    subst hlen
    intro heq
    cases h with
    | nil => cases s <;> cases heq
    | @plain c t hc hname ht =>
      cases s with
      | nil =>
        obtain ⟨rfl, rfl⟩ := List.cons.inj heq
        cases quote with
        | single => exact hname rfl hfollows
        | double => exact hc rfl
      | cons d s =>
        rw [List.mem_cons, not_or] at hs
        exact ih t.length (by simp) ht hs.2 hfollows hrest rfl (List.cons.inj heq).2
    | @string quote' s' t hs' hfollows' ht =>
      cases s with
      | nil =>
        -- The string that one reading leaves is the one that the other reading enters.
        obtain ⟨hquote, hswap⟩ := List.cons.inj heq
        refine ih rest.length ?_ hrest hs' hfollows' ht rfl hswap.symm
        have hlength := congrArg List.length hswap
        simp only [List.length_cons] at hlength ⊢
        omega
      | cons d s =>
        rw [List.mem_cons, not_or] at hs
        obtain ⟨rfl, hboth⟩ := List.cons.inj heq
        -- Both are inside of a string, in different quotes, and one of them leaves first.
        rcases List.append_eq_append_iff.1 hboth with ⟨inner, rfl, hinner⟩ | ⟨inner, rfl, hinner⟩
        · cases inner with
          | nil => exact hs.1 (List.cons.inj hinner).1.symm
          | cons e inner =>
            rw [List.cons_append] at hinner
            obtain ⟨_, hleft⟩ := List.cons.inj hinner
            rw [List.mem_append, List.mem_cons, not_or, not_or] at hs
            refine ih t.length ?_ ht hs.2.2.2 hfollows hrest rfl hleft
            simp only [List.length_cons, List.length_append]
            omega
        · cases inner with
          | nil => exact hs.1 (List.cons.inj hinner).1
          | cons e inner =>
            rw [List.cons_append] at hinner
            obtain ⟨_, hleft⟩ := List.cons.inj hinner
            rw [List.mem_append, List.mem_cons, not_or, not_or] at hs'
            refine ih rest.length ?_ hrest hs'.2.2 hfollows' ht rfl hleft
            have hlength := congrArg List.length hleft
            simp only [List.length_cons, List.length_append] at hlength ⊢
            omega

theorem IsOutside.append {p t : List Char} (h : IsOutside t) (hdouble : '"' ∉ p)
    (hsingle : '\'' ∉ p) : IsOutside (p ++ t) := by
  induction p with
  | nil => exact h
  | cons c p ih =>
    rw [List.mem_cons, not_or] at hdouble hsingle
    exact .plain (Ne.symm hdouble.1) (fun hc => absurd hc.symm hsingle.1) (ih hdouble.2 hsingle.2)

/-- What follows a string is no name of an attribute. -/
theorem not_followsString_name {m t : List Char} (hm : ∀ c ∈ m, isKeywordChar c = true) :
    ¬FollowsString (m ++ '=' :: t) := by
  intro h
  match m with
  | [] => cases h
  | [c] =>
    cases h with
    | bracket => exact not_mem_of_isKeywordChar (by decide) hm List.mem_cons_self
    | comma => exact not_mem_of_isKeywordChar (by decide) hm List.mem_cons_self
  | c :: d :: m =>
    cases h with
    | bracket => exact not_mem_of_isKeywordChar (by decide) hm List.mem_cons_self
    | comma => exact not_mem_of_isKeywordChar (by decide) hm List.mem_cons_self
    | paren =>
      exact not_mem_of_isKeywordChar (by decide) hm (List.mem_cons_of_mem _ List.mem_cons_self)

/-- A name is read outside of strings, whichever apostrophes it holds. -/
theorem IsOutside.name {m t : List Char} (h : IsOutside t)
    (hm : ∀ c ∈ m, isKeywordChar c = true) : IsOutside (m ++ '=' :: t) := by
  induction m with
  | nil => exact h.append (p := ['=']) (by decide) (by decide)
  | cons c m ih =>
    have hrest : ∀ d ∈ m, isKeywordChar d = true := fun d hd => hm d (List.mem_cons_of_mem c hd)
    refine .plain ?_ (fun _ => not_followsString_name hrest) (ih hrest)
    rintro rfl
    exact not_mem_of_isKeywordChar (by decide) hm List.mem_cons_self

/-- The pieces that a text is cut into. -/
def IsPiece (piece : List Char) : Prop := piece = ['\''] ∨ '\'' ∉ piece

theorem isPiece_of_mem_pieces {cs piece : List Char} (h : piece ∈ pieces cs) : IsPiece piece := by
  induction cs generalizing piece with
  | nil => cases h
  | cons c cs ih =>
    rw [pieces] at h
    split at h
    · rcases List.mem_cons.1 h with rfl | h
      · exact .inl rfl
      · exact ih h
    · next hc =>
      have hsingle : ∀ p : List Char, '\'' ∉ p → IsPiece (c :: p) := by
        intro p hp
        right
        rw [List.mem_cons, not_or]
        exact ⟨Ne.symm hc, hp⟩
      -- The character joins the piece behind it, unless that is an apostrophe alone.
      split at h
      · rw [List.mem_singleton.1 h]
        exact hsingle [] List.not_mem_nil
      · next first further hpieces =>
        rw [hpieces] at ih
        split at h
        · rcases List.mem_cons.1 h with rfl | h
          · exact hsingle [] List.not_mem_nil
          · exact ih h
        · next hfirst =>
          rcases List.mem_cons.1 h with rfl | h
          · rcases ih List.mem_cons_self with hquote | hnone
            · exact absurd hquote hfirst
            · exact hsingle first hnone
          · exact ih (List.mem_cons_of_mem first h)

/-- A text is made up of its pieces. -/
theorem flatten_pieces (cs : List Char) : (pieces cs).flatten = cs := by
  induction cs with
  | nil => rfl
  | cons c cs ih =>
    rw [pieces]
    split
    · next hc => rw [List.flatten_cons, ih, hc, List.singleton_append]
    · split
      · next hpieces =>
        rw [hpieces] at ih
        rw [← ih]
        rfl
      · next first further hpieces =>
        rw [hpieces] at ih
        split <;> rw [← ih] <;> rfl

theorem ne_nil_of_mem_pieces {cs piece : List Char} (h : piece ∈ pieces cs) : piece ≠ [] := by
  induction cs generalizing piece with
  | nil => cases h
  | cons c cs ih =>
    rw [pieces] at h
    split at h
    · rcases List.mem_cons.1 h with rfl | h
      · exact List.cons_ne_nil _ _
      · exact ih h
    · split at h
      · rw [List.mem_singleton.1 h]
        exact List.cons_ne_nil _ _
      · next first further hpieces =>
        rw [hpieces] at ih
        split at h
        · rcases List.mem_cons.1 h with rfl | h
          · exact List.cons_ne_nil _ _
          · exact ih h
        · rcases List.mem_cons.1 h with rfl | h
          · exact List.cons_ne_nil _ _
          · exact ih (List.mem_cons_of_mem first h)

/-- A piece is put between quotes that it does not hold. -/
theorem quotePiece_eq {piece : List Char} (h : IsPiece piece) :
    ∃ quote : Quote, quote.char ∉ piece ∧ quotePiece piece = quote.around piece := by
  by_cases hquote : piece = ['\'']
  · refine ⟨.double, ?_, by rw [quotePiece, if_pos hquote]⟩
    rw [hquote]
    decide
  · exact ⟨.single, h.resolve_left hquote, by rw [quotePiece, if_neg hquote]⟩

/-- A single piece does not hold both quotes. -/
theorem IsPiece.exists_not_mem {piece : List Char} (h : IsPiece piece) :
    ∃ quote : Quote, quote.char ∉ piece := by
  obtain ⟨quote, hquote, -⟩ := quotePiece_eq h
  exact ⟨quote, hquote⟩

/-- A text with both quotes is cut into more than one piece. -/
theorem exists_pieces_eq {cs : List Char} (h : ∀ quote : Quote, quote.char ∈ cs) :
    ∃ p p' ps, pieces cs = p :: p' :: ps := by
  have hflat := flatten_pieces cs
  rcases hpieces : pieces cs with _ | ⟨p, _ | ⟨p', ps⟩⟩
  · rw [hpieces] at hflat
    have hquote := h .single
    rw [← hflat] at hquote
    cases hquote
  · rw [hpieces, List.flatten_singleton] at hflat
    have hp : IsPiece p := isPiece_of_mem_pieces (hpieces ▸ List.mem_cons_self)
    obtain ⟨quote, hquote⟩ := hp.exists_not_mem
    rw [hflat] at hquote
    exact absurd (h quote) hquote
  · exact ⟨p, p', ps, rfl⟩

theorem around_append (quote : Quote) (cs rest : List Char) :
    quote.around cs ++ rest = quote.char :: (cs ++ quote.char :: rest) := by
  rw [Quote.around, List.append_assoc, List.cons_append, List.singleton_append]

/-- A text between quotes is told up to the closing one. -/
theorem around_append_inj {quote quote' : Quote} {v w rest rest' : List Char}
    (hv : quote.char ∉ v) (hw : quote'.char ∉ w)
    (h : quote.around v ++ rest = quote'.around w ++ rest') : v = w ∧ rest = rest' := by
  rw [around_append, around_append] at h
  obtain ⟨hquote, hbehind⟩ := List.cons.inj h
  rw [Quote.char_injective hquote] at hv hbehind
  exact append_cons_inj hv hw hbehind

/-- Pieces as the arguments of `concat`. -/
def args (ps : List (List Char)) : List Char := ", ".toList.intercalate (ps.map quotePiece)

theorem args_singleton (p : List Char) (rest : List Char) :
    args [p] ++ rest = quotePiece p ++ rest := by
  rw [args, List.map_singleton, List.intercalate_singleton]

theorem args_cons_cons (p p' : List Char) (ps : List (List Char)) (rest : List Char) :
    args (p :: p' :: ps) ++ rest = quotePiece p ++ ',' :: ' ' :: (args (p' :: ps) ++ rest) := by
  have hsep : ", ".toList = [',', ' '] := by decide
  rw [args, List.map_cons, List.map_cons, List.intercalate_cons_cons, ← List.map_cons, ← args, hsep]
  simp

/-- The texts that start with a string around the given characters. -/
def StartsString (s text : List Char) : Prop :=
  ∃ (quote : Quote) (behind : List Char), quote.char ∉ s ∧ FollowsString behind ∧
    IsOutside behind ∧ text = quote.char :: (s ++ quote.char :: behind)

theorem StartsString.isOutside {s text : List Char} (h : StartsString s text) :
    IsOutside text := by
  obtain ⟨quote, behind, hs, hfollows, hbehind, rfl⟩ := h
  exact .string quote hs hfollows hbehind

/-- Arguments start with the string of their first piece. -/
theorem startsString_args {p : List Char} {ps : List (List Char)} {rest : List Char}
    (hps : ∀ p' ∈ p :: ps, IsPiece p') (hrest : IsOutside rest) :
    StartsString p (args (p :: ps) ++ ')' :: ']' :: rest) := by
  obtain ⟨quote, hquote, hpiece⟩ := quotePiece_eq (hps p List.mem_cons_self)
  induction ps generalizing p quote with
  | nil =>
    have hend : IsOutside (')' :: ']' :: rest) :=
      hrest.append (p := [')', ']']) (by decide) (by decide)
    refine ⟨quote, _, hquote, .paren rest, hend, ?_⟩
    rw [args_singleton, hpiece, around_append]
  | cons p' ps ih =>
    have hps' : ∀ p'' ∈ p' :: ps, IsPiece p'' := fun p'' hp'' =>
      hps p'' (List.mem_cons_of_mem p hp'')
    obtain ⟨quote', hquote', hpiece'⟩ := quotePiece_eq (hps' p' List.mem_cons_self)
    have hfurther := (ih hps' quote' hquote' hpiece').isOutside
    have hcomma : IsOutside (',' :: ' ' :: (args (p' :: ps) ++ ')' :: ']' :: rest)) :=
      hfurther.append (p := [',', ' ']) (by decide) (by decide)
    refine ⟨quote, _, hquote, .comma _, hcomma, ?_⟩
    rw [args_cons_cons, hpiece, around_append]

/-- The arguments of a call are told by how they are written. -/
theorem args_append_inj {p p' : List Char} {ps ps' : List (List Char)} {rest rest' : List Char}
    (hps : ∀ r ∈ p :: ps, IsPiece r) (hps' : ∀ r ∈ p' :: ps', IsPiece r)
    (h : args (p :: ps) ++ ')' :: rest = args (p' :: ps') ++ ')' :: rest') :
    p :: ps = p' :: ps' ∧ rest = rest' := by
  obtain ⟨quote, hquote, hpiece⟩ := quotePiece_eq (hps p List.mem_cons_self)
  obtain ⟨quote', hquote', hpiece'⟩ := quotePiece_eq (hps' p' List.mem_cons_self)
  -- Behind a piece a comma says that there are more of them, a parenthesis that there are none.
  induction ps generalizing p p' ps' quote quote' with
  | nil =>
    rw [args_singleton, hpiece] at h
    cases ps' with
    | nil =>
      rw [args_singleton, hpiece'] at h
      obtain ⟨rfl, hend⟩ := around_append_inj hquote hquote' h
      exact ⟨rfl, (List.cons.inj hend).2⟩
    | cons r' ps' =>
      rw [args_cons_cons, hpiece'] at h
      have hend := (around_append_inj hquote hquote' h).2
      exact absurd (List.cons.inj hend).1 (by decide)
  | cons r ps ih =>
    rw [args_cons_cons, hpiece] at h
    cases ps' with
    | nil =>
      rw [args_singleton, hpiece'] at h
      have hend := (around_append_inj hquote hquote' h).2
      exact absurd (List.cons.inj hend).1 (by decide)
    | cons r' ps' =>
      rw [args_cons_cons, hpiece'] at h
      obtain ⟨rfl, hcomma⟩ := around_append_inj hquote hquote' h
      have hfurther := (List.cons.inj (List.cons.inj hcomma).2).2
      have hr : ∀ s ∈ r :: ps, IsPiece s := fun s hs => hps s (List.mem_cons_of_mem p hs)
      have hr' : ∀ s ∈ r' :: ps', IsPiece s := fun s hs => hps' s (List.mem_cons_of_mem p hs)
      obtain ⟨q, hq, hqpiece⟩ := quotePiece_eq (hr r List.mem_cons_self)
      obtain ⟨q', hq', hqpiece'⟩ := quotePiece_eq (hr' r' List.mem_cons_self)
      obtain ⟨hpieces, hrest⟩ := ih hr hr' hfurther q hq hqpiece q' hq' hqpiece'
      exact ⟨by rw [hpieces], hrest⟩

/-- A text as an expression is a string around it, or, with both quotes in it, the pieces of it as
arguments. -/
theorem literalChars_cases (prefer : Quote) (cs : List Char) :
    (∃ quote : Quote, quote.char ∉ cs ∧ literalChars prefer cs = quote.around cs) ∨
      (∀ quote : Quote, quote.char ∈ cs) ∧
        literalChars prefer cs = "concat(".toList ++ (args (pieces cs) ++ [')']) := by
  by_cases hprefer : prefer.char ∈ cs
  · by_cases hother : prefer.other.char ∈ cs
    · refine .inr ⟨?_, ?_⟩
      · intro quote
        cases prefer <;> cases quote <;> assumption
      · simp [literalChars, hprefer, hother, args]
    · refine .inl ⟨prefer.other, hother, ?_⟩
      simp [literalChars, hprefer, hother]
  · refine .inl ⟨prefer, hprefer, ?_⟩
    simp [literalChars, hprefer]

/-- An expression starts with a string, or with one behind the name of a function. -/
theorem startsString_literalChars (prefer : Quote) (cs : List Char) {rest : List Char}
    (hrest : IsOutside rest) :
    ∃ lead s text, literalChars prefer cs ++ ']' :: rest = lead ++ text ∧
      (lead = [] ∨ lead = "concat(".toList) ∧ StartsString s text := by
  rcases literalChars_cases prefer cs with ⟨quote, hquote, hchars⟩ | ⟨hboth, hchars⟩
  · have hend : IsOutside (']' :: rest) := hrest.append (p := [']']) (by decide) (by decide)
    refine ⟨[], cs, literalChars prefer cs ++ ']' :: rest, rfl, .inl rfl, quote, _, hquote,
      .bracket rest, hend, ?_⟩
    rw [hchars, around_append]
  · obtain ⟨p, p', ps, hpieces⟩ := exists_pieces_eq hboth
    have hps : ∀ r ∈ p :: p' :: ps, IsPiece r := by
      intro r hr
      rw [← hpieces] at hr
      exact isPiece_of_mem_pieces hr
    refine ⟨_, p, _, ?_, .inr rfl, startsString_args hps hrest⟩
    rw [hchars, hpieces, List.append_assoc, List.append_assoc, List.singleton_append]

/-- An expression tells its text. -/
theorem literalChars_append_inj {prefer : Quote} {v w rest rest' : List Char}
    (h : literalChars prefer v ++ ']' :: rest = literalChars prefer w ++ ']' :: rest') :
    v = w ∧ rest = rest' := by
  -- No string starts like the name of the function.
  have hconcat : ∀ (quote : Quote) (cs r r' : List Char),
      quote.around cs ++ r ≠ "concat(".toList ++ r' := by
    intro quote cs r r' heq
    rw [around_append] at heq
    exact Quote.char_ne (by decide) (by decide) (List.cons.inj heq).1
  rcases literalChars_cases prefer v with ⟨quote, hv, hchars⟩ | ⟨hboth, hchars⟩ <;>
    rcases literalChars_cases prefer w with ⟨quote', hw, hchars'⟩ | ⟨hboth', hchars'⟩ <;>
    rw [hchars, hchars'] at h
  · obtain ⟨rfl, hend⟩ := around_append_inj hv hw h
    exact ⟨rfl, (List.cons.inj hend).2⟩
  · rw [List.append_assoc] at h
    exact absurd h (hconcat _ _ _ _)
  · rw [List.append_assoc] at h
    exact absurd h.symm (hconcat _ _ _ _)
  · obtain ⟨p, q, ps, hpieces⟩ := exists_pieces_eq hboth
    obtain ⟨p', q', ps', hpieces'⟩ := exists_pieces_eq hboth'
    simp only [List.append_assoc, List.append_cancel_left_eq, List.singleton_append] at h
    rw [hpieces, hpieces'] at h
    have hps : ∀ r ∈ p :: q :: ps, IsPiece r := fun r hr =>
      isPiece_of_mem_pieces (hpieces ▸ hr)
    have hps' : ∀ r ∈ p' :: q' :: ps', IsPiece r := fun r hr =>
      isPiece_of_mem_pieces (hpieces' ▸ hr)
    obtain ⟨hsame, hend⟩ := args_append_inj hps hps' h
    refine ⟨?_, (List.cons.inj hend).2⟩
    calc v = (pieces v).flatten := (flatten_pieces v).symm
      _ = (pieces w).flatten := by rw [hpieces, hpieces', hsame]
      _ = w := flatten_pieces w

end ElementQuery.XPath
