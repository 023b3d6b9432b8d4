import ElementQuery.Proofs.Selector.Asks
import ElementQuery.Selector.Css
import Mathlib.Tactic.SplitIfs

/-!
# Readings of CSS selectors

A CSS selector can be read in one way only. Names stand in a selector as they are and may hold an
apostrophe, so that two readings of one text could differ on where a string starts. From there on
one of them is inside a string whenever the other one is not: a string ends with an apostrophe in
front of a bracket, which is no place outside of strings unless a string starts there, and then the
readings change places. Hence they never end together.

## Main definitions

* `escapeTails` : the characters that are escaped.
* `IsOutside` : the texts that can be read from a place outside of strings.

## Main statements

* `escapes_append_inj` : a string tells its characters.
* `IsOutside.ne_string` : readings inside and outside of a string do not end together.
-/

namespace ElementQuery.Css

open ElementQuery.Notation ElementQuery.Text

/-- The characters that are escaped, with what stands for each behind a backslash. -/
def escapeTails : List (Char × List Char) :=
  [('\\', ['\\']), ('\'', ['\'']), ('\n', ['a', ' ']), ('\r', ['d', ' ']), ('\x0c', ['c', ' ']),
    ('\x00', ['f', 'f', 'f', 'd', ' '])]

/-- A character stands for itself, or behind a backslash. -/
theorem escape_cases (c : Char) :
    escape c = [c] ∧ c ≠ '\'' ∧ c ≠ '\\' ∨
      ∃ tail, escape c = '\\' :: tail ∧ (c, tail) ∈ escapeTails := by
  unfold escape
  by_cases hmark : c = '\\' ∨ c = '\''
  · right
    refine ⟨[c], if_pos hmark, ?_⟩
    rcases hmark with rfl | rfl <;> simp [escapeTails]
  · rw [if_neg hmark]
    rw [not_or] at hmark
    split_ifs with hline hreturn hfeed hnull
    · exact .inr ⟨_, rfl, by simp [escapeTails, hline]⟩
    · exact .inr ⟨_, rfl, by simp [escapeTails, hreturn]⟩
    · exact .inr ⟨_, rfl, by simp [escapeTails, hfeed]⟩
    · exact .inr ⟨_, rfl, by simp [escapeTails, hnull]⟩
    · exact .inl ⟨rfl, hmark.2, hmark.1⟩

/-- What follows the backslash tells the character. -/
theorem escapeTails_append_inj {c d : Char} {tail tail' rest rest' : List Char}
    (hc : (c, tail) ∈ escapeTails) (hd : (d, tail') ∈ escapeTails)
    (h : tail ++ rest = tail' ++ rest') : c = d ∧ rest = rest' := by
  simp only [escapeTails, List.mem_cons, Prod.mk.injEq, List.not_mem_nil, or_false] at hc hd
  rcases hc with ⟨rfl, rfl⟩ | ⟨rfl, rfl⟩ | ⟨rfl, rfl⟩ | ⟨rfl, rfl⟩ | ⟨rfl, rfl⟩ | ⟨rfl, rfl⟩ <;>
    rcases hd with ⟨rfl, rfl⟩ | ⟨rfl, rfl⟩ | ⟨rfl, rfl⟩ | ⟨rfl, rfl⟩ | ⟨rfl, rfl⟩ | ⟨rfl, rfl⟩ <;>
    simp_all

theorem not_mem_escapeTails {c : Char} {tail : List Char} (h : (c, tail) ∈ escapeTails) :
    '=' ∉ tail := by
  simp only [escapeTails, List.mem_cons, Prod.mk.injEq, List.not_mem_nil, or_false] at h
  rcases h with ⟨_, rfl⟩ | ⟨_, rfl⟩ | ⟨_, rfl⟩ | ⟨_, rfl⟩ | ⟨_, rfl⟩ | ⟨_, rfl⟩ <;> simp

/-- An escape tells its character. -/
theorem escape_append_inj {c d : Char} {rest rest' : List Char}
    (h : escape c ++ rest = escape d ++ rest') : c = d ∧ rest = rest' := by
  rcases escape_cases c with ⟨hc, _, hcne⟩ | ⟨tail, hc, hctail⟩ <;>
    rcases escape_cases d with ⟨hd, _, hdne⟩ | ⟨tail', hd, hdtail⟩ <;>
    rw [hc, hd] at h <;> obtain ⟨hhead, hrest⟩ := List.cons.inj h
  · exact ⟨hhead, hrest⟩
  · exact absurd hhead hcne
  · exact absurd hhead.symm hdne
  · exact escapeTails_append_inj hctail hdtail hrest

/-- No escape starts with the closing quote. -/
theorem escape_append_ne_quote (c : Char) (rest rest' : List Char) :
    escape c ++ rest ≠ '\'' :: rest' := by
  intro h
  rcases escape_cases c with ⟨hc, hne, _⟩ | ⟨tail, hc, _⟩
  · rw [hc] at h
    exact hne (List.cons.inj h).1
  · rw [hc] at h
    exact absurd (List.cons.inj h).1 (by decide)

/-- What starts with no backslash is a character that stands for itself. -/
theorem escape_append_eq_cons {c x : Char} {rest rest' : List Char} (hx : x ≠ '\\')
    (h : escape c ++ rest = x :: rest') : c = x ∧ rest = rest' := by
  rcases escape_cases c with ⟨hc, _, _⟩ | ⟨tail, hc, _⟩
  · rw [hc] at h
    exact List.cons.inj h
  · rw [hc] at h
    exact absurd (List.cons.inj h).1.symm hx

/-- A text in quotes is told by its escapes, up to the closing quote. -/
theorem escapes_append_inj {v w rest rest' : List Char}
    (h : v.flatMap escape ++ '\'' :: rest = w.flatMap escape ++ '\'' :: rest') :
    v = w ∧ rest = rest' := by
  induction v generalizing w with
  | nil =>
    cases w with
    | nil => exact ⟨rfl, (List.cons.inj h).2⟩
    | cons d w =>
      rw [List.flatMap_cons, List.append_assoc] at h
      exact absurd h.symm (escape_append_ne_quote d _ _)
  | cons c v ih =>
    cases w with
    | nil =>
      rw [List.flatMap_cons, List.append_assoc] at h
      exact absurd h (escape_append_ne_quote c _ _)
    | cons d w =>
      simp only [List.flatMap_cons, List.append_assoc] at h
      obtain ⟨rfl, htail⟩ := escape_append_inj h
      obtain ⟨rfl, hrest⟩ := ih htail
      exact ⟨rfl, hrest⟩

/-- The texts that can be read from a place outside of strings. An apostrophe that belongs to a
name has no bracket behind it; a string stands behind an equals sign and has one. -/
inductive IsOutside : List Char → Prop where
  | nil : IsOutside []
  | plain {c : Char} {t : List Char} (hc : c = '\'' → t.head? ≠ some ']') (ht : IsOutside t) :
      IsOutside (c :: t)
  | string {v t : List Char} (ht : IsOutside t) :
      IsOutside ('=' :: '\'' :: (v.flatMap escape ++ '\'' :: ']' :: t))

/-- Behind a character of a name it is still outside of strings. -/
theorem IsOutside.of_cons {c : Char} {t : List Char} (h : IsOutside (c :: t)) (hc : c ≠ '=') :
    IsOutside t := by
  cases h with
  | plain _ ht => exact ht
  | string => exact absurd rfl hc

theorem IsOutside.of_append {p t : List Char} (h : IsOutside (p ++ t)) (hp : '=' ∉ p) :
    IsOutside t := by
  induction p with
  | nil => exact h
  | cons c p ih =>
    rw [List.mem_cons, not_or] at hp
    exact ih (h.of_cons (Ne.symm hp.1)) hp.2

theorem IsOutside.append {p t : List Char} (h : IsOutside t) (hp : ']' ∉ p)
    (ht : t.head? ≠ some ']') : IsOutside (p ++ t) := by
  induction p with
  | nil => exact h
  | cons c p ih =>
    rw [List.mem_cons, not_or] at hp
    refine .plain ?_ (ih hp.2)
    intro _
    cases p with
    | nil => exact ht
    | cons d p =>
      intro hd
      rw [List.mem_cons, not_or] at hp
      exact hp.2.1 (Option.some.inj hd).symm

theorem IsOutside.bracket {t : List Char} (h : IsOutside t) : IsOutside (']' :: t) :=
  .plain (fun hc => absurd hc (by decide)) h

/-- Two readings of a text, one from outside of strings and one from inside of one, do not end
together. -/
theorem IsOutside.ne_string {t rest : List Char} (v : List Char) (h : IsOutside t)
    (hrest : IsOutside rest) : t ≠ v.flatMap escape ++ '\'' :: ']' :: rest := by
  -- By induction on what is left to read, since the readings may change places.
  induction hlen : t.length using Nat.strong_induction_on generalizing t v rest with
  | _ n ih =>
    subst hlen
    intro heq
    cases v with
    | nil =>
      rw [List.flatMap_nil, List.nil_append] at heq
      subst heq
      cases h with
      | plain hc _ => exact hc rfl rfl
    | cons d v =>
      rw [List.flatMap_cons, List.append_assoc] at heq
      cases h with
      | nil =>
        rcases escape_cases d with ⟨hd, _⟩ | ⟨tail, hd, _⟩ <;> rw [hd] at heq <;> cases heq
      | @plain c t hc ht =>
        rcases escape_cases d with ⟨hd, _⟩ | ⟨tail, hd, htail⟩
        · rw [hd, List.singleton_append] at heq
          exact ih t.length (by simp) v ht hrest rfl (List.cons.inj heq).2
        · rw [hd, List.cons_append] at heq
          obtain ⟨_, rfl⟩ := List.cons.inj heq
          -- Behind the backslash stands no equals sign, so that no string starts there.
          have hskip := ht.of_append (not_mem_escapeTails htail)
          refine ih _ ?_ v hskip hrest rfl rfl
          simp only [List.length_cons, List.length_append]
          omega
      | @string w u hu =>
        obtain ⟨rfl, hquote⟩ := escape_append_eq_cons (by decide) heq.symm
        cases v with
        | nil =>
          -- The string that one reading leaves is the one that the other reading enters.
          rw [List.flatMap_nil, List.nil_append] at hquote
          have hswap := (List.cons.inj hquote).2
          refine ih _ ?_ w hrest.bracket hu rfl hswap
          rw [hswap]
          simp only [List.length_cons]
          omega
        | cons e v =>
          rw [List.flatMap_cons, List.append_assoc] at hquote
          exact escape_append_ne_quote e _ _ hquote

end ElementQuery.Css
