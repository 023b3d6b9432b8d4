import ElementQuery.Notation.Form
import Mathlib.Data.List.TakeWhile

/-!
# Lexemes of the query notation

How a token is read off a text that goes on behind it. The first character of a text decides of
which sort a token can be, so looking for several sorts finds what looking for the right one does.
Keywords and numbers end where the next character is no keyword character; brackets and quoted
texts say themselves where they end.

## Main definitions

* `Terminal.ofFirst?` : the sort of the tokens that start with a character.
* `IsBoundary` : the texts that lengthen no keyword and no number.
* `IsQuotedBody` : what can stand between the quotes of a string.

## Main statements

* `scan?_eq_some_iff` : looking for several sorts is looking for each of them.
* `readKeyword?_append`, `readInteger?_append`, `readString?_append` : whole lexemes are read.
* `Form.readFrom_token` : one token in the reading of a form.
-/

namespace ElementQuery.Notation

open ElementQuery.Text

/-- The sort of the tokens that start with a character. -/
def Terminal.ofFirst? (c : Char) : Option Terminal :=
  if c = '{' then some openMap
  else if c = '}' then some closeMap
  else if c = '[' then some openVector
  else if c = ']' then some closeVector
  else if c = ':' then some keyword
  else if c = '"' then some string
  else if c = '#' then some regex
  else if isSign c || isAsciiDigit c then some integer
  else none

theorem readChar?_head {x c : Char} {rest : List Char} {s : Split}
    (h : readChar? x (c :: rest) = some s) : c = x := by
  simp only [readChar?] at h
  split at h
  · assumption
  · cases h

theorem readInteger?_head {c : Char} {rest : List Char} {s : Split}
    (h : readInteger? (c :: rest) = some s) : (isSign c || isAsciiDigit c) = true := by
  by_contra hc
  rw [Bool.or_eq_true, not_or, Bool.not_eq_true, Bool.not_eq_true] at hc
  simp [readInteger?, hc.1, hc.2] at h

theorem Terminal.ofFirst?_number {c : Char} (h : (isSign c || isAsciiDigit c) = true) :
    ofFirst? c = some integer := by
  have hne : ['{', '}', '[', ']', ':', '"', '#'].all fun x => !(isSign x || isAsciiDigit x) := by
    decide
  have hc : c ∉ ['{', '}', '[', ']', ':', '"', '#'] := by
    intro hmem
    have hnot := List.all_eq_true.1 hne c hmem
    rw [h] at hnot
    cases hnot
  simp only [List.mem_cons, List.not_mem_nil, or_false, not_or] at hc
  simp [ofFirst?, hc, h]

/-- The first character of a token tells its sort. -/
theorem Terminal.ofFirst?_of_read? {t : Terminal} {c : Char} {rest : List Char} {s : Split}
    (h : t.read? (c :: rest) = some s) : ofFirst? c = some t := by
  cases t with
  | openMap | closeMap | openVector | closeVector =>
    rw [readChar?_head h]
    rfl
  | keyword =>
    simp only [Terminal.read?, readKeyword?] at h
    split at h
    · next heq => rw [(List.cons.inj heq).1]; rfl
    · cases h
  | string =>
    simp only [Terminal.read?, readString?] at h
    split at h
    · next heq => rw [(List.cons.inj heq).1]; rfl
    · cases h
  | regex =>
    simp only [Terminal.read?, readRegex?] at h
    split at h
    · next heq => rw [(List.cons.inj heq).1]; rfl
    · cases h
  | integer => exact ofFirst?_number (readInteger?_head h)
  | endOfText => cases h

/-- A text starts with a token of one sort at most. -/
theorem Terminal.read?_unique {t u : Terminal} {cs : List Char} {s s' : Split}
    (h : t.read? cs = some s) (h' : u.read? cs = some s') : t = u := by
  cases cs with
  | nil =>
    obtain ⟨happ, hne⟩ := Terminal.read?_eq h
    exact absurd (List.append_eq_nil_iff.1 happ).1 hne
  | cons c rest =>
    exact Option.some.inj ((ofFirst?_of_read? h).symm.trans (ofFirst?_of_read? h'))

/-- Looking for several sorts of tokens is looking for each of them. -/
theorem scan?_eq_some_iff {ts : List Terminal} {cs : List Char} {t : Terminal} {s : Split} :
    scan? ts cs = some (t, s) ↔ t ∈ ts ∧ t.read? cs = some s := by
  constructor
  · intro h
    obtain ⟨u, hu, h⟩ := List.exists_of_findSome?_eq_some h
    obtain ⟨s', hs, heq⟩ := Option.map_eq_some_iff.1 h
    cases heq
    exact ⟨hu, hs⟩
  · rintro ⟨hmem, h⟩
    induction ts with
    | nil => cases hmem
    | cons u ts ih =>
      rw [scan?, List.findSome?_cons]
      -- What an earlier sort of token finds is of the right sort, as no text is of two.
      cases hu : u.read? cs with
      | some s' =>
        obtain rfl := Terminal.read?_unique h hu
        rw [h] at hu
        cases hu
        rfl
      | none =>
        rcases List.mem_cons.1 hmem with rfl | hmem
        · rw [h] at hu
          cases hu
        · exact ih hmem

/-- The texts that lengthen no keyword and no number in front of them. -/
def IsBoundary (rest : List Char) : Prop := ∀ c, rest.head? = some c → isKeywordChar c = false

theorem isBoundary_cons {c : Char} {rest : List Char} :
    IsBoundary (c :: rest) ↔ isKeywordChar c = false := by
  simp [IsBoundary]

theorem not_mem_of_isKeywordChar {x : Char} {cs : List Char} (hx : isKeywordChar x = false)
    (hcs : ∀ c ∈ cs, isKeywordChar c = true) : x ∉ cs := by
  intro hmem
  rw [hcs x hmem] at hx
  cases hx

theorem isKeywordChar_of_isSeparator {c : Char} (h : isSeparator c = true) :
    isKeywordChar c = false := by
  simp [isKeywordChar, h]

/-- Separators keep a keyword from going on. -/
theorem IsBoundary.append {gap rest : List Char} (hgap : ∀ c ∈ gap, isSeparator c = true)
    (h : IsBoundary rest) : IsBoundary (gap ++ rest) := by
  cases gap with
  | nil => exact h
  | cons c gap =>
    rw [List.cons_append, isBoundary_cons]
    exact isKeywordChar_of_isSeparator (hgap c List.mem_cons_self)

theorem isKeywordChar_of_isAsciiDigit {c : Char} (h : isAsciiDigit c = true) :
    isKeywordChar c = true := by
  have hdigits : ∀ n < 58, 48 ≤ n → isKeywordChar (Char.ofNat n) = true := by decide
  simp only [isAsciiDigit, Bool.and_eq_true, decide_eq_true_eq, Char.le_def,
    UInt32.le_iff_toNat_le] at h
  rw [← Char.ofNat_toNat c]
  exact hdigits c.toNat (Nat.lt_succ_of_le h.2) h.1

theorem isAsciiDigit_eq_false {c : Char} (h : isKeywordChar c = false) :
    isAsciiDigit c = false := by
  by_contra hdigit
  rw [Bool.not_eq_false] at hdigit
  rw [isKeywordChar_of_isAsciiDigit hdigit] at h
  cases h

/-- A run of a class is taken up to a character that is not of it. -/
theorem takeWhile_append_eq {p : Char → Bool} {run rest : List Char}
    (hrun : ∀ c ∈ run, p c = true) (hrest : ∀ c, rest.head? = some c → p c = false) :
    (run ++ rest).takeWhile p = run := by
  rw [List.takeWhile_append_of_pos hrun]
  cases rest with
  | nil => simp
  | cons c rest => simp [hrest c rfl]

/-- A run of a class is dropped up to a character that is not of it. -/
theorem dropWhile_append_eq {p : Char → Bool} {run rest : List Char}
    (hrun : ∀ c ∈ run, p c = true) (hrest : ∀ c, rest.head? = some c → p c = false) :
    (run ++ rest).dropWhile p = rest := by
  rw [List.dropWhile_append_of_pos hrun]
  cases rest with
  | nil => rfl
  | cons c rest => simp [hrest c rfl]

theorem readChar?_append (x : Char) (rest : List Char) :
    readChar? x ([x] ++ rest) = some ([x], rest) := by
  simp [readChar?]

/-- A keyword is read up to the next character that is no keyword character. -/
theorem readKeyword?_append {name rest : List Char} (hne : name ≠ [])
    (hname : ∀ c ∈ name, isKeywordChar c = true) (hrest : IsBoundary rest) :
    readKeyword? (':' :: (name ++ rest)) = some (':' :: name, rest) := by
  simp only [readKeyword?, takeWhile_append_eq hname hrest, dropWhile_append_eq hname hrest]
  rw [if_neg (by simpa using hne)]

/-- The signs that a number can be written with. -/
def signs : List (List Char) := [[], ['+'], ['-']]

/-- A number is read up to the next character that is no digit. -/
theorem readInteger?_append {sign digits rest : List Char} (hsign : sign ∈ signs)
    (hne : digits ≠ []) (hdigits : ∀ c ∈ digits, isAsciiDigit c = true)
    (hrest : ∀ c, rest.head? = some c → isAsciiDigit c = false) :
    readInteger? (sign ++ (digits ++ rest)) = some (sign ++ digits, rest) := by
  obtain ⟨d, ds, rfl⟩ := List.exists_cons_of_ne_nil hne
  have hd : isAsciiDigit d = true := hdigits d List.mem_cons_self
  -- The first digit ends the run of signs.
  have hnosign : isSign d = false := by
    by_contra hs
    simp only [isSign, Bool.not_eq_false, Bool.or_eq_true, beq_iff_eq] at hs
    rcases hs with rfl | rfl <;> cases hd
  have hrun : ∀ c ∈ sign, isSign c = true := by
    simp only [signs, List.mem_cons, List.not_mem_nil, or_false] at hsign
    rcases hsign with rfl | rfl | rfl <;> simp [isSign]
  have hlen : sign.length ≤ 1 := by
    simp only [signs, List.mem_cons, List.not_mem_nil, or_false] at hsign
    rcases hsign with rfl | rfl | rfl <;> simp
  have hstop : ∀ c, (d :: ds ++ rest).head? = some c → isSign c = false := by
    intro c hc
    cases hc
    exact hnosign
  simp only [readInteger?, takeWhile_append_eq hrun hstop, dropWhile_append_eq hrun hstop,
    takeWhile_append_eq hdigits hrest, dropWhile_append_eq hdigits hrest]
  rw [if_neg (by simp; omega)]

/-- What can stand between the quotes of a string: no quote alone, and behind each backslash that
is not itself behind one a character that is no line feed. -/
inductive IsQuotedBody : List Char → Prop where
  | nil : IsQuotedBody []
  | plain {c : Char} {body : List Char} (hquote : c ≠ '"') (hslash : c ≠ '\\')
      (h : IsQuotedBody body) : IsQuotedBody (c :: body)
  /-- A backslash with the character behind it. -/
  | escaped {c : Char} {body : List Char} (hbreak : c ≠ '\n') (h : IsQuotedBody body) :
      IsQuotedBody ('\\' :: c :: body)

theorem IsQuotedBody.append {a b : List Char} (ha : IsQuotedBody a) (hb : IsQuotedBody b) :
    IsQuotedBody (a ++ b) := by
  induction ha with
  | nil => exact hb
  | plain hquote hslash _ ih => exact .plain hquote hslash ih
  | escaped hbreak _ ih => exact .escaped hbreak ih

/-- A body is read up to the quote behind it. -/
theorem readQuoted?_append {body rest : List Char} (h : IsQuotedBody body) :
    readQuoted? (body ++ '"' :: rest) = some (body ++ ['"'], rest) := by
  induction h with
  | nil => rfl
  | @plain c body hquote hslash _ ih =>
    rw [List.cons_append, readQuoted?.eq_def]
    split <;> simp_all
  | @escaped c body hbreak _ ih => simp [readQuoted?, hbreak, ih]

/-- A string is read up to its closing quote. -/
theorem readString?_append {body rest : List Char} (h : IsQuotedBody body) :
    readString? ('"' :: (body ++ '"' :: rest)) = some ('"' :: (body ++ ['"']), rest) := by
  simp [readString?, readQuoted?_append h]

theorem isSeparator_of_ofFirst? {c : Char} {t : Terminal} (h : Terminal.ofFirst? c = some t) :
    isSeparator c = false := by
  have hmarks : ['{', '}', '[', ']', ':', '"', '#', '+', '-'].all fun x => !isSeparator x := by
    decide
  by_cases hmem : c ∈ ['{', '}', '[', ']', ':', '"', '#', '+', '-']
  · simpa using List.all_eq_true.1 hmarks c hmem
  · have hdigit : isAsciiDigit c = true := by
      simp only [List.mem_cons, List.not_mem_nil, or_false, not_or] at hmem
      simp only [Terminal.ofFirst?, isSign, hmem, if_false] at h
      by_contra hd
      simp [hd, hmem] at h
    have hkey := isKeywordChar_of_isAsciiDigit hdigit
    by_contra hsep
    rw [isKeywordChar_of_isSeparator (by simpa using hsep)] at hkey
    cases hkey

/-- A token behind separators leads the reading of a form on, if it fits. -/
theorem Form.readFrom_token {stage next : Stage} {last place : Place} {t : Terminal}
    {gap lexeme rest : List Char} (hgap : ∀ c ∈ gap, isSeparator c = true)
    (hmem : t ∈ stage.scans) (hread : t.read? (lexeme ++ rest) = some (lexeme, rest))
    (hstep : stage.step ⟨t, lexeme, place.after gap⟩ = some next) :
    Form.readFrom stage last place (gap ++ (lexeme ++ rest)) =
      Form.readFrom next (place.after gap) ((place.after gap).after lexeme) rest := by
  have hne : lexeme ≠ [] := (Terminal.read?_eq hread).2
  obtain ⟨c, cs, rfl⟩ := List.exists_cons_of_ne_nil hne
  have hstop : ∀ d, (c :: cs ++ rest).head? = some d → isSeparator d = false := by
    intro d hd
    cases hd
    exact isSeparator_of_ofFirst? (Terminal.ofFirst?_of_read? hread)
  have hskip : skipSeparators (gap ++ (c :: cs ++ rest)) = c :: cs ++ rest :=
    dropWhile_append_eq hgap hstop
  have hscan : scan? stage.scans (c :: cs ++ rest) = some (t, c :: cs, rest) :=
    scan?_eq_some_iff.2 ⟨hmem, hread⟩
  rw [Form.readFrom, takeWhile_append_eq hgap hstop]
  split
  · next heq =>
    rw [hskip] at heq
    cases heq
  · next d ds heq =>
    rw [hskip] at heq
    cases heq
    split
    · next heq =>
      cases hscan.symm.trans heq
      simp only [hstep]
    · next heq => cases hscan.symm.trans heq

/-- A form that is complete is the result, when only separators follow. -/
theorem Form.readFrom_done {form : Form} {last place : Place} {gap : List Char}
    (hgap : ∀ c ∈ gap, isSeparator c = true) :
    Form.readFrom (.done form) last place gap = .ok form := by
  have hskip : skipSeparators gap = [] := List.dropWhile_eq_nil_iff.2 hgap
  rw [Form.readFrom]
  split
  · rfl
  · next heq =>
    rw [hskip] at heq
    cases heq

end ElementQuery.Notation
