import ElementQuery.Proofs.Selector.CssGrammar

/-!
# CSS strings as tokens

What becomes of a string when a selector is taken apart into tokens. First the text is tidied: there
is one way to end a line, and no NUL. Then a string is consumed up to the quote that it starts with;
a backslash takes a line end away, or stands for the character or for the code point behind it. Of a
code point there are up to six hexadecimal digits, and one white space behind them belongs to it, so
that what is written for a line end is told from a digit or a space that follows in the text.

## Main definitions

* `preprocess` : a text, tidied.
* `consumeEscape`, `consumeUntil`, `consumeString` : the rules for escapes and strings.
* `Consumed` : the token, what is wrong with it, and what is left of the text.

## Main statements

* `consumeUntil_escape` : what one written character is consumed as.
* `consumeString_quote` : a quoted text is consumed as that text.
-/

namespace ElementQuery.Css

/-- What stands for a code point that is not allowed. -/
def replacementChar : Char := '\uFFFD'

/-- What a character becomes when a text is tidied. -/
def preprocessChar (c : Char) : Char :=
  if c ∈ lineEnds then '\n' else if c = '\x00' then replacementChar else c

/-- A text before it is taken apart: every line ends with a line feed, and NUL is replaced. -/
def preprocess : List Char → List Char
  | [] => []
  | '\r' :: '\n' :: rest => '\n' :: preprocess rest
  | c :: rest => preprocessChar c :: preprocess rest

theorem preprocess_cons {c : Char} (h : c ≠ '\r') (rest : List Char) :
    preprocess (c :: rest) = preprocessChar c :: preprocess rest := by
  rw [preprocess]
  rintro rest' rfl
  exact absurd rfl h

/-- What stands in front of a text without ends of lines and NULs is left as it is. -/
theorem preprocess_append {cs : List Char} (h : ∀ c ∈ cs, preprocessChar c = c ∧ c ≠ '\r')
    (rest : List Char) : preprocess (cs ++ rest) = cs ++ preprocess rest := by
  induction cs with
  | nil => rfl
  | cons c cs ih =>
    obtain ⟨⟨hsame, hreturn⟩, hcs⟩ := List.forall_mem_cons.1 h
    rw [List.cons_append, preprocess_cons hreturn, hsame, ih hcs, List.cons_append]

/-- The character with a code point that an escape names. -/
def escapedChar (code : Nat) : Char :=
  if code = 0 ∨ ¬code.isValidChar then replacementChar else Char.ofNat code

/-- Drops one white space that ends an escape. -/
def dropSpace : List Char → List Char
  | [] => []
  | c :: rest => if c ∈ [' ', '\t', '\n'] then rest else c :: rest

/-- What an escape stands for that goes on with `c` behind its backslash, and what is left of the
text: with a hexadecimal digit the code point of up to six of them, otherwise the character. -/
def consumeEscape (c : Char) (rest : List Char) : Char × List Char :=
  if Regex.isHexDigit c then
    let further := (rest.take 5).takeWhile Regex.isHexDigit
    (escapedChar (Regex.ofDigits 16 (c :: further)), dropSpace (rest.drop further.length))
  else (c, rest)

theorem length_dropSpace_le (cs : List Char) : (dropSpace cs).length ≤ cs.length := by
  cases cs with
  | nil => exact Nat.le_refl _
  | cons c rest =>
    rw [dropSpace]
    split
    · exact Nat.le_succ _
    · exact Nat.le_refl _

theorem length_consumeEscape_le (c : Char) (rest : List Char) :
    (consumeEscape c rest).2.length ≤ rest.length := by
  rw [consumeEscape]
  split
  · exact (length_dropSpace_le _).trans (by simp)
  · exact Nat.le_refl _

/-- What is wrong with a string. -/
inductive StringFault where
  /-- The text ends before the string. -/
  | endOfText
  /-- The line ends before the string. -/
  | endOfLine
  deriving DecidableEq, Repr

/-- The tokens that start with a quote. -/
inductive StringToken where
  | string (value : List Char)
  | badString
  deriving DecidableEq, Repr

/-- What comes of consuming a token. -/
structure Consumed where
  token : StringToken
  faults : List StringFault
  rest : List Char
  deriving DecidableEq, Repr

/-- Characters in front of what is consumed behind them. -/
def Consumed.prepend (cs : List Char) (consumed : Consumed) : Consumed :=
  match consumed.token with
  | .string value => { consumed with token := .string (cs ++ value) }
  | .badString => consumed

/-- What a backslash in a string stands for, and what is left of the text behind it: nothing at the
end of the text or of a line, otherwise an escape. -/
def consumeBackslash : List Char → List Char × List Char
  | [] => ([], [])
  | c :: rest =>
    if c = '\n' then ([], rest) else ([(consumeEscape c rest).1], (consumeEscape c rest).2)

theorem length_consumeBackslash_le (cs : List Char) :
    (consumeBackslash cs).2.length ≤ cs.length := by
  cases cs with
  | nil => exact Nat.le_refl _
  | cons c rest =>
    rw [consumeBackslash]
    split
    · exact Nat.le_succ _
    · exact (length_consumeEscape_le c rest).trans (Nat.le_succ _)

/-- Consumes a string up to a quote. -/
def consumeUntil (quote : Char) : List Char → Consumed
  | [] => ⟨.string [], [.endOfText], []⟩
  | c :: rest =>
    if c = quote then ⟨.string [], [], rest⟩
    else if c = '\n' then ⟨.badString, [.endOfLine], c :: rest⟩
    else if c = '\\' then
      (consumeUntil quote (consumeBackslash rest).2).prepend (consumeBackslash rest).1
    else (consumeUntil quote rest).prepend [c]
termination_by cs => cs.length
decreasing_by
  · exact Nat.lt_succ_of_le (length_consumeBackslash_le rest)
  · exact Nat.lt_succ_self _

/-- Consumes the string that a text starts with, if it does. -/
def consumeString : List Char → Option Consumed
  | [] => none
  | c :: rest => if c = '\'' ∨ c = '"' then some (consumeUntil c rest) else none

section Equations

variable {quote c : Char} {rest : List Char}

theorem consumeUntil_quote : consumeUntil quote (quote :: rest) = ⟨.string [], [], rest⟩ := by
  rw [consumeUntil, if_pos rfl]

theorem consumeUntil_char (hquote : c ≠ quote) (hline : c ≠ '\n') (hslash : c ≠ '\\') :
    consumeUntil quote (c :: rest) = (consumeUntil quote rest).prepend [c] := by
  rw [consumeUntil, if_neg hquote, if_neg hline, if_neg hslash]

/-- An escape goes into the string as the character that it stands for. -/
theorem consumeUntil_backslash (hquote : '\\' ≠ quote) (hline : c ≠ '\n') :
    consumeUntil quote ('\\' :: c :: rest) =
      (consumeUntil quote (consumeEscape c rest).2).prepend [(consumeEscape c rest).1] := by
  rw [consumeUntil, if_neg hquote, if_neg (by decide), if_pos rfl, consumeBackslash, if_neg hline]

end Equations

/-- What a character of a quoted text is read as: there is no NUL. -/
def readChar (c : Char) : Char := if c = '\x00' then replacementChar else c

/-- A character that is written as it is differs from those that are not. -/
theorem ne_of_escape_eq {c d : Char} (hc : escape c = [c]) (hd : escape d ≠ [d]) : c ≠ d := by
  rintro rfl
  exact hd hc

/-- The escape of a character is consumed as a whole, also where a hexadecimal digit or a space
stands behind it. -/
theorem consumeEscape_tail {c : Char} {tail : List Char} (h : (c, tail) ∈ escapeTails)
    (rest : List Char) : ∃ d behind, tail = d :: behind ∧ d ≠ '\n' ∧
      consumeEscape d (behind ++ rest) = (readChar c, rest) := by
  simp only [escapeTails, List.mem_cons, Prod.mk.injEq, List.not_mem_nil, or_false] at h
  rcases h with ⟨rfl, rfl⟩ | ⟨rfl, rfl⟩ | ⟨rfl, rfl⟩ | ⟨rfl, rfl⟩ | ⟨rfl, rfl⟩ | ⟨rfl, rfl⟩ <;>
    exact ⟨_, _, rfl, by decide, rfl⟩

/-- What is written for a character is consumed as that character, whatever is behind it. -/
theorem consumeUntil_escape (c : Char) (rest : List Char) :
    consumeUntil '\'' (escape c ++ rest) = (consumeUntil '\'' rest).prepend [readChar c] := by
  rcases escape_cases c with ⟨hc, hquote, hslash⟩ | ⟨tail, hc, htail⟩
  · have hline : c ≠ '\n' := ne_of_escape_eq hc (by decide)
    have hnull : c ≠ '\x00' := ne_of_escape_eq hc (by decide)
    rw [hc, List.singleton_append, consumeUntil_char hquote hline hslash, readChar, if_neg hnull]
  · obtain ⟨d, behind, rfl, hline, hescape⟩ := consumeEscape_tail htail rest
    rw [hc, List.cons_append, List.cons_append, consumeUntil_backslash (by decide) hline, hescape]

/-- What is written for a text is consumed as that text up to the quote behind it. -/
theorem consumeUntil_escapes (cs rest : List Char) :
    consumeUntil '\'' (cs.flatMap escape ++ '\'' :: rest) =
      ⟨.string (cs.map readChar), [], rest⟩ := by
  induction cs with
  | nil => exact consumeUntil_quote
  | cons c cs ih => rw [List.flatMap_cons, List.append_assoc, consumeUntil_escape, ih]; rfl

/-- Nothing that is written for a character is changed when the text is tidied. -/
theorem preprocessChar_of_mem_escape {c d : Char} (h : d ∈ escape c) :
    preprocessChar d = d ∧ d ≠ '\r' := by
  rcases escape_cases c with ⟨hc, -, -⟩ | ⟨tail, hc, htail⟩
  · rw [hc, List.mem_singleton] at h
    subst h
    have hline : d ∉ lineEnds := by
      simp only [lineEnds, List.mem_cons, List.not_mem_nil, or_false, not_or]
      exact ⟨ne_of_escape_eq hc (by decide), ne_of_escape_eq hc (by decide),
        ne_of_escape_eq hc (by decide)⟩
    have hnull : d ≠ '\x00' := ne_of_escape_eq hc (by decide)
    exact ⟨by rw [preprocessChar, if_neg hline, if_neg hnull], ne_of_escape_eq hc (by decide)⟩
  · rw [hc] at h
    -- Stated with `all`, so that the tails are run through and not every character.
    have hall : ∀ e ∈ escapeTails,
        ('\\' :: e.2).all (fun d => preprocessChar d = d ∧ d ≠ '\r') = true := by decide
    exact of_decide_eq_true (List.all_eq_true.1 (hall _ htail) d h)

/-- A quoted text is not changed when the text is tidied that it stands in, nor does it change how
what follows it is tidied. -/
theorem preprocess_quoteChars (cs rest : List Char) :
    preprocess (quoteChars cs ++ rest) = quoteChars cs ++ preprocess rest := by
  refine preprocess_append (fun d hd => ?_) rest
  simp only [quoteChars, List.cons_append, List.mem_cons, List.mem_append, List.mem_flatMap,
    List.not_mem_nil, or_false] at hd
  rcases hd with rfl | ⟨c, -, hd⟩ | rfl
  · decide
  · exact preprocessChar_of_mem_escape hd
  · decide

/-- Where a quoted text stands in front of any other text, the string token that is consumed is the
text, with the replacement character for NUL; nothing is wrong with it, and what is left is the
other text, tidied as it would be on its own. -/
theorem consumeString_quote (s rest : String) :
    preprocess (quote s ++ rest).toList = (quote s).toList ++ preprocess rest.toList ∧
      consumeString (preprocess (quote s ++ rest).toList) =
        some ⟨.string (s.toList.map readChar), [], preprocess rest.toList⟩ := by
  have htidy : preprocess (quote s ++ rest).toList =
      (quote s).toList ++ preprocess rest.toList := by
    rw [String.toList_append, quote, String.toList_ofList, preprocess_quoteChars]
  refine ⟨htidy, ?_⟩
  have hopen : (quote s).toList ++ preprocess rest.toList =
      '\'' :: (s.toList.flatMap escape ++ '\'' :: preprocess rest.toList) := by
    simp [quote, quoteChars]
  rw [htidy, hopen, consumeString, if_pos (.inl rfl), consumeUntil_escapes]

/-- Neither the digit nor the space of the text is taken for a part of the line end before it. -/
example : consumeString (preprocess ((quote "\na ").toList ++ ['\r', '\n'])) =
    some ⟨.string ['\n', 'a', ' '], [], ['\n']⟩ := by cbv

end ElementQuery.Css
