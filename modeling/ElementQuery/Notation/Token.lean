import ElementQuery.Text.Blank
import ElementQuery.Text.DecimalDigit

/-!
# Tokens of the query notation

The notation has brackets, keywords such as `:tag`, quoted strings, regular expressions written as
a number sign before a quoted text, and whole numbers. White space and commas separate tokens and
mean nothing otherwise. What a token is depends on its first character alone, so a text that
starts with a token of one terminal starts with no token of another one.

## Main definitions

* `Terminal` : the sorts of tokens, and the end of the text.
* `Terminal.read?` : the longest token of a sort at the start of a text.
* `scan?` : the token at the start of a text among some sorts.
* `Place` : a line and a column.
* `Token` : a token with its place.
* `skipSeparators` : a text without its leading separators.
-/

namespace ElementQuery.Notation

open ElementQuery.Text

/-- The sorts of tokens, and the end of the text. -/
inductive Terminal where
  | openMap
  | closeMap
  | openVector
  | closeVector
  | keyword
  | string
  | regex
  | integer
  | endOfText
  deriving DecidableEq, Repr

namespace Terminal

/-- The name of a sort of tokens in messages. -/
def name : Terminal → String
  | openMap => "LBRACE"
  | closeMap => "RBRACE"
  | openVector => "LSQB"
  | closeVector => "RSQB"
  | keyword => "KEYWORD"
  | string => "STRING"
  | regex => "REGEX"
  | integer => "SIGNED_INT"
  | endOfText => "$END"

/-- The sorts of tokens. -/
def all : List Terminal :=
  [openMap, closeMap, openVector, closeVector, keyword, string, regex, integer]

end Terminal

/-- Whether a character separates tokens. -/
def isSeparator (c : Char) : Bool := isBlank c || c == ','

/-- Whether a character may be part of a keyword. -/
def isKeywordChar (c : Char) : Bool :=
  !isSeparator c && !(['{', '}', '[', ']', '"', '#', ':'].contains c)

/-- A text without its leading separators. -/
def skipSeparators (cs : List Char) : List Char := cs.dropWhile isSeparator

/-- A token and what follows it. -/
abbrev Split := List Char × List Char

/-- The given character. -/
def readChar? (expected : Char) : List Char → Option Split
  | c :: rest => if c = expected then some ([c], rest) else none
  | [] => none

/-- What is left of a quoted text up to its closing quote. A backslash takes the next character
with it, which must not be a line feed. -/
def readQuoted? : List Char → Option Split
  | [] => none
  | '"' :: rest => some (['"'], rest)
  | '\\' :: c :: rest =>
    if c = '\n' then none
    else (readQuoted? rest).map fun (body, rest) => ('\\' :: c :: body, rest)
  | ['\\'] => none
  | c :: rest => (readQuoted? rest).map fun (body, rest) => (c :: body, rest)

/-- A quoted text. -/
def readString? : List Char → Option Split
  | '"' :: rest => (readQuoted? rest).map fun (body, rest) => ('"' :: body, rest)
  | _ => none

/-- A regular expression. -/
def readRegex? : List Char → Option Split
  | '#' :: '"' :: rest => (readQuoted? rest).map fun (body, rest) => ('#' :: '"' :: body, rest)
  | _ => none

/-- A keyword: a colon and at least one more character. -/
def readKeyword? : List Char → Option Split
  | ':' :: rest =>
    let name := rest.takeWhile isKeywordChar
    if name.isEmpty then none else some (':' :: name, rest.dropWhile isKeywordChar)
  | _ => none

/-- Whether a character is the sign of a number. -/
def isSign (c : Char) : Bool := c == '+' || c == '-'

/-- A whole number: an optional sign and at least one digit. -/
def readInteger? (cs : List Char) : Option Split :=
  let sign := cs.takeWhile isSign
  let body := cs.dropWhile isSign
  let digits := body.takeWhile isAsciiDigit
  if 1 < sign.length ∨ digits.isEmpty then none
  else some (sign ++ digits, body.dropWhile isAsciiDigit)

/-- The longest token of a sort at the start of a text. -/
def Terminal.read? : Terminal → List Char → Option Split
  | openMap => readChar? '{'
  | closeMap => readChar? '}'
  | openVector => readChar? '['
  | closeVector => readChar? ']'
  | keyword => readKeyword?
  | string => readString?
  | regex => readRegex?
  | integer => readInteger?
  | endOfText => fun _ => none

/-- A line and a column, both counted from 1. -/
structure Place where
  line : Nat
  column : Nat
  deriving DecidableEq, Repr

namespace Place

/-- The start of a text. -/
def start : Place := ⟨1, 1⟩

/-- The place behind a text that starts at a place. Only line feeds end lines. -/
def after (place : Place) (text : List Char) : Place :=
  text.foldl (fun p c => if c = '\n' then ⟨p.line + 1, 1⟩ else ⟨p.line, p.column + 1⟩) place

@[simp] theorem after_nil (place : Place) : place.after [] = place := rfl

/-- The place behind two texts is that of the second behind the first. -/
theorem after_append (place : Place) (a b : List Char) :
    place.after (a ++ b) = (place.after a).after b := by
  simp [after]

end Place

/-- A token with its place. -/
structure Token where
  terminal : Terminal
  lexeme : List Char
  place : Place
  deriving DecidableEq, Repr

/-- The token at the start of a text among some sorts, with its sort and what follows it. -/
def scan? (terminals : List Terminal) (cs : List Char) : Option (Terminal × Split) :=
  terminals.findSome? fun t => (t.read? cs).map (t, ·)

/-- What is read between quotes and what is left make up the text, and something is read. -/
theorem readQuoted?_eq {cs : List Char} {s : Split} (h : readQuoted? cs = some s) :
    s.1 ++ s.2 = cs ∧ s.1 ≠ [] := by
  fun_induction readQuoted? cs generalizing s with
  | case1 => simp at h
  | case2 rest => simp only [Option.some.injEq] at h; subst h; simp
  | case3 => simp at h
  | case4 c rest _ ih =>
    obtain ⟨t, ht, rfl⟩ := Option.map_eq_some_iff.1 h
    simp [(ih ht).1]
  | case5 => simp at h
  | case6 c rest _ _ _ ih =>
    obtain ⟨t, ht, rfl⟩ := Option.map_eq_some_iff.1 h
    simp [(ih ht).1]

/-- A character that is read and what is left make up the text. -/
theorem readChar?_eq {x : Char} {cs : List Char} {s : Split} (h : readChar? x cs = some s) :
    s.1 ++ s.2 = cs ∧ s.1 ≠ [] := by
  cases cs with
  | nil => simp [readChar?] at h
  | cons c rest =>
    simp only [readChar?] at h
    split at h
    · simp only [Option.some.injEq] at h; subst h; simp
    · simp at h

/-- A token of any sort is a non-empty start of the text, and the rest follows it. -/
theorem Terminal.read?_eq {t : Terminal} {cs : List Char} {s : Split} (h : t.read? cs = some s) :
    s.1 ++ s.2 = cs ∧ s.1 ≠ [] := by
  cases t with
  | openMap | closeMap | openVector | closeVector => exact readChar?_eq h
  | keyword =>
    simp only [Terminal.read?, readKeyword?] at h
    split at h
    · split at h
      · simp at h
      · simp only [Option.some.injEq] at h; subst h; simp
    · simp at h
  | string =>
    simp only [Terminal.read?, readString?] at h
    split at h
    · obtain ⟨t, ht, rfl⟩ := Option.map_eq_some_iff.1 h
      simp [(readQuoted?_eq ht).1]
    · simp at h
  | regex =>
    simp only [Terminal.read?, readRegex?] at h
    split at h
    · obtain ⟨t, ht, rfl⟩ := Option.map_eq_some_iff.1 h
      simp [(readQuoted?_eq ht).1]
    · simp at h
  | integer =>
    simp only [Terminal.read?, readInteger?] at h
    split at h
    · simp at h
    · rename_i hd
      simp only [Option.some.injEq] at h; subst h
      constructor
      · simp
      · intro hnil
        simp only [List.append_eq_nil_iff] at hnil
        exact hd (.inr (by simp [hnil.2]))
  | endOfText => simp [Terminal.read?] at h

/-- What follows a scanned token is shorter than the text. -/
theorem length_lt_of_scan? {ts : List Terminal} {cs : List Char} {t : Terminal} {s : Split}
    (h : scan? ts cs = some (t, s)) : s.2.length < cs.length := by
  obtain ⟨u, _, hu⟩ := List.exists_of_findSome?_eq_some h
  obtain ⟨s', hs, he⟩ := Option.map_eq_some_iff.1 hu
  cases he
  obtain ⟨hcs, hne⟩ := Terminal.read?_eq hs
  have := List.length_pos_iff.2 hne
  rw [← hcs, List.length_append]
  omega

theorem length_skipSeparators_le (cs : List Char) : (skipSeparators cs).length ≤ cs.length :=
  (List.dropWhile_sublist _).length_le

end ElementQuery.Notation
