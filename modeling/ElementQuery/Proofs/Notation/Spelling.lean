import ElementQuery.Notation.Basic
import ElementQuery.Proofs.Notation.Lexemes
import ElementQuery.Proofs.Number.Digits

/-!
# Spellings of maps

The ways to write keys with their values as a map. A character of a string can stand for itself
or be escaped, by a letter or by its code; a number can have a sign and zeros in front; separators
can stand between any two tokens and have to stand between a key and a number only, since a digit
or a sign would lengthen the key.

## Main definitions

* `SpellsChar`, `SpellsText` : the ways to write what stands between the quotes of a string.
* `SpellsValue` : the ways to write a value.
* `SpellsEntries`, `SpellsMap` : the ways to write keys with their values.

## Main statements

* `SpellsText.unescape_eq` : what is spelled between quotes is what is read.
* `SpellsValue.exists_token` : a spelled value is a token with the value as its meaning.
-/

namespace ElementQuery.Notation

open ElementQuery.Text ElementQuery.Number

/-- The texts of keyword characters. -/
def IsKeywordText (s : String) : Prop := ∀ c ∈ s.toList, isKeywordChar c = true

instance (s : String) : Decidable (IsKeywordText s) :=
  List.decidableBAll _ s.toList

/-- The texts of separators. -/
def IsGap (gap : List Char) : Prop := ∀ c ∈ gap, isSeparator c = true

instance (gap : List Char) : Decidable (IsGap gap) :=
  List.decidableBAll _ gap

theorem isGap_nil : IsGap [] := nofun

theorem IsGap.append {a b : List Char} (ha : IsGap a) (hb : IsGap b) : IsGap (a ++ b) :=
  fun c hc => (List.mem_append.1 hc).elim (ha c) (hb c)

theorem IsGap.isBoundary {gap : List Char} (h : IsGap gap) : IsBoundary gap :=
  fun c hc => isKeywordChar_of_isSeparator (h c (List.mem_of_mem_head? hc))

/-- The ways to write a character between the quotes of a string. -/
inductive SpellsChar : Char → List Char → Prop where
  | raw {c : Char} (hquote : c ≠ '"') (hslash : c ≠ '\\') : SpellsChar c [c]
  | lineFeed : SpellsChar '\n' ['\\', 'n']
  | tab : SpellsChar '\t' ['\\', 't']
  | carriageReturn : SpellsChar '\r' ['\\', 'r']
  | quote : SpellsChar '"' ['\\', '"']
  | backslash : SpellsChar '\\' ['\\', '\\']
  /-- A character by its code in four hexadecimal digits. -/
  | code {c : Char} {digits : List Char} (hlen : digits.length = 4)
      (hhex : ∀ d ∈ digits, Regex.isHexDigit d = true)
      (hcode : Regex.ofDigits 16 digits = c.toNat) : SpellsChar c ('\\' :: 'u' :: digits)

/-- The ways to write a text between the quotes of a string, each character in its own way. -/
inductive SpellsText : List Char → List Char → Prop where
  | nil : SpellsText [] []
  | cons {c : Char} {cs form body : List Char} (hc : SpellsChar c form) (hcs : SpellsText cs body) :
      SpellsText (c :: cs) (form ++ body)

/-- The signs that a number can be written with. -/
def SpellsSign (n : Int) (sign : List Char) : Prop :=
  0 ≤ n ∧ (sign = [] ∨ sign = ['+']) ∨ n ≤ 0 ∧ sign = ['-']

/-- The ways to write a value. -/
inductive SpellsValue : Value → List Char → Prop where
  | keyword {s : String} (hne : s ≠ "") (hs : IsKeywordText s) :
      SpellsValue (.text s) (':' :: s.toList)
  | string {s : String} {body : List Char} (hs : SpellsText s.toList body) :
      SpellsValue (.text s) ('"' :: (body ++ ['"']))
  /-- A number of at most `maxDigits` digits. -/
  | integer {n : Int} {sign : List Char} {zeros : Nat} (hsign : SpellsSign n sign)
      (hlen : zeros + (Nat.toDigits 10 n.natAbs).length ≤ maxDigits) :
      SpellsValue (.int n) (sign ++ (List.replicate zeros '0' ++ Nat.toDigits 10 n.natAbs))

/-- The ways to write keys with their values, each behind separators. A number does not follow
its key directly. -/
inductive SpellsEntries : List (Value × Value) → List Char → Prop where
  | nil : SpellsEntries [] []
  /-- A key with its value, and then the others. -/
  | cons {name : String} {v : Value} {rest : List (Value × Value)}
      {gap gap' form body : List Char} (hgap : IsGap gap) (hne : name ≠ "")
      (hname : IsKeywordText name) (hgap' : IsGap gap') (hv : SpellsValue v form)
      (hapart : gap' = [] → ∀ n, v ≠ .int n) (hrest : SpellsEntries rest body) :
      SpellsEntries ((.text name, v) :: rest)
        (gap ++ (':' :: name.toList ++ (gap' ++ (form ++ body))))

/-- The ways to write keys with their values as a map. -/
def SpellsMap (pairs : List (Value × Value)) (text : String) : Prop :=
  ∃ lead body gap trail, IsGap lead ∧ SpellsEntries pairs body ∧ IsGap gap ∧ IsGap trail ∧
    text.toList = lead ++ (['{'] ++ (body ++ (gap ++ (['}'] ++ trail))))

/-- Every character of the basic plane can be written by its code. -/
theorem SpellsChar.hexDigits {c : Char} (h : c.toNat ≤ 0xFFFF) :
    SpellsChar c ('\\' :: 'u' :: hexDigits 4 c.toNat) := by
  have hlen : (Nat.toDigits 16 c.toNat).length ≤ 4 :=
    (Nat.length_toDigits_le_iff (by decide) (by decide)).2 (by omega)
  refine .code ?_ ?_ ?_
  · simp only [Text.hexDigits, List.length_append, List.length_replicate]
    omega
  · intro d hd
    rcases List.mem_append.1 hd with hd | hd
    · rw [List.eq_of_mem_replicate hd]
      decide
    · exact isHexDigit_of_mem_toDigits (by decide) (by decide) _ d hd
  · rw [Text.hexDigits, ofDigits_zeros, ofDigits_toDigits (by decide) (by decide)]

theorem charOfCode_toNat (c : Char) : charOfCode c.toNat = c := by
  have hvalid : c.toNat.isValidChar := c.valid
  rw [charOfCode, if_pos hvalid, Char.ofNat_toNat]

theorem unescape_plain {c : Char} (hc : c ≠ '\\') (rest : List Char) :
    unescape (c :: rest) = c :: unescape rest := by
  rw [unescape.eq_def]
  split <;> simp_all

theorem unescape_escaped {c : Char} (hc : c ≠ 'u') (rest : List Char) :
    unescape ('\\' :: c :: rest) = escaped c :: unescape rest := by
  simp [unescape]

/-- Four digits behind a backslash stand for the character with that code. -/
theorem unescape_code {c : Char} {digits : List Char} (hlen : digits.length = 4)
    (h : hexChar? digits = some c) (rest : List Char) :
    unescape ('\\' :: 'u' :: (digits ++ rest)) = c :: unescape rest := by
  have htake : (digits ++ rest).take 4 = digits.take 4 := by
    rw [← hlen, List.take_left, List.take_length]
  have hhex : hexChar? (digits ++ rest) = some c := by
    rw [← h, hexChar?, hexChar?, htake]
  have hdrop : (digits ++ rest).drop 4 = rest := by
    rw [← hlen, List.drop_left]
  rw [unescape]
  simp only [hhex, hdrop]

/-- A spelled character is what is read, whatever follows. -/
theorem SpellsChar.unescape_append {c : Char} {form : List Char} (h : SpellsChar c form)
    (rest : List Char) : unescape (form ++ rest) = c :: unescape rest := by
  cases h with
  | raw hquote hslash => exact unescape_plain hslash rest
  | lineFeed | tab | carriageReturn | quote | backslash =>
    exact unescape_escaped (by decide) rest
  | code hlen hhex hcode =>
    refine unescape_code hlen ?_ rest
    rw [hexChar?, ← hlen, List.take_length, if_pos ⟨rfl, List.all_eq_true.2 hhex⟩, hcode,
      charOfCode_toNat]

/-- What is spelled between quotes is what is read. -/
theorem SpellsText.unescape_eq {cs body : List Char} (h : SpellsText cs body) :
    unescape body = cs := by
  induction h with
  | nil => simp [unescape]
  | cons hc _ ih => rw [hc.unescape_append, ih]

theorem isHexDigit_ne {d : Char} (h : Regex.isHexDigit d = true) : d ≠ '"' ∧ d ≠ '\\' := by
  constructor
  · rintro rfl
    revert h
    decide
  · rintro rfl
    revert h
    decide

/-- However a character is spelled, that can stand between quotes. -/
theorem SpellsChar.isQuotedBody {c : Char} {form : List Char} (h : SpellsChar c form) :
    IsQuotedBody form := by
  cases h with
  | raw hquote hslash => exact .plain hquote hslash .nil
  | lineFeed | tab | carriageReturn | quote | backslash => exact .escaped (by decide) .nil
  | @code _ digits hlen hhex hcode =>
    refine .escaped (by decide) ?_
    clear hlen hcode
    induction digits with
    | nil => exact .nil
    | cons d digits ih =>
      obtain ⟨hquote, hslash⟩ := isHexDigit_ne (hhex d List.mem_cons_self)
      exact .plain hquote hslash (ih fun e he => hhex e (List.mem_cons_of_mem _ he))

/-- However a text is spelled, that can stand between quotes. -/
theorem SpellsText.isQuotedBody {cs body : List Char} (h : SpellsText cs body) :
    IsQuotedBody body := by
  induction h with
  | nil => exact .nil
  | cons hc _ ih => exact hc.isQuotedBody.append ih

theorem toList_ne_nil {s : String} (h : s ≠ "") : s.toList ≠ [] := by
  intro hnil
  exact h (String.toList_inj.1 (hnil.trans String.toList_empty.symm))

/-- The sign of a number is one that is read. -/
theorem SpellsSign.mem_signs {n : Int} {sign : List Char} (h : SpellsSign n sign) :
    sign ∈ signs := by
  rcases h with ⟨-, rfl | rfl⟩ | ⟨-, rfl⟩ <;> decide

theorem isAsciiDigit_of_mem_zeros {zeros n : Nat} :
    ∀ c ∈ List.replicate zeros '0' ++ Nat.toDigits 10 n, isAsciiDigit c = true := by
  intro c hc
  rcases List.mem_append.1 hc with hc | hc
  · rw [List.eq_of_mem_replicate hc]
    decide
  · exact isAsciiDigit_of_mem_toDigits hc

/-- A sign in front of digits is told from them. -/
theorem splitSign_append {sign digits : List Char} (hsign : sign ∈ signs) (hne : digits ≠ [])
    (hdigits : ∀ c ∈ digits, isAsciiDigit c = true) :
    splitSign (sign ++ digits) = (sign == ['-'], digits) := by
  obtain ⟨d, ds, rfl⟩ := List.exists_cons_of_ne_nil hne
  have hd : isAsciiDigit d = true := hdigits d List.mem_cons_self
  have hminus : d ≠ '-' := by
    rintro rfl
    revert hd
    decide
  have hplus : d ≠ '+' := by
    rintro rfl
    revert hd
    decide
  simp only [signs, List.mem_cons, List.not_mem_nil, or_false] at hsign
  rcases hsign with rfl | rfl | rfl
  · simp [splitSign, hminus, hplus]
  · rfl
  · rfl

/-- However a number is spelled, it is read as what it is. -/
theorem integerOf_spelled {n : Int} {sign : List Char} {zeros : Nat} (hsign : SpellsSign n sign)
    (hlen : zeros + (Nat.toDigits 10 n.natAbs).length ≤ maxDigits) :
    integerOf (sign ++ (List.replicate zeros '0' ++ Nat.toDigits 10 n.natAbs)) = .ok (.int n) := by
  have hne : List.replicate zeros '0' ++ Nat.toDigits 10 n.natAbs ≠ [] := by
    simp [Nat.toDigits_ne_nil]
  -- The zeros in front count as digits, though they do not change the number.
  have hcount : ¬maxDigits <
      (List.replicate zeros '0' ++ Nat.toDigits 10 n.natAbs).length := by
    rw [List.length_append, List.length_replicate]
    omega
  have hvalue : signed (sign == ['-']) n.natAbs = n := by
    rcases hsign with ⟨hn, rfl | rfl⟩ | ⟨hn, rfl⟩
    · exact Int.natAbs_of_nonneg hn
    · exact Int.natAbs_of_nonneg hn
    · change -(n.natAbs : Int) = n
      omega
  simp only [integerOf, splitSign_append hsign.mem_signs hne isAsciiDigit_of_mem_zeros]
  rw [if_neg hcount, ofDigits_zeros, ofDigits_toDigits (by decide) (by decide), hvalue]
  rfl

/-- A spelled value is one token, whose meaning is the value. -/
theorem SpellsValue.exists_token [Regex.Engine] {v : Value} {form : List Char}
    (h : SpellsValue v form) :
    ∃ t ∈ [Terminal.keyword, .regex, .integer, .string],
      (∀ rest, IsBoundary rest → t.read? (form ++ rest) = some (form, rest)) ∧
      ∀ place, Token.meaning ⟨t, form, place⟩ = .ok v := by
  cases h with
  | @keyword s hne hs =>
    refine ⟨.keyword, by decide, ?_, ?_⟩
    · intro rest hrest
      exact readKeyword?_append (toList_ne_nil hne) hs hrest
    · intro place
      simp [Token.meaning, pure, Except.pure]
  | @string s body hs =>
    refine ⟨.string, by decide, ?_, ?_⟩
    · intro rest _
      have hread : readString? ('"' :: (body ++ '"' :: rest)) =
          some ('"' :: (body ++ ['"']), rest) := readString?_append hs.isQuotedBody
      simpa [Terminal.read?] using hread
    · intro place
      have hinner : inner 1 ('"' :: (body ++ ['"'])) = body := by
        simp [inner]
      simp [Token.meaning, hinner, hs.unescape_eq, pure, Except.pure]
  | @integer n sign zeros hsign hlen =>
    refine ⟨.integer, by decide, ?_, ?_⟩
    · intro rest hrest
      rw [List.append_assoc]
      refine readInteger?_append hsign.mem_signs ?_ isAsciiDigit_of_mem_zeros ?_
      · simp [Nat.toDigits_ne_nil]
      · exact fun c hc => isAsciiDigit_eq_false (hrest c hc)
    · intro place
      exact integerOf_spelled hsign hlen

end ElementQuery.Notation
