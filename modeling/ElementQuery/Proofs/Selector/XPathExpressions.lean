import ElementQuery.Proofs.Selector.XPathGrammar

/-!
# What XPath expressions stand for

An expression that a text is written as can be read back, whatever stands behind it. A string is
read up to the first quote like the one that it starts with, so that it stands for what is between
them; a call that puts texts together is read up to the parenthesis behind its arguments, which can
be calls again. There may be white space between tokens. Calls in calls are read in a number of
steps, and a step for each character of the text is enough.

## Main definitions

* `Expression` : a string, or a call with arguments.
* `readExpression` : the expression that a text starts with, and what is left of the text.
* `Expression.value?` : the text that an expression stands for.

## Main statements

* `readExpression_of_readExpressionIn` : what any number of steps reads is read.
* `readExpression_around` : a text in quotes that it does not hold is read as that text.
* `readExpression_concat` : pieces with a call around them are read as that call.
* `readExpression_literal` : an expression is read as the text that it was written for.
-/

namespace ElementQuery.XPath

/-- The white space that can stand between tokens. -/
def isSpace (c : Char) : Bool := c == ' ' || c == '\t' || c == '\r' || c == '\n'

/-- Drops the white space in front of a token. -/
def skipSpaces (cs : List Char) : List Char := cs.dropWhile isSpace

/-- Reads a string, which ends with the first quote like the one that it starts with. -/
def readString : List Char → Option (List Char × List Char)
  | [] => none
  | c :: rest =>
    if c = '\'' ∨ c = '"' then
      match rest.dropWhile (· != c) with
      | [] => none
      | _ :: behind => some (rest.takeWhile (· != c), behind)
    else none

/-- Reads the start of a call that puts texts together, up to its arguments. Its name is read as far
as a name goes. -/
def readCall (cs : List Char) : Option (List Char) :=
  if cs.takeWhile isNameChar = "concat".toList then
    match skipSpaces (cs.dropWhile isNameChar) with
    | '(' :: rest => some rest
    | _ => none
  else none

theorem skipSpaces_cons {c : Char} (h : isSpace c = false) (rest : List Char) :
    skipSpaces (c :: rest) = c :: rest :=
  List.dropWhile_cons_of_neg (by simp [h])

/-- A text between quotes is read as a string. -/
theorem readString_around {quote : Quote} {cs : List Char} (h : quote.char ∉ cs)
    (rest : List Char) : readString (quote.around cs ++ rest) = some (cs, rest) := by
  have hquote : quote.char = '\'' ∨ quote.char = '"' := by cases quote <;> decide
  have hcs : ∀ c ∈ cs, (c != quote.char) = true := by
    intro c hc
    rw [bne_iff_ne]
    rintro rfl
    exact h hc
  rw [around_append, readString, if_pos hquote, List.dropWhile_append_of_pos hcs,
    List.takeWhile_append_of_pos hcs, List.dropWhile_cons_of_neg (by simp),
    List.takeWhile_cons_of_neg (by simp), List.append_nil]

theorem length_skipSpaces_le (cs : List Char) : (skipSpaces cs).length ≤ cs.length :=
  List.length_dropWhile_le _ cs

theorem length_lt_of_readString {cs s rest : List Char} (h : readString cs = some (s, rest)) :
    rest.length < cs.length := by
  cases cs with
  | nil => cases h
  | cons c cs =>
    rw [readString] at h
    split at h
    · split at h
      · cases h
      · next behind hbehind =>
        cases h
        have hle := List.length_dropWhile_le (· != c) cs
        rw [hbehind, List.length_cons] at hle
        rw [List.length_cons]
        omega
    · cases h

theorem length_lt_of_readCall {cs rest : List Char} (h : readCall cs = some rest) :
    rest.length + 1 < cs.length := by
  rw [readCall] at h
  split at h
  · next hname =>
    split at h
    · next behind hbehind =>
      cases h
      have hle := length_skipSpaces_le (cs.dropWhile isNameChar)
      have hcs := congrArg List.length (List.takeWhile_append_dropWhile (p := isNameChar) (l := cs))
      rw [hbehind, List.length_cons] at hle
      rw [List.length_append, hname] at hcs
      have hconcat : "concat".toList.length = 6 := rfl
      omega
    · cases h
  · cases h

/-- The expressions that stand for texts. -/
inductive Expression where
  | string (cs : List Char)
  | concat (args : List Expression)

mutual

/-- Reads the expression that a text starts with, in so many steps at most, and gives what is left
of the text. -/
def readExpressionIn : (steps : Nat) → List Char → Option (Expression × List Char)
  | 0, _ => none
  | steps + 1, cs =>
    match readString cs with
    | some (s, rest) => some (.string s, rest)
    | none => do
      let (args, rest) ← readArgumentsIn steps (← readCall cs)
      return (.concat args, rest)

/-- Reads arguments, with commas between them, up to the parenthesis behind them. -/
def readArgumentsIn : (steps : Nat) → List Char → Option (List Expression × List Char)
  | 0, _ => none
  | steps + 1, cs => do
    let (first, rest) ← readExpressionIn steps (skipSpaces cs)
    match skipSpaces rest with
    | ',' :: rest =>
      let (further, rest) ← readArgumentsIn steps rest
      return (first :: further, rest)
    | ')' :: rest => return ([first], rest)
    | _ => none

end

/-- Reads the expression that a text starts with, in a step for each character. -/
def readExpression (cs : List Char) : Option (Expression × List Char) :=
  readExpressionIn cs.length cs

mutual

/-- The text that an expression stands for. At least two texts are put together. -/
def Expression.value? : Expression → Option (List Char)
  | .string cs => some cs
  | .concat args => if 2 ≤ args.length then joinedValue? args else none

/-- The texts that expressions stand for, one after the other. -/
def joinedValue? : List Expression → Option (List Char)
  | [] => some []
  | e :: es => do return (← e.value?) ++ (← joinedValue? es)

end

/-- Strings that are joined have the value of all of them. -/
theorem joinedValue?_strings (ps : List (List Char)) :
    joinedValue? (ps.map .string) = some ps.flatten := by
  induction ps with
  | nil => rfl
  | cons p ps ih =>
    rw [List.map_cons, joinedValue?, ih]
    rfl

section Steps

variable {steps : Nat} {cs rest : List Char}

/-- An expression is a string, or else a call with its arguments. -/
theorem readExpressionIn_succ_iff {e : Expression} :
    readExpressionIn (steps + 1) cs = some (e, rest) ↔
      (∃ s, readString cs = some (s, rest) ∧ e = .string s) ∨
        readString cs = none ∧ ∃ behind args, readCall cs = some behind ∧
          readArgumentsIn steps behind = some (args, rest) ∧ e = .concat args := by
  rw [readExpressionIn]
  constructor
  · intro h
    split at h
    · next s behind hstring =>
      cases h
      exact .inl ⟨s, hstring, rfl⟩
    · next hstring =>
      obtain ⟨behind, hcall, h⟩ := Option.bind_eq_some_iff.1 h
      obtain ⟨⟨args, _⟩, hargs, ⟨⟩⟩ := Option.bind_eq_some_iff.1 h
      exact .inr ⟨hstring, behind, args, hcall, hargs, rfl⟩
  · rintro (⟨s, hstring, rfl⟩ | ⟨hstring, behind, args, hcall, hargs, rfl⟩)
    · simp [hstring]
    · simp [hstring, hcall, hargs]

/-- Arguments are an expression, and further ones behind a comma. -/
theorem readArgumentsIn_succ_iff {args : List Expression} :
    readArgumentsIn (steps + 1) cs = some (args, rest) ↔
      ∃ first behind, readExpressionIn steps (skipSpaces cs) = some (first, behind) ∧
        (skipSpaces behind = ')' :: rest ∧ args = [first] ∨
          ∃ after further, skipSpaces behind = ',' :: after ∧
            readArgumentsIn steps after = some (further, rest) ∧ args = first :: further) := by
  rw [readArgumentsIn]
  constructor
  · intro h
    obtain ⟨⟨first, behind⟩, hfirst, h⟩ := Option.bind_eq_some_iff.1 h
    refine ⟨first, behind, hfirst, ?_⟩
    dsimp only at h
    split at h
    · next after hcomma =>
      obtain ⟨⟨further, _⟩, hfurther, ⟨⟩⟩ := Option.bind_eq_some_iff.1 h
      exact .inr ⟨after, further, hcomma, hfurther, rfl⟩
    · next hclose =>
      cases h
      exact .inl ⟨hclose, rfl⟩
    · cases h
  · rintro ⟨first, behind, hfirst, ⟨hclose, rfl⟩ | ⟨after, further, hcomma, hfurther, rfl⟩⟩
    · simp [hfirst, hclose]
    · simp [hfirst, hcomma, hfurther]

end Steps

/-- What is read in some number of steps ends before the text does that it is read from. -/
theorem length_lt_of_readIn (steps : Nat) :
    (∀ cs e rest, readExpressionIn steps cs = some (e, rest) → rest.length < cs.length) ∧
      ∀ cs args rest, readArgumentsIn steps cs = some (args, rest) → rest.length < cs.length := by
  induction steps with
  | zero => exact ⟨by rintro _ _ _ ⟨⟩, by rintro _ _ _ ⟨⟩⟩
  | succ steps ih =>
    obtain ⟨ihexpression, iharguments⟩ := ih
    refine ⟨fun cs e rest h => ?_, fun cs args rest h => ?_⟩
    · rcases readExpressionIn_succ_iff.1 h with ⟨s, hstring, -⟩ | ⟨-, behind, args, hcall, hargs, -⟩
      · exact length_lt_of_readString hstring
      · have hbehind := length_lt_of_readCall hcall
        have hrest := iharguments _ _ _ hargs
        omega
    · obtain ⟨first, behind, hfirst, h⟩ := readArgumentsIn_succ_iff.1 h
      have hspaces := length_skipSpaces_le cs
      have hbehind := ihexpression _ _ _ hfirst
      have hmark := length_skipSpaces_le behind
      rcases h with ⟨hclose, -⟩ | ⟨after, further, hcomma, hfurther, -⟩
      · rw [hclose, List.length_cons] at hmark
        omega
      · have hrest := iharguments _ _ _ hfurther
        rw [hcomma, List.length_cons] at hmark
        omega

/-- What is read in some number of steps is read as well in any number of steps that the text has
characters for. Arguments take a step more, for their list. -/
theorem readIn_of_length_le (steps : Nat) :
    (∀ cs e rest, readExpressionIn steps cs = some (e, rest) →
      ∀ n, cs.length ≤ n → readExpressionIn n cs = some (e, rest)) ∧
    ∀ cs args rest, readArgumentsIn steps cs = some (args, rest) →
      ∀ n, cs.length < n → readArgumentsIn n cs = some (args, rest) := by
  induction steps with
  | zero => exact ⟨by rintro _ _ _ ⟨⟩, by rintro _ _ _ ⟨⟩⟩
  | succ steps ih =>
    obtain ⟨ihexpression, iharguments⟩ := ih
    refine ⟨fun cs e rest h n hn => ?_, fun cs args rest h n hn => ?_⟩
    · have hlt := (length_lt_of_readIn _).1 _ _ _ h
      obtain ⟨n, rfl⟩ := Nat.exists_eq_add_one.2 (show 0 < n by omega)
      refine readExpressionIn_succ_iff.2 ((readExpressionIn_succ_iff.1 h).imp_right ?_)
      rintro ⟨hstring, behind, args, hcall, hargs, rfl⟩
      have hbehind := length_lt_of_readCall hcall
      exact ⟨hstring, behind, args, hcall, iharguments _ _ _ hargs n (by omega), rfl⟩
    · obtain ⟨n, rfl⟩ := Nat.exists_eq_add_one.2 (show 0 < n by omega)
      obtain ⟨first, behind, hfirst, h⟩ := readArgumentsIn_succ_iff.1 h
      have hspaces := length_skipSpaces_le cs
      refine readArgumentsIn_succ_iff.2
        ⟨first, behind, ihexpression _ _ _ hfirst n (by omega), h.imp_right ?_⟩
      rintro ⟨after, further, hcomma, hfurther, rfl⟩
      have hbehind := (length_lt_of_readIn _).1 _ _ _ hfirst
      have hmark := length_skipSpaces_le behind
      rw [hcomma, List.length_cons] at hmark
      exact ⟨after, further, hcomma, iharguments _ _ _ hfurther n (by omega), rfl⟩

/-- The steps of a reading are enough: what any number of steps reads is read. -/
theorem readExpression_of_readExpressionIn {steps : Nat} {cs rest : List Char} {e : Expression}
    (h : readExpressionIn steps cs = some (e, rest)) : readExpression cs = some (e, rest) :=
  (readIn_of_length_le steps).1 _ _ _ h _ le_rfl

theorem skipSpaces_around (quote : Quote) (cs rest : List Char) :
    skipSpaces (quote.around cs ++ rest) = quote.around cs ++ rest := by
  have hquote : isSpace quote.char = false := by cases quote <;> decide
  rw [around_append, skipSpaces_cons hquote]

theorem skipSpaces_quotePiece (piece rest : List Char) :
    skipSpaces (quotePiece piece ++ rest) = quotePiece piece ++ rest :=
  skipSpaces_around _ piece rest

theorem readExpressionIn_around {quote : Quote} {cs : List Char} (h : quote.char ∉ cs)
    (steps : Nat) (rest : List Char) :
    readExpressionIn (steps + 1) (quote.around cs ++ rest) = some (.string cs, rest) :=
  readExpressionIn_succ_iff.2 (.inl ⟨cs, readString_around h rest, rfl⟩)

theorem readExpressionIn_quotePiece {piece : List Char} (h : IsPiece piece) (steps : Nat)
    (rest : List Char) :
    readExpressionIn (steps + 1) (quotePiece piece ++ rest) = some (.string piece, rest) := by
  obtain ⟨quote, hquote, hpiece⟩ := quotePiece_eq h
  rw [hpiece, readExpressionIn_around hquote]

theorem readArgumentsIn_space (steps : Nat) (cs : List Char) :
    readArgumentsIn steps (' ' :: cs) = readArgumentsIn steps cs := by
  have hspace : skipSpaces (' ' :: cs) = skipSpaces cs := List.dropWhile_cons_of_pos (by decide)
  cases steps with
  | zero => rfl
  | succ steps => rw [readArgumentsIn, hspace, readArgumentsIn]

/-- Pieces are read as strings, one for each piece. -/
theorem readArgumentsIn_args {p : List Char} {ps : List (List Char)}
    (h : ∀ r ∈ p :: ps, IsPiece r) (rest : List Char) :
    readArgumentsIn (ps.length + 2) (args (p :: ps) ++ ')' :: rest) =
      some ((p :: ps).map .string, rest) := by
  induction ps generalizing p with
  | nil =>
    refine readArgumentsIn_succ_iff.2
      ⟨.string p, ')' :: rest, ?_, .inl ⟨skipSpaces_cons (by decide) rest, rfl⟩⟩
    rw [args_singleton, skipSpaces_quotePiece]
    exact readExpressionIn_quotePiece (h p List.mem_cons_self) 0 _
  | cons p' ps ih =>
    obtain ⟨hp, hps⟩ := List.forall_mem_cons.1 h
    have hfurther : readArgumentsIn (ps.length + 2) (' ' :: (args (p' :: ps) ++ ')' :: rest)) =
        some ((p' :: ps).map .string, rest) := by
      rw [readArgumentsIn_space, ih hps]
    refine readArgumentsIn_succ_iff.2
      ⟨.string p, ',' :: ' ' :: (args (p' :: ps) ++ ')' :: rest), ?_,
        .inr ⟨_, _, skipSpaces_cons (by decide) _, hfurther, rfl⟩⟩
    rw [args_cons_cons, skipSpaces_quotePiece]
    exact readExpressionIn_quotePiece hp _ _

theorem readCall_concat (rest : List Char) :
    readCall ("concat(".toList ++ rest) = some rest := by
  have hsplit : "concat(".toList ++ rest = "concat".toList ++ '(' :: rest := rfl
  have hname : ∀ c ∈ "concat".toList, isNameChar c = true :=
    List.all_eq_true.1 (by decide)
  have hparen : ¬isNameChar '(' = true := by decide
  rw [hsplit, readCall, List.takeWhile_append_of_pos hname, List.dropWhile_append_of_pos hname,
    List.takeWhile_cons_of_neg hparen, List.dropWhile_cons_of_neg hparen, List.append_nil,
    if_pos rfl, skipSpaces_cons (by decide)]
  rfl

/-- A text in quotes that it does not hold is read as that text. -/
theorem readExpression_around {quote : Quote} {cs : List Char} (h : quote.char ∉ cs)
    (rest : List Char) : readExpression (quote.around cs ++ rest) = some (.string cs, rest) :=
  readExpression_of_readExpressionIn (readExpressionIn_around h 0 rest)

/-- Pieces with a call around them are read as that call. -/
theorem readExpression_concat {p : List Char} {ps : List (List Char)}
    (h : ∀ r ∈ p :: ps, IsPiece r) (rest : List Char) :
    readExpression ("concat(".toList ++ (args (p :: ps) ++ ')' :: rest)) =
      some (.concat ((p :: ps).map .string), rest) := by
  have hstring : readString ("concat(".toList ++ (args (p :: ps) ++ ')' :: rest)) = none := rfl
  have hcall := readCall_concat (args (p :: ps) ++ ')' :: rest)
  exact readExpression_of_readExpressionIn (readExpressionIn_succ_iff.2
    (.inr ⟨hstring, _, _, hcall, readArgumentsIn_args h rest, rfl⟩))

/-- An expression is read up to its end as the text that it was written for, whatever stands behind
it. It is one string if the text does not hold both quotes, else at least two strings put together,
none of them empty. -/
theorem readExpression_literal (prefer : Quote) (s rest : String) :
    ∃ e, readExpression (literal prefer s ++ rest).toList = some (e, rest.toList) ∧
      e.value? = some s.toList ∧
      ((∃ quote : Quote, quote.char ∉ s.toList) ∧ e = .string s.toList ∨
        (∀ quote : Quote, quote.char ∈ s.toList) ∧
          ∃ ps : List (List Char),
            e = .concat (ps.map .string) ∧ 2 ≤ ps.length ∧ ∀ p ∈ ps, p ≠ []) := by
  rw [String.toList_append, literal, String.toList_ofList]
  rcases literalChars_cases prefer s.toList with ⟨quote, hquote, hchars⟩ | ⟨hboth, hchars⟩
  · exact ⟨.string s.toList, by rw [hchars, readExpression_around hquote], rfl,
      .inl ⟨⟨quote, hquote⟩, rfl⟩⟩
  · obtain ⟨p, p', ps, hpieces⟩ := exists_pieces_eq hboth
    have hpiece : ∀ r ∈ p :: p' :: ps, IsPiece r := by
      rw [← hpieces]
      exact fun r => isPiece_of_mem_pieces
    have hne : ∀ r ∈ p :: p' :: ps, r ≠ [] := by
      rw [← hpieces]
      exact fun r => ne_nil_of_mem_pieces
    have hlength : 2 ≤ (p :: p' :: ps).length := by simp
    refine ⟨.concat ((p :: p' :: ps).map .string), ?_, ?_,
      .inr ⟨hboth, p :: p' :: ps, rfl, hlength, hne⟩⟩
    · rw [hchars, hpieces, List.append_assoc, List.append_assoc, List.singleton_append,
        readExpression_concat hpiece]
    · rw [Expression.value?, List.length_map, if_pos hlength, joinedValue?_strings, ← hpieces,
        flatten_pieces]

end ElementQuery.XPath
