import ElementQuery.Proofs.Selector.Parts
import ElementQuery.Proofs.Selector.XPathReadings
import ElementQuery.Text.CodeRange

/-!
# The grammar of location paths

A location path is a name test at any depth with predicates behind it: comparisons of attributes or
of the text of the element with strings, and positions. Values are written as expressions of the
grammar whichever characters they hold; names and element names are written as they are, so that it
is up to them whether an XPath follows the grammar. The quote at the end of a string tells where it
starts, which tells where the last predicate starts.

## Main definitions

* `IsNameTest`, `IsExpression` : the tests of names, and the expressions that texts are written as.
* `IsPart`, `IsPath` : predicates, and whole location paths without white space between tokens.

## Main statements

* `isExpression_literalChars` : every text is written as an expression.
* `IsPart.append_inj` : where the last predicate of an XPath starts.
* `isPath_iff` : an XPath follows the grammar exactly if its names do.
-/

namespace ElementQuery.XPath

open ElementQuery.Notation ElementQuery.Text

/-- The code points of the characters that a name can start with. -/
def nameStarts : List CodeRange :=
  [(0x41, 0x5A), (0x5F, 0x5F), (0x61, 0x7A), (0xC0, 0xD6), (0xD8, 0xF6), (0xF8, 0x2FF),
    (0x370, 0x37D), (0x37F, 0x1FFF), (0x200C, 0x200D), (0x2070, 0x218F), (0x2C00, 0x2FEF),
    (0x3001, 0xD7FF), (0xF900, 0xFDCF), (0xFDF0, 0xFFFD), (0x10000, 0xEFFFF)]

/-- The code points of the other characters that a name can hold. -/
def nameExtras : List CodeRange :=
  [(0x2D, 0x2E), (0x30, 0x39), (0xB7, 0xB7), (0x300, 0x36F), (0x203F, 0x2040)]

/-- Whether a name can start with a character. -/
def isNameStart (c : Char) : Bool := CodeRange.covers nameStarts c.toNat

/-- Whether a name can hold a character. -/
def isNameChar (c : Char) : Bool := isNameStart c || CodeRange.covers nameExtras c.toNat

/-- The names without a prefix. -/
inductive IsName : List Char → Prop where
  | cons {c : Char} {rest : List Char} (hc : isNameStart c = true)
      (hrest : ∀ d ∈ rest, isNameChar d = true) : IsName (c :: rest)

/-- The tests of names: of any name, or of a name, and with a prefix or without one. -/
inductive IsNameTest : List Char → Prop where
  | any : IsNameTest ['*']
  | name {local' : List Char} (hlocal : IsName local') : IsNameTest local'
  | anyIn {space : List Char} (hspace : IsName space) : IsNameTest (space ++ [':', '*'])
  | nameIn {space local' : List Char} (hspace : IsName space) (hlocal : IsName local') :
      IsNameTest (space ++ ':' :: local')

/-- The strings, which do not hold the quotes that they stand in. -/
inductive IsString : List Char → Prop where
  | around (quote : Quote) {cs : List Char} (hcs : quote.char ∉ cs) : IsString (quote.around cs)

/-- One or more strings with commas between them. -/
inductive IsArguments : List Char → Prop where
  | one {s : List Char} (hs : IsString s) : IsArguments s
  | more {front s : List Char} (hfront : IsArguments front) (hs : IsString s) :
      IsArguments (front ++ ',' :: ' ' :: s)

/-- The expressions that texts are written as: a string, or at least two that are put together. -/
inductive IsExpression : List Char → Prop where
  | string {s : List Char} (hs : IsString s) : IsExpression s
  | concat {front s : List Char} (hfront : IsArguments front) (hs : IsString s) :
      IsExpression ("concat(".toList ++ (front ++ ',' :: ' ' :: s) ++ [')'])

/-- What is compared with an expression, for given names of attributes. -/
inductive IsLeftSide (Name : List Char → Prop) : Subject → List Char → Prop where
  | named {name : List Char} (hname : Name name) : IsLeftSide Name (.named name) ('@' :: name)
  | text : IsLeftSide Name .text "text()".toList

/-- What can stand between the brackets of a predicate. -/
inductive IsContent (Name : List Char → Prop) : Subject → List Char → Prop where
  | comparison {σ : Subject} {left e : List Char} (hleft : IsLeftSide Name σ left)
      (he : IsExpression e) : IsContent Name σ (left ++ '=' :: e)
  | position {digits : List Char} (hne : digits ≠ [])
      (hdigits : ∀ c ∈ digits, isAsciiDigit c = true) : IsContent Name .position digits

/-- The predicates behind a name test. -/
inductive IsPart (Name : List Char → Prop) : Subject → List Char → Prop where
  | brackets {σ : Subject} {content : List Char} (hcontent : IsContent Name σ content) :
      IsPart Name σ ('[' :: content ++ [']'])

/-- The location paths whose predicates are about given subjects. -/
def IsPath (subjects : List Subject) (cs : List Char) : Prop :=
  ∃ lead ∈ [[], ['.']], ∃ test parts, IsNameTest test ∧
    List.Forall₂ (IsPart IsNameTest) subjects parts ∧
    cs = lead ++ ['/', '/'] ++ test ++ parts.flatten

theorem IsName.forall_isNameChar {cs : List Char} (h : IsName cs) :
    ∀ c ∈ cs, isNameChar c = true := by
  cases h with
  | cons hc hrest => exact List.forall_mem_cons.2 ⟨by rw [isNameChar, hc, Bool.true_or], hrest⟩

theorem IsNameTest.not_mem {cs : List Char} (h : IsNameTest cs) {c : Char}
    (hc : isNameChar c = false) (hmark : c ∉ [':', '*']) : c ∉ cs := by
  have hname : ∀ {name : List Char}, IsName name → c ∉ name := by
    intro name hname hmem
    rw [hname.forall_isNameChar c hmem] at hc
    cases hc
  simp only [List.mem_cons, List.not_mem_nil, or_false, not_or] at hmark
  cases h with
  | any => simpa using hmark.2
  | name hlocal => exact hname hlocal
  | anyIn hspace => simp [hname hspace, hmark]
  | nameIn hspace hlocal => simp [hname hspace, hname hlocal, hmark]

/-- What a name test starts with, if it is not the one of any name. -/
theorem IsNameTest.exists_cons {cs : List Char} (h : IsNameTest cs) :
    cs = ['*'] ∨ ∃ c rest, cs = c :: rest ∧ isNameStart c = true := by
  have hname : ∀ {name rest : List Char}, IsName name →
      ∃ c behind, name ++ rest = c :: behind ∧ isNameStart c = true := by
    intro name rest hname
    cases hname with
    | cons hc => exact ⟨_, _, rfl, hc⟩
  cases h with
  | any => exact .inl rfl
  | name hlocal => exact .inr (List.append_nil cs ▸ hname hlocal)
  | anyIn hspace | nameIn hspace => exact .inr (hname hspace)

theorem isString_quotePiece {piece : List Char} (h : IsPiece piece) :
    IsString (quotePiece piece) := by
  obtain ⟨quote, hquote, hpiece⟩ := quotePiece_eq h
  rw [hpiece]
  exact .around quote hquote

theorem IsArguments.cons {s as : List Char} (hs : IsString s) (has : IsArguments as) :
    IsArguments (s ++ ',' :: ' ' :: as) := by
  induction has with
  | one hlast => exact .more (.one hs) hlast
  | more _ hlast ih =>
    have hmore := IsArguments.more ih hlast
    simpa using hmore

/-- The pieces of a text, each one quoted, are arguments. -/
theorem isArguments_args {p : List Char} {ps : List (List Char)} (h : ∀ r ∈ p :: ps, IsPiece r) :
    IsArguments (args (p :: ps)) := by
  induction ps generalizing p with
  | nil =>
    have hp := isString_quotePiece (h p List.mem_cons_self)
    rw [← List.append_nil (args [p]), args_singleton, List.append_nil]
    exact .one hp
  | cons p' ps ih =>
    obtain ⟨hp, hps⟩ := List.forall_mem_cons.1 h
    rw [← List.append_nil (args _), args_cons_cons, List.append_nil]
    exact .cons (isString_quotePiece hp) (ih hps)

/-- At least two strings are put together, also when they are counted from the first one. -/
theorem isExpression_of_arguments {s as : List Char} (hs : IsString s) (has : IsArguments as) :
    IsExpression ("concat(".toList ++ (s ++ ',' :: ' ' :: as) ++ [')']) := by
  cases has with
  | one hlast => exact .concat (.one hs) hlast
  | more hfront hlast =>
    have hmore := IsExpression.concat (.cons hs hfront) hlast
    rwa [List.append_assoc s, List.cons_append, List.cons_append] at hmore

/-- Every text is written as an expression, whichever quotes it holds. -/
theorem isExpression_literalChars (prefer : Quote) (cs : List Char) :
    IsExpression (literalChars prefer cs) := by
  rcases literalChars_cases prefer cs with ⟨quote, hquote, hchars⟩ | ⟨hboth, hchars⟩
  · rw [hchars]
    exact .string (.around quote hquote)
  · obtain ⟨p, p', ps, hpieces⟩ := exists_pieces_eq hboth
    have hps : ∀ r ∈ p :: p' :: ps, IsPiece r := fun r hr =>
      isPiece_of_mem_pieces (hpieces ▸ hr)
    obtain ⟨hp, hfurther⟩ := List.forall_mem_cons.1 hps
    rw [hchars, hpieces, args_cons_cons, ← List.append_assoc, ← List.cons_append,
      ← List.cons_append, ← List.append_assoc]
    exact isExpression_of_arguments (isString_quotePiece hp) (isArguments_args hfurther)

/-- Where a string ends the text, what is in front of it is told. -/
theorem IsString.append_inj_left {x y s t : List Char} (hs : IsString s) (ht : IsString t)
    (h : x ++ s = y ++ t) : x = y := by
  cases hs with
  | around quote hcs =>
    cases ht with
    | around quote' hds =>
      rw [Quote.around, Quote.around, ← List.append_assoc, ← List.append_assoc] at h
      obtain ⟨hfront, hlast⟩ := List.append_inj' h rfl
      rw [Quote.char_injective (List.cons.inj hlast).1] at hcs hfront
      exact (append_cons_inj_left hcs hds hfront).1

/-- Where arguments end the text, what is in front of them is told. -/
theorem IsArguments.append_inj_left {x y as bs : List Char} (has : IsArguments as)
    (hbs : IsArguments bs) (h : x ++ '(' :: as = y ++ '(' :: bs) : x = y := by
  -- Behind a parenthesis stands the first string, behind a space any other one.
  have hmixed : ∀ {x y front s t : List Char}, IsString s → IsString t →
      x ++ '(' :: s ≠ y ++ '(' :: (front ++ ',' :: ' ' :: t) := by
    intro x y front s t hs ht h
    have hstrings : (x ++ ['(']) ++ s = (y ++ '(' :: front ++ [',', ' ']) ++ t := by simpa using h
    have hlast := congrArg List.getLast? (hs.append_inj_left ht hstrings)
    rw [List.getLast?_append, List.getLast?_append] at hlast
    exact absurd hlast (by simp)
  induction has generalizing bs with
  | one hs =>
    cases hbs with
    | one ht =>
      rw [List.append_cons, List.append_cons y] at h
      exact List.append_cancel_right (hs.append_inj_left ht h)
    | more _ ht => exact absurd h (hmixed hs ht)
  | @more front s _ hs ih =>
    cases hbs with
    | one ht => exact absurd h.symm (hmixed ht hs)
    | @more front' t hfront' ht =>
      have hstrings : (x ++ '(' :: front) ++ [',', ' '] ++ s =
          (y ++ '(' :: front') ++ [',', ' '] ++ t := by
        simpa using h
      exact ih hfront' (List.append_cancel_right (hs.append_inj_left ht hstrings))

theorem IsString.getLast?_mem {s : List Char} (h : IsString s) (x : List Char) :
    ∃ quote : Quote, (x ++ s).getLast? = some quote.char := by
  cases h with
  | around quote => exact ⟨quote, by rw [Quote.around, ← List.append_assoc, List.getLast?_concat]⟩

/-- Where an expression ends the text, what is in front of it is told. -/
theorem IsExpression.append_inj_left {x y e e' : List Char} (he : IsExpression e)
    (he' : IsExpression e') (h : x ++ '=' :: e = y ++ '=' :: e') : x = y := by
  have hmixed : ∀ {x y s as : List Char}, IsString s →
      x ++ '=' :: s ≠ y ++ '=' :: ("concat(".toList ++ as ++ [')']) := by
    intro x y s as hs h
    obtain ⟨quote, hquote⟩ := hs.getLast?_mem (x ++ ['='])
    rw [← List.append_cons, h, ← List.cons_append, ← List.append_assoc, List.getLast?_concat]
      at hquote
    cases quote <;> exact absurd (Option.some.inj hquote) (by decide)
  cases he with
  | string hs =>
    cases he' with
    | string ht =>
      rw [List.append_cons, List.append_cons y] at h
      exact List.append_cancel_right (hs.append_inj_left ht h)
    | concat => exact absurd h (hmixed hs)
  | @concat front s hfront hs =>
    cases he' with
    | string ht => exact absurd h.symm (hmixed ht)
    | @concat front' t hfront' ht =>
      have hlead : "concat(".toList = "concat".toList ++ ['('] := by decide
      have harguments : (x ++ '=' :: "concat".toList) ++ '(' :: (front ++ ',' :: ' ' :: s) =
          (y ++ '=' :: "concat".toList) ++ '(' :: (front' ++ ',' :: ' ' :: t) := by
        rw [hlead] at h
        refine (List.append_left_inj [')']).1 ?_
        simpa using h
      have hfronts := IsArguments.append_inj_left (.more hfront hs) (.more hfront' ht) harguments
      exact List.append_cancel_right hfronts

theorem IsExpression.exists_getLast? {e : List Char} (h : IsExpression e) (x : List Char) :
    ∃ c, isAsciiDigit c = false ∧ (x ++ e).getLast? = some c := by
  cases h with
  | string hs =>
    obtain ⟨quote, hquote⟩ := hs.getLast?_mem x
    exact ⟨_, by cases quote <;> decide, hquote⟩
  | concat => exact ⟨')', by decide, by rw [← List.append_assoc, List.getLast?_concat]⟩

/-- What is compared tells the subject. -/
theorem IsLeftSide.subject_inj {Name Name' : List Char → Prop} {σ τ : Subject} {left : List Char}
    (hσ : IsLeftSide Name σ left) (hτ : IsLeftSide Name' τ left) : σ = τ := by
  cases hσ with
  | named =>
    cases hτ with
    | named => rfl
  | text =>
    generalize htext : "text()".toList = left at hτ
    cases hτ with
    | named => cases htext
    | text => rfl

theorem IsLeftSide.not_mem {Name : List Char → Prop} {σ : Subject} {left : List Char} {x : Char}
    (h : IsLeftSide Name σ left) (hname : ∀ name, Name name → x ∉ name)
    (hx : x ∉ "@text()".toList) : x ∉ left := by
  cases h with
  | named hn =>
    rw [List.mem_cons, not_or]
    exact ⟨fun heq => hx (heq ▸ List.mem_cons_self), hname _ hn⟩
  | text => exact fun hmem => hx (List.mem_cons_of_mem '@' hmem)

/-- The last character of a number is a digit. -/
theorem exists_getLast?_of_digits {digits : List Char} (hne : digits ≠ [])
    (hdigits : ∀ c ∈ digits, isAsciiDigit c = true) (x : List Char) :
    ∃ c, isAsciiDigit c = true ∧ (x ++ digits).getLast? = some c := by
  refine ⟨digits.getLast hne, hdigits _ (List.getLast_mem hne), ?_⟩
  rw [List.getLast?_append, List.getLast?_eq_getLast_of_ne_nil hne]
  rfl

/-- Where the last predicate of an XPath starts. -/
theorem IsPart.append_inj {x y r g : List Char} {σ τ : Subject} (hr : IsPart ('[' ∉ ·) σ r)
    (hg : IsPart IsNameTest τ g) (h : x ++ r = y ++ g) : x = y ∧ σ = τ := by
  have hmixed : ∀ {x y digits left e : List Char}, digits ≠ [] →
      (∀ c ∈ digits, isAsciiDigit c = true) → IsExpression e →
      x ++ '[' :: digits ≠ y ++ '[' :: (left ++ '=' :: e) := by
    intro x y digits left e hne hdigits he h
    obtain ⟨c, hc, hexpression⟩ := he.exists_getLast? (y ++ '[' :: left ++ ['='])
    obtain ⟨d, hd, hnumber⟩ := exists_getLast?_of_digits hne hdigits (x ++ ['['])
    rw [← List.append_cons, h] at hnumber
    rw [← List.append_cons, List.append_assoc, List.cons_append, hnumber] at hexpression
    rw [Option.some.inj hexpression, hc] at hd
    cases hd
  cases hr with
  | brackets hcontent =>
    cases hg with
    | brackets hcontent' =>
      simp only [← List.append_assoc] at h
      have hcontents := List.append_cancel_right h
      cases hcontent with
      | @comparison _ left e hleft he =>
        cases hcontent' with
        | @comparison _ left' e' hleft' he' =>
          rw [← List.cons_append, ← List.cons_append, ← List.append_assoc, ← List.append_assoc]
            at hcontents
          obtain ⟨hxy, rfl⟩ := append_cons_inj_left
            (hleft.not_mem (fun _ hname => hname) (by decide))
            (hleft'.not_mem (fun _ htest => htest.not_mem (by decide) (by decide)) (by decide))
            (he.append_inj_left he' hcontents)
          exact ⟨hxy, hleft.subject_inj hleft'⟩
        | position hne hdigits => exact absurd hcontents.symm (hmixed hne hdigits he)
      | position hne hdigits =>
        cases hcontent' with
        | comparison _ he' => exact absurd hcontents (hmixed hne hdigits he')
        | position _ hdigits' =>
          have hbracket : ∀ {cs : List Char}, (∀ c ∈ cs, isAsciiDigit c = true) → '[' ∉ cs := by
            intro cs hcs hmem
            cases hcs '[' hmem
          exact ⟨(append_cons_inj_left (hbracket hdigits) (hbracket hdigits') hcontents).1, rfl⟩

/-- Where the name test of an XPath starts. -/
theorem lead_append_inj {lead lead' test test' : List Char} (hlead : lead ∈ [[], ['.']])
    (hlead' : lead' ∈ [[], ['.']])
    (h : lead ++ ['/', '/'] ++ test = lead' ++ ['/', '/'] ++ test') : test = test' := by
  simp only [List.mem_cons, List.not_mem_nil, or_false] at hlead hlead'
  rcases hlead with rfl | rfl <;> rcases hlead' with rfl | rfl <;> simp_all

/-- The check for an entry is a predicate about its subject, if the name can be the one of a
predicate. -/
theorem isPart_of_check {Name : List Char → Prop} {p : Predicate} {s : String}
    (hname : ∀ name, p.subject = .named name → Name name)
    (hposition : ∀ n, p.criterion = .index n → 0 ≤ n) (h : check p = .ok s) :
    IsPart Name p.subject s.toList := by
  rw [check] at h
  split at h
  · next hkind =>
    obtain rfl := (Except.ok.inj h).symm
    have hpart : IsPart Name .text _ :=
      .brackets (.comparison .text (isExpression_literalChars .double p.criterion.text.toList))
    rw [Predicate.subject, hkind]
    simpa [literal] using hpart
  · next hkind =>
    obtain ⟨ordinal, hordinal, rfl⟩ := map_eq_ok_iff.1 h
    obtain ⟨n, hcriterion, -⟩ := Criterion.ordinal_eq_ok hordinal
    rw [hcriterion] at hordinal
    obtain ⟨hne, hdigits⟩ := Criterion.digits_of_ordinal (hposition n hcriterion) hordinal
    have hpart : IsPart Name .position _ := .brackets (.position hne hdigits)
    rw [Predicate.subject, hkind]
    simpa using hpart
  · next htext hindex =>
    obtain rfl := (Except.ok.inj h).symm
    have hsubject : p.subject = .named p.name.toList := by
      rw [Predicate.subject]
      split
      · next hkind => exact absurd hkind htext
      · next hkind => exact absurd hkind hindex
      · rfl
    have hpart : IsPart Name (.named p.name.toList) _ := .brackets (.comparison
      (.named (hname _ hsubject)) (isExpression_literalChars .single p.criterion.text.toList))
    rw [hsubject]
    simpa [literal] using hpart

section Queries

variable {q : Query} {tag s : String} {scope : Scope}

/-- A selector is its lead and its tag with a part for each of its subjects. -/
theorem exists_parts_of_selector {Name : List Char → Prop} (hpattern : q.hasPattern = false)
    (hpositions : ∀ p ∈ q.checks, ∀ n, p.criterion = .index n → 0 ≤ n)
    (hnames : ∀ name, Subject.named name ∈ q.subjects → Name name)
    (h : selector (.text tag) q scope = .ok (some s)) :
    ∃ parts, List.Forall₂ (IsPart Name) q.subjects parts ∧
      s.toList = scope.lead.toList ++ ['/', '/'] ++ tag.toList ++ parts.flatten := by
  change writeIn .xpath scope (.text tag) q = .ok (some s) at h
  rw [writeIn_eq rfl rfl hpattern, map_eq_ok_iff] at h
  obtain ⟨behind, hbehind, hs⟩ := h
  obtain rfl := Option.some.inj hs
  have hcheck : ∀ p ∈ q.checks, ∀ t, checkIn .xpath p = .ok t → IsPart Name p.subject t.toList :=
    fun p hp _ => isPart_of_check (fun name hname =>
      hnames name (hname ▸ List.mem_map_of_mem hp)) (hpositions p hp)
  obtain ⟨parts, hparts, htext⟩ := forall₂_of_checksIn hpattern hcheck hbehind
  refine ⟨parts, hparts, ?_⟩
  rw [leadIn, String.toList_append, String.toList_append, String.toList_append, htext]
  rfl

/-- The XPath of a query follows the grammar, with as many predicates as there are entries, exactly
if the element name and the names of the attributes do, and then the predicates are about the
entries. -/
theorem isPath_iff (hpattern : q.hasPattern = false)
    (hpositions : ∀ p ∈ q.checks, ∀ n, p.criterion = .index n → 0 ≤ n)
    (hnames : ∀ name, Subject.named name ∈ q.subjects → '[' ∉ name)
    (h : selector (.text tag) q scope = .ok (some s)) {subjects : List Subject}
    (hlength : subjects.length = q.subjects.length) :
    IsPath subjects s.toList ↔ subjects = q.subjects ∧ IsNameTest tag.toList ∧
      ∀ name, .named name ∈ q.subjects → IsNameTest name := by
  have hlead : scope.lead.toList ∈ [[], ['.']] := by cases scope <;> decide
  constructor
  · rintro ⟨lead, hlead', test, parts, htest, hparts, htext⟩
    obtain ⟨written, hwritten, hs⟩ := exists_parts_of_selector hpattern hpositions hnames h
    rw [hs] at htext
    obtain ⟨hfront, rfl⟩ := eq_of_parts (E := fun _ => True) (fun _ => trivial)
      (fun hr hg _ => IsPart.append_inj hr hg) hwritten hparts hlength.symm (.inr trivial) htext
    refine ⟨rfl, lead_append_inj hlead hlead' hfront ▸ htest, fun name hmem => ?_⟩
    obtain ⟨part, -, hpart⟩ := exists_of_forall₂_of_mem hparts hmem
    cases hpart with
    | brackets hcontent =>
      cases hcontent with
      | comparison hleft =>
        cases hleft with
        | named hname => exact hname
  · rintro ⟨rfl, htag, htests⟩
    obtain ⟨parts, hparts, hs⟩ := exists_parts_of_selector hpattern hpositions htests h
    exact ⟨_, hlead, tag.toList, parts, htag, hparts, hs⟩

end Queries

end ElementQuery.XPath
