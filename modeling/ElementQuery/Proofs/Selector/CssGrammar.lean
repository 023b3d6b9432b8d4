import ElementQuery.Proofs.Selector.CssReadings
import ElementQuery.Proofs.Selector.Parts

/-!
# The grammar of compound selectors

A compound selector is a type selector with parts behind it: attributes with strings, and positions
among siblings. Values are written as strings of the grammar whichever characters they hold; names
and element names are written as they are, so that it is up to them whether a selector follows the
grammar. Where an apostrophe stands in a string, or a bracket in an identifier, a backslash stands
in front of it, which tells where the last part starts.

## Main definitions

* `IsIdentifier`, `IsStringBody` : identifiers, and what can stand between the quotes of a string.
* `IsPart`, `IsCompound` : parts of a selector, and whole selectors.

## Main statements

* `isStringBody_escapes` : every text is written as a string.
* `IsPart.append_inj` : where the last part of a selector starts.
* `isCompound_iff` : a selector follows the grammar exactly if its names do.
* `eq_subjects_of_isCompound` : a selector is about nothing but the entries of its query.
-/

namespace ElementQuery.Css

open ElementQuery.Notation ElementQuery.Text

/-- The characters that end a line. -/
def lineEnds : List Char := ['\n', '\r', '\x0c']

/-- The ways to end a line. -/
def newlines : List (List Char) := [['\n'], ['\r'], ['\x0c'], ['\r', '\n']]

/-- An escape: a backslash with a character, or with a code point in hexadecimal digits, which one
white space can end. -/
inductive IsEscape : List Char → Prop where
  | char {c : Char} (hhex : Regex.isHexDigit c = false) (hline : c ∉ lineEnds) : IsEscape ['\\', c]
  | code {digits space : List Char} (hne : digits ≠ []) (hlen : digits.length ≤ 6)
      (hdigits : ∀ c ∈ digits, Regex.isHexDigit c = true)
      (hspace : space ∈ [] :: [' '] :: ['\t'] :: newlines) : IsEscape ('\\' :: (digits ++ space))

/-- A character of a sort, or an escape. -/
inductive IsUnit (plain : Char → Bool) : List Char → Prop where
  | plain {c : Char} (hc : plain c = true) : IsUnit plain [c]
  | escape {u : List Char} (hu : IsEscape u) : IsUnit plain u

/-- The texts of units, one after the other. -/
def IsRun (Unit : List Char → Prop) (cs : List Char) : Prop :=
  ∃ units : List (List Char), (∀ u ∈ units, Unit u) ∧ cs = units.flatten

/-- Whether an identifier can start with a character. -/
def isNameStart (c : Char) : Bool := c.isAlpha || c == '_' || 0x80 ≤ c.toNat

/-- Whether a character can be part of an identifier. -/
def isNameChar (c : Char) : Bool := isNameStart c || isAsciiDigit c || c == '-'

/-- The identifiers: they start with no digit, not even behind a dash. -/
inductive IsIdentifier : List Char → Prop where
  | plain {first rest : List Char} (hfirst : IsUnit isNameStart first)
      (hrest : IsRun (IsUnit isNameChar) rest) : IsIdentifier (first ++ rest)
  | dash {first rest : List Char} (hfirst : IsUnit isNameStart first)
      (hrest : IsRun (IsUnit isNameChar) rest) : IsIdentifier ('-' :: (first ++ rest))
  | dashes {rest : List Char} (hrest : IsRun (IsUnit isNameChar) rest) :
      IsIdentifier ('-' :: '-' :: rest)

/-- Whether a character can stand in a string as it is. -/
def isStringChar (c : Char) : Bool := !('\'' :: '\\' :: lineEnds).contains c

/-- What a string is made of: characters, escapes, and line ends that do not count. -/
inductive IsStringUnit : List Char → Prop where
  | unit {u : List Char} (hu : IsUnit isStringChar u) : IsStringUnit u
  | continued {line : List Char} (hline : line ∈ newlines) : IsStringUnit ('\\' :: line)

/-- What can stand between the quotes of a string. -/
def IsStringBody (cs : List Char) : Prop := IsRun IsStringUnit cs

/-- The selectors of an element name, or of any element. -/
def IsTypeSelector (cs : List Char) : Prop := cs = ['*'] ∨ IsIdentifier cs

/-- The parts behind an element name, for given names of attributes. -/
inductive IsPart (IsName : List Char → Prop) : Subject → List Char → Prop where
  | named {name body : List Char} (hname : IsName name) (hbody : IsStringBody body) :
      IsPart IsName (.named name) ('[' :: name ++ '=' :: '\'' :: body ++ ['\'', ']'])
  | position {digits : List Char} (hne : digits ≠ [])
      (hdigits : ∀ c ∈ digits, isAsciiDigit c = true) :
      IsPart IsName .position (":nth-child(".toList ++ digits ++ [')'])

/-- The compound selectors whose parts are about given subjects. -/
def IsCompound (subjects : List Subject) (cs : List Char) : Prop :=
  ∃ name parts, IsTypeSelector name ∧ List.Forall₂ (IsPart IsIdentifier) subjects parts ∧
    cs = name ++ parts.flatten

/-- What an identifier starts with. -/
theorem IsIdentifier.exists_cons {cs : List Char} (h : IsIdentifier cs) :
    ∃ c rest, cs = c :: rest ∧ (isNameStart c = true ∨ c = '-' ∨ c = '\\') := by
  have hunit : ∀ {first rest : List Char}, IsUnit isNameStart first →
      ∃ c behind, first ++ rest = c :: behind ∧
        (isNameStart c = true ∨ c = '-' ∨ c = '\\') := by
    intro first rest hfirst
    cases hfirst with
    | plain hc => exact ⟨_, rest, rfl, .inl hc⟩
    | escape hu => cases hu <;> exact ⟨_, _, rfl, .inr (.inr rfl)⟩
  cases h with
  | plain hfirst => exact hunit hfirst
  | dash | dashes => exact ⟨_, _, rfl, .inr (.inl rfl)⟩

/-- An escape shields any character that could not belong to it. -/
theorem IsEscape.shields {u : List Char} (h : IsEscape u) {x : Char} (hslash : x ≠ '\\')
    (hhex : Regex.isHexDigit x = false) (hspace : x ∉ ' ' :: '\t' :: lineEnds) : Shields x u := by
  cases h with
  | char =>
    intro front back heq
    match front with
    | [] => exact absurd (List.cons.inj heq).1.symm hslash
    | [c] => rw [(List.cons.inj heq).1]; rfl
    | _ :: _ :: front => simp at heq
  | @code digits space _ _ hdigits hspaces =>
    refine .of_not_mem ?_
    simp only [List.mem_cons, List.mem_append, not_or]
    refine ⟨hslash, ?_, ?_⟩
    · intro hx
      rw [hdigits x hx] at hhex
      cases hhex
    · intro hx
      simp only [newlines, lineEnds, List.mem_cons, List.not_mem_nil, or_false, not_or]
        at hspaces hspace
      rcases hspaces with rfl | rfl | rfl | rfl | rfl | rfl | rfl <;> simp_all

/-- A unit shields any character that could be no part of one without a backslash. -/
theorem IsUnit.shields {plain : Char → Bool} {u : List Char} (h : IsUnit plain u) {x : Char}
    (hplain : plain x = false) (hslash : x ≠ '\\') (hhex : Regex.isHexDigit x = false)
    (hspace : x ∉ ' ' :: '\t' :: lineEnds) : Shields x u := by
  cases h with
  | plain hc =>
    refine .of_not_mem ?_
    rw [List.mem_singleton]
    rintro rfl
    rw [hplain] at hc
    cases hc
  | escape hu => exact hu.shields hslash hhex hspace

/-- A run of units shields what each of them does. -/
theorem IsRun.shields {Unit : List Char → Prop} {cs : List Char} {x : Char} (h : IsRun Unit cs)
    (hunit : ∀ u, Unit u → Shields x u) : Shields x cs := by
  obtain ⟨units, hunits, rfl⟩ := h
  exact .flatten fun u hu => hunit u (hunits u hu)

/-- A bracket in an identifier stands behind a backslash. -/
theorem IsIdentifier.shields {cs : List Char} (h : IsIdentifier cs) : Shields '[' cs := by
  have hstart : ∀ u, IsUnit isNameStart u → Shields '[' u := fun u hu =>
    hu.shields (by decide) (by decide) (by decide) (by decide)
  have hname : ∀ u, IsUnit isNameChar u → Shields '[' u := fun u hu =>
    hu.shields (by decide) (by decide) (by decide) (by decide)
  have hdash : Shields '[' ['-'] := .of_not_mem (by decide)
  cases h with
  | plain hfirst hrest => exact (hstart _ hfirst).append (hrest.shields hname)
  | dash hfirst hrest => exact hdash.append ((hstart _ hfirst).append (hrest.shields hname))
  | dashes hrest => exact hdash.append (hdash.append (hrest.shields hname))

/-- An apostrophe in a string stands behind a backslash. -/
theorem IsStringBody.shields {cs : List Char} (h : IsStringBody cs) : Shields '\'' cs := by
  refine IsRun.shields h fun u hu => ?_
  cases hu with
  | unit hu => exact hu.shields (by decide) (by decide) (by decide) (by decide)
  | continued hline =>
    refine .of_not_mem ?_
    simp only [newlines, List.mem_cons, List.not_mem_nil, or_false] at hline
    rcases hline with rfl | rfl | rfl | rfl <;> decide

/-- However a character is escaped, that is a unit of strings. -/
theorem isStringUnit_escape (c : Char) : IsStringUnit (escape c) := by
  rcases escape_cases c with ⟨hc, hquote, hslash⟩ | ⟨tail, hc, htail⟩
  · have hplain : isStringChar c = true := by
      -- Line ends are escaped, so that none of them is written as it is.
      have hline : c ∉ lineEnds := by
        intro hline
        simp only [lineEnds, List.mem_cons, List.not_mem_nil, or_false] at hline
        rcases hline with rfl | rfl | rfl <;> exact absurd hc (by decide)
      simp [isStringChar, hquote, hslash, hline]
    rw [hc]
    exact .unit (.plain hplain)
  · rw [hc]
    have hcode : ∀ digits ∈ [['a'], ['d'], ['c'], ['f', 'f', 'f', 'd']],
        IsEscape ('\\' :: (digits ++ [' '])) := by
      intro digits hdigits
      simp only [List.mem_cons, List.not_mem_nil, or_false] at hdigits
      rcases hdigits with rfl | rfl | rfl | rfl <;>
        exact .code (by decide) (by decide) (List.all_eq_true.1 (by decide)) (by decide)
    refine .unit (.escape ?_)
    simp only [escapeTails, List.mem_cons, Prod.mk.injEq, List.not_mem_nil, or_false] at htail
    rcases htail with ⟨-, rfl⟩ | ⟨-, rfl⟩ | ⟨-, rfl⟩ | ⟨-, rfl⟩ | ⟨-, rfl⟩ | ⟨-, rfl⟩
    · exact .char (by decide) (by decide)
    · exact .char (by decide) (by decide)
    · exact hcode ['a'] (by decide)
    · exact hcode ['d'] (by decide)
    · exact hcode ['c'] (by decide)
    · exact hcode ['f', 'f', 'f', 'd'] (by decide)

/-- Every text is written as a string, whichever characters it holds. -/
theorem isStringBody_escapes (cs : List Char) : IsStringBody (cs.flatMap escape) := by
  refine ⟨cs.map escape, ?_, List.flatMap_def⟩
  rw [List.forall_mem_map]
  exact fun c _ => isStringUnit_escape c

/-- Where the string of an attribute starts. -/
theorem stringBody_append_inj {front front' body body' : List Char} (hbody : IsStringBody body)
    (hbody' : IsStringBody body')
    (h : front ++ '=' :: '\'' :: body = front' ++ '=' :: '\'' :: body') : front = front' := by
  -- An equals sign with an apostrophe behind it does not lie within the string.
  have hnone : ∀ {k body body' : List Char}, IsStringBody body' →
      k ++ '=' :: '\'' :: body = '=' :: '\'' :: body' → k = [] := by
    intro k body body' hbody' hk
    match k with
    | [] => rfl
    | [c] => exact absurd (List.cons.inj (List.cons.inj hk).2).1 (by decide)
    | c :: d :: k =>
      have hinner : body' = (k ++ ['=']) ++ '\'' :: body := by
        simpa using (List.cons.inj (List.cons.inj hk).2).2.symm
      have hlast := hbody'.shields _ _ hinner
      rw [List.getLast?_concat] at hlast
      exact absurd (Option.some.inj hlast) (by decide)
  rcases List.append_eq_append_iff.1 h with ⟨k, rfl, hk⟩ | ⟨k, rfl, hk⟩
  · rw [hnone hbody hk.symm, List.append_nil]
  · rw [hnone hbody' hk.symm, List.append_nil]

/-- Where the name of an attribute starts that holds no bracket, unless the bracket belongs to an
identifier that starts further in front. -/
theorem name_append_inj_left {x y name name' : List Char} (hname : '[' ∉ name)
    (hname' : IsIdentifier name') (hx : name = name' ∨ x.getLast? ≠ some '\\')
    (h : x ++ '[' :: name = y ++ '[' :: name') : x = y ∧ name = name' := by
  rcases hx with rfl | hx
  · exact append_cons_inj_left hname hname h
  · rcases List.append_eq_append_iff.1 h with ⟨k, rfl, hk⟩ | ⟨k, rfl, hk⟩
    · cases k with
      | nil => exact ⟨(List.append_nil x).symm, (List.cons.inj hk).2⟩
      | cons c k =>
        obtain ⟨-, rfl⟩ := List.cons.inj hk
        exact absurd (List.mem_append_right k List.mem_cons_self) hname
    · cases k with
      | nil => exact ⟨List.append_nil y, (List.cons.inj hk).2.symm⟩
      | cons c k =>
        -- The bracket lies within the identifier, so that a backslash stands in front of it.
        have hlast := hname'.shields k name (List.cons.inj hk).2
        rw [List.getLast?_append, List.getLast?_cons, hlast] at hx
        exact absurd rfl hx

/-- The character that a part about a subject ends with. -/
def ending : Subject → Char
  | .position => ')'
  | _ => ']'

/-- The last character of a part tells its sort of subject. -/
theorem IsPart.getLast?_append {IsName : List Char → Prop} {r : List Char} {σ : Subject}
    (h : IsPart IsName σ r) (x : List Char) : (x ++ r).getLast? = some (ending σ) := by
  cases h <;> rw [List.getLast?_append, List.getLast?_append] <;> rfl

/-- Where the last part of a selector starts. -/
theorem IsPart.append_inj {x y r g : List Char} {σ τ : Subject} (hr : IsPart ('[' ∉ ·) σ r)
    (hg : IsPart IsIdentifier τ g) (hx : σ = τ ∨ x.getLast? ≠ some '\\') (h : x ++ r = y ++ g) :
    x = y ∧ σ = τ := by
  have hends : ending σ = ending τ := by
    rw [← Option.some_inj, ← hr.getLast?_append x, h, hg.getLast?_append]
  cases hr with
  | @named name body hname hbody =>
    cases hg with
    | @named name' body' hname' hbody' =>
      simp only [← List.append_assoc] at h
      have hnames := stringBody_append_inj hbody hbody' (List.append_cancel_right h)
      obtain ⟨hxy, rfl⟩ := name_append_inj_left hname hname'
        (hx.imp_left fun heq => Subject.named.inj heq) hnames
      exact ⟨hxy, rfl⟩
    | position => cases hends
  | @position digits _ hdigits =>
    cases hg with
    | named => cases hends
    | @position digits' _ hdigits' =>
      have hparen : ∀ {cs : List Char}, (∀ c ∈ cs, isAsciiDigit c = true) → '(' ∉ cs := by
        intro cs hcs hmem
        cases hcs '(' hmem
      have hlead : ":nth-child(".toList = ":nth-child".toList ++ ['('] := by decide
      simp only [hlead, ← List.append_assoc] at h
      have hnumbers := List.append_cancel_right h
      rw [← List.append_cons, ← List.append_cons] at hnumbers
      have hfronts := (append_cons_inj_left (hparen hdigits) (hparen hdigits') hnumbers).1
      exact ⟨List.append_cancel_right hfronts, rfl⟩

/-- No part ends in a backslash. -/
theorem IsPart.getLast?_ne {IsName : List Char → Prop} {x r : List Char} {σ : Subject}
    (h : IsPart IsName σ r) : (x ++ r).getLast? ≠ some '\\' := by
  rw [h.getLast?_append x, Ne, Option.some_inj]
  cases σ <;> simp [ending]

/-- The check for an entry is a part about its subject, if the name can be the one of a part. -/
theorem isPart_of_check {IsName : List Char → Prop} {p : Predicate} {s : String}
    (hname : ∀ name, p.subject = .named name → IsName name)
    (hposition : ∀ n, p.criterion = .index n → 0 ≤ n) (h : check p = .ok s) :
    IsPart IsName p.subject s.toList := by
  have hfield : p.subject = .named p.name.toList →
      s = "[" ++ p.name ++ "=" ++ quote p.criterion.text ++ "]" →
      IsPart IsName p.subject s.toList := by
    rintro hsubject rfl
    have hpart := IsPart.named (hname _ hsubject)
      (isStringBody_escapes p.criterion.text.toList)
    rw [hsubject]
    simpa [quote, quoteChars] using hpart
  rw [check] at h
  split at h
  · cases h
  · next hkind =>
    obtain ⟨ordinal, hordinal, rfl⟩ := map_eq_ok_iff.1 h
    obtain ⟨n, hcriterion, -⟩ := Criterion.ordinal_eq_ok hordinal
    rw [hcriterion] at hordinal
    obtain ⟨hne, hdigits⟩ := Criterion.digits_of_ordinal (hposition n hcriterion) hordinal
    have hpart : IsPart IsName .position _ := .position hne hdigits
    rw [Predicate.subject, hkind]
    simpa using hpart
  · next htext hindex =>
    refine hfield ?_ (Except.ok.inj h).symm
    rw [Predicate.subject]
    split
    · next hkind => exact absurd hkind htext
    · next hkind => exact absurd hkind hindex
    · rfl

section Queries

variable {q : Query} {tag s : String}

/-- A selector is its tag with a part for each of its subjects. -/
theorem exists_parts_of_selector {IsName : List Char → Prop} (hpattern : q.hasPattern = false)
    (hpositions : ∀ p ∈ q.checks, ∀ n, p.criterion = .index n → 0 ≤ n)
    (hnames : ∀ name, Subject.named name ∈ q.subjects → IsName name)
    (h : selector (.text tag) q = .ok (some s)) :
    ∃ parts, List.Forall₂ (IsPart IsName) q.subjects parts ∧
      s.toList = tag.toList ++ parts.flatten := by
  change writeIn .css .document (.text tag) q = .ok (some s) at h
  rw [writeIn_eq rfl rfl hpattern, map_eq_ok_iff] at h
  obtain ⟨behind, hbehind, hs⟩ := h
  obtain rfl := Option.some.inj hs
  have hcheck : ∀ p ∈ q.checks, ∀ t, checkIn .css p = .ok t → IsPart IsName p.subject t.toList :=
    fun p hp _ => isPart_of_check (fun name hname =>
      hnames name (hname ▸ List.mem_map_of_mem hp)) (hpositions p hp)
  obtain ⟨parts, hparts, htext⟩ := forall₂_of_checksIn hpattern hcheck hbehind
  refine ⟨parts, hparts, ?_⟩
  rw [leadIn, String.empty_append, String.toList_append, htext]

/-- The selector of a query follows the grammar, with a part for each entry, exactly if the element
name and the names of the attributes do. -/
theorem isCompound_iff (hpattern : q.hasPattern = false)
    (hpositions : ∀ p ∈ q.checks, ∀ n, p.criterion = .index n → 0 ≤ n)
    (hnames : ∀ name, Subject.named name ∈ q.subjects → '[' ∉ name)
    (h : selector (.text tag) q = .ok (some s)) :
    IsCompound q.subjects s.toList ↔
      IsTypeSelector tag.toList ∧ ∀ name, .named name ∈ q.subjects → IsIdentifier name := by
  constructor
  · rintro ⟨name, parts, hname, hparts, htext⟩
    obtain ⟨written, hwritten, hs⟩ := exists_parts_of_selector hpattern hpositions hnames h
    rw [hs] at htext
    obtain ⟨rfl, -⟩ := eq_of_parts (E := (·.getLast? ≠ some '\\')) IsPart.getLast?_ne
      IsPart.append_inj hwritten hparts rfl (.inl rfl) htext
    refine ⟨hname, fun attr hmem => ?_⟩
    obtain ⟨part, -, hpart⟩ := exists_of_forall₂_of_mem hparts hmem
    cases hpart with
    | named hattr => exact hattr
  · rintro ⟨htag, hidentifiers⟩
    obtain ⟨parts, hparts, hs⟩ := exists_parts_of_selector hpattern hpositions hidentifiers h
    exact ⟨tag.toList, parts, htag, hparts, hs⟩

/-- However a selector is read with as many parts as there are entries, its parts are about these
entries, unless the element name ends with a backslash, which can make the bracket behind it a part
of an identifier. -/
theorem eq_subjects_of_isCompound (hpattern : q.hasPattern = false)
    (hpositions : ∀ p ∈ q.checks, ∀ n, p.criterion = .index n → 0 ≤ n)
    (hnames : ∀ name, Subject.named name ∈ q.subjects → '[' ∉ name)
    (h : selector (.text tag) q = .ok (some s)) (htag : tag.toList.getLast? ≠ some '\\')
    {subjects : List Subject} (hlength : subjects.length = q.subjects.length)
    (hcompound : IsCompound subjects s.toList) : subjects = q.subjects := by
  obtain ⟨name, parts, -, hparts, htext⟩ := hcompound
  obtain ⟨written, hwritten, hs⟩ := exists_parts_of_selector hpattern hpositions hnames h
  rw [hs] at htext
  exact (eq_of_parts (E := (·.getLast? ≠ some '\\')) IsPart.getLast?_ne IsPart.append_inj
    hwritten hparts hlength.symm (.inr htag) htext).2.symm

end Queries

end ElementQuery.Css
