import ElementQuery.Proofs.Query.Construction
import ElementQuery.Proofs.Selector.Asks
import ElementQuery.Selector.Css
import ElementQuery.Selector.XPath

/-!
# What comes of writing a selector

A query of plain values whose positions are short enough is written as a selector, unless it holds a
regular expression, which is found before anything else, or CSS is to check a text.

## Main definitions

* `Query.HasPrintablePositions` : the queries whose positions are short enough.
* `Query.IsWritable` : what is needed of the entries of a query.
* `checkIn`, `checksIn`, `writeIn` : the builders of both languages under one name each.

## Main statements

* `checksIn_of_find?` : the first regular expression of a query is what is complained about.
* `Query.IsWritable.exists_textInCss_iff` : without one, a query fails exactly with a text in CSS.
* `hasPattern_iff_writeIn` : there is no selector exactly if there is a regular expression.
* `writeIn_eq` : a selector is the checks behind the element name.
-/

namespace ElementQuery

/-- The queries whose positions can be written, counted from 1. -/
def Query.HasPrintablePositions (q : Query) : Prop :=
  ∀ p ∈ q.predicates, ∀ n, p.criterion = .index n → Number.Printable (n + 1)

/-- An entry whose criterion fits its kind and whose position, if it has one, can be written. -/
structure Predicate.IsWritable (p : Predicate) : Prop where
  fits : p.criterion.Fits p.kind
  printable : ∀ n, p.criterion = .index n → Number.Printable (n + 1)

/-- The queries of such entries. -/
def Query.IsWritable (q : Query) : Prop := ∀ p ∈ q.predicates, p.IsWritable

/-- The check for an entry in a language. -/
def checkIn : Language → Predicate → Except Fault String
  | .css => Css.check
  | .xpath => XPath.check

/-- The part of a selector behind the element name in a language. -/
def checksIn : Language → Query → Except Fault String
  | .css => Css.checks
  | .xpath => XPath.checks

variable {language : Language} {q : Query}

/-- A query of plain values can be written if its positions can. -/
theorem Query.OfPlainValues.isWritable (h : q.OfPlainValues)
    (hpositions : q.HasPrintablePositions) : q.IsWritable :=
  fun p hp => ⟨(h.wellFormed.entries p hp).fits, hpositions p hp⟩

/-- The checks of a query are written one by one, if none is a regular expression. -/
theorem checksIn_eq : checksIn language q =
    q.requireLiterals language >>= fun _ =>
      String.join <$> q.checks.mapM (checkIn language) := by
  cases language with
  | css => simp only [checksIn, Css.checks, bind_pure_comp, checkIn]
  | xpath => simp only [checksIn, XPath.checks, bind_pure_comp, checkIn]

theorem Query.exists_find?_isPattern (h : q.hasPattern = true) :
    ∃ p, q.predicates.find? (·.isPattern) = some p := by
  obtain ⟨p, hp, hpattern⟩ := List.any_eq_true.1 h
  exact Option.isSome_iff_exists.1 (List.find?_isSome.2 ⟨p, hp, hpattern⟩)

/-- The first regular expression of a query is what is complained about, also if it is the tag. -/
theorem checksIn_of_find? {p : Predicate} (h : q.predicates.find? (·.isPattern) = some p) :
    checksIn language q =
      .error (.incompatible (.value language p.name p.criterion.text)) := by
  have hhead : q.patterns.head? = some p := by
    rw [Query.patterns, List.head?_filter, h]
  obtain ⟨ps, hps⟩ := List.head?_eq_some_iff.1 hhead
  rw [checksIn_eq, Query.requireLiterals, hps]
  rfl

/-- No level has a regular expression exactly if each one has none. -/
theorem any_hasPattern_iff {levels : List Query} :
    levels.any (·.hasPattern) = false ↔ ∀ q ∈ levels, q.hasPattern = false := by
  simp

theorem Query.isPattern_eq_false (h : q.hasPattern = false) {p : Predicate}
    (hp : p ∈ q.predicates) : p.isPattern = false := by
  simpa using List.any_eq_false.1 h p hp

/-- Without regular expressions the checks are written one by one. -/
theorem checksIn_of_literals (h : q.hasPattern = false) :
    checksIn language q = String.join <$> q.checks.mapM (checkIn language) := by
  rw [checksIn_eq, Query.requireLiterals, Query.patterns_eq_nil_iff.2 h]
  rfl

theorem Query.hasPattern_withoutTag (h : q.hasPattern = false) :
    q.withoutTag.hasPattern = false := by
  rw [hasPattern, List.any_eq_false] at h ⊢
  exact fun p hp => h p (List.mem_filter.1 hp).1

theorem checksIn_withoutTag (h : q.hasPattern = false) :
    checksIn language q.withoutTag = checksIn language q := by
  rw [checksIn_of_literals (Query.hasPattern_withoutTag h), Query.checks_withoutTag,
    checksIn_of_literals h]

/-- An index is a position, unless it is a regular expression. -/
theorem Predicate.IsWritable.exists_index {p : Predicate} (h : p.IsWritable)
    (hpattern : p.isPattern = false) (hkind : p.kind = .index) : ∃ n, p.criterion = .index n := by
  have hfits := h.fits
  cases hcriterion : p.criterion with
  | literal text =>
    rw [hcriterion] at hfits
    exact absurd hkind hfits
  | pattern regex =>
    rw [Predicate.isPattern, hcriterion] at hpattern
    cases hpattern
  | index n => exact ⟨n, rfl⟩

/-- A position that can be written has an ordinal. -/
theorem Predicate.IsWritable.exists_ordinal {p : Predicate} (h : p.IsWritable)
    (hpattern : p.isPattern = false) (hkind : p.kind = .index) :
    ∃ s, p.criterion.ordinal = .ok s := by
  obtain ⟨n, hn⟩ := h.exists_index hpattern hkind
  rw [hn, Criterion.ordinal, Number.writeInt?_eq_some (h.printable n hn)]
  exact ⟨_, rfl⟩

/-- A criterion that is not written as a position is none, or has too many digits. -/
theorem Criterion.eq_of_ordinal_eq_error {c : Criterion} {e : Fault} (h : c.ordinal = .error e) :
    e = .numberTooLong ∨ ∃ cause, e = .misuse cause := by
  cases c with
  | index n => exact .inl (written_eq_error_iff.1 h).2
  | literal | pattern =>
    cases h
    exact .inr ⟨_, rfl⟩

/-- There is no check for a text in CSS. -/
theorem checkIn_css_of_text {p : Predicate} (h : p.kind = .text) :
    checkIn .css p = .error (.textInCss p.name) := by
  rw [checkIn, Css.check, h]
  rfl

/-- The check for an entry without a regular expression can be written, but for a text in CSS. -/
theorem Predicate.IsWritable.exists_checkIn {p : Predicate} (h : p.IsWritable)
    (hpattern : p.isPattern = false) (htext : language = .css → p.kind ≠ .text) :
    ∃ s, checkIn language p = .ok s := by
  cases language with
  | css =>
    rw [checkIn, Css.check]
    cases hkind : p.kind with
    | text => exact absurd hkind (htext rfl)
    | index =>
      obtain ⟨s, hs⟩ := h.exists_ordinal hpattern hkind
      rw [hs]
      exact ⟨_, rfl⟩
    | tag | css | xpath | named => exact ⟨_, rfl⟩
  | xpath =>
    rw [checkIn, XPath.check]
    cases hkind : p.kind with
    | index =>
      obtain ⟨s, hs⟩ := h.exists_ordinal hpattern hkind
      rw [hs]
      exact ⟨_, rfl⟩
    | tag | text | css | xpath | named => exact ⟨_, rfl⟩

/-- A query has a text exactly if one of its checks is for it. -/
theorem Query.hasKind_text_iff : q.hasKind .text = true ↔ ∃ p ∈ q.checks, p.kind = .text := by
  simp only [hasKind, List.any_eq_true, beq_iff_eq, checks, List.mem_filter, bne_iff_ne]
  constructor
  · rintro ⟨p, hp, hkind⟩
    exact ⟨p, ⟨hp, by rw [hkind]; decide⟩, hkind⟩
  · rintro ⟨p, ⟨hp, -⟩, hkind⟩
    exact ⟨p, hp, hkind⟩

/-- Without a regular expression, CSS fails with an entry for a text, and nothing else does. -/
theorem Query.IsWritable.exists_text {e : Fault} (h : q.IsWritable)
    (hpattern : q.hasPattern = false) (hfail : checksIn language q = .error e) :
    language = .css ∧ ∃ p ∈ q.checks, p.kind = .text ∧ e = .textInCss p.name := by
  rw [checksIn_of_literals hpattern, map_eq_error_iff] at hfail
  obtain ⟨p, hp, hfail⟩ := exists_of_mapM_eq_error hfail
  have hmem := (List.mem_filter.1 hp).1
  have hliteral : p.isPattern = false := isPattern_eq_false hpattern hmem
  -- Whatever else an entry is, the check for it can be written.
  by_cases htext : language = .css ∧ p.kind = .text
  · obtain ⟨rfl, hkind⟩ := htext
    rw [checkIn_css_of_text hkind] at hfail
    cases hfail
    exact ⟨rfl, p, hp, hkind, rfl⟩
  · obtain ⟨s, hs⟩ := (h p hmem).exists_checkIn hliteral fun hl hkind => htext ⟨hl, hkind⟩
    rw [hs] at hfail
    cases hfail

/-- Without a regular expression, a failure is the one of a text in CSS. -/
theorem Query.IsWritable.eq_textInCss {e : Fault} (h : q.IsWritable)
    (hpattern : q.hasPattern = false) (hfail : checksIn language q = .error e) :
    language = .css ∧ q.hasKind .text = true ∧ ∃ name, e = .textInCss name := by
  obtain ⟨hcss, p, hp, hkind, rfl⟩ := h.exists_text hpattern hfail
  exact ⟨hcss, hasKind_text_iff.2 ⟨p, hp, hkind⟩, _, rfl⟩

/-- Without a regular expression, a query fails to be written exactly as a CSS selector that checks
a text. -/
theorem Query.IsWritable.exists_textInCss_iff (h : q.IsWritable) (hpattern : q.hasPattern = false) :
    (∃ name, checksIn language q = .error (.textInCss name)) ↔
      language = .css ∧ q.hasKind .text = true := by
  constructor
  · rintro ⟨name, hfail⟩
    obtain ⟨hl, htext, -⟩ := h.eq_textInCss hpattern hfail
    exact ⟨hl, htext⟩
  · rintro ⟨rfl, htext⟩
    obtain ⟨p, hp, hkind⟩ := hasKind_text_iff.1 htext
    have hsome : ∃ e, q.checks.mapM (checkIn .css) = .error e :=
      exists_mapM_eq_error_iff.2 ⟨p, hp, _, checkIn_css_of_text hkind⟩
    obtain ⟨e, he⟩ := hsome
    have hfail : checksIn .css q = .error e := by
      rw [checksIn_of_literals hpattern, map_eq_error_iff, he]
    obtain ⟨-, -, name, rfl⟩ := h.eq_textInCss hpattern hfail
    exact ⟨name, hfail⟩

/-- The selector for an element name in a language. Only an XPath depends on the scope. -/
def writeIn (language : Language) (scope : Scope) (tag : Value) (q : Query) :
    Except Fault (Option String) :=
  match language with
  | .css => Css.selector tag q
  | .xpath => XPath.selector tag q scope

/-- What stands in front of the element name in a language. -/
def leadIn : Language → Scope → String
  | .css, _ => ""
  | .xpath, scope => scope.lead ++ "//"

variable {scope : Scope} {tag : Value} {name : String}

/-- Without regular expressions there is a selector if the element name can be written and there are
checks. -/
theorem writeIn_eq_bind (htag : tag.isPattern = false) (h : q.hasPattern = false) :
    writeIn language scope tag q = elementName tag >>= fun name =>
      (fun s => some (leadIn language scope ++ name ++ s)) <$> checksIn language q := by
  rw [← checksIn_withoutTag h]
  cases language with
  | css =>
    simp only [writeIn, Css.selector, htag, h, leadIn, String.empty_append, bind_pure_comp]
    rfl
  | xpath =>
    simp only [writeIn, XPath.selector, htag, h, bind_pure_comp]
    rfl

/-- Behind an element name that can be written stand the checks. -/
theorem writeIn_eq (htag : tag.isPattern = false) (hname : elementName tag = .ok name)
    (h : q.hasPattern = false) :
    writeIn language scope tag q =
      (fun s => some (leadIn language scope ++ name ++ s)) <$> checksIn language q := by
  rw [writeIn_eq_bind htag h, hname]
  rfl

/-- There is no selector exactly if there is a regular expression. -/
theorem hasPattern_iff_writeIn (htag : tag.isPattern = false) :
    q.hasPattern = true ↔ writeIn language scope tag q = .ok none := by
  constructor
  · intro h
    cases language with
    | css =>
      rw [writeIn, Css.selector, h, Bool.or_true]
      rfl
    | xpath =>
      rw [writeIn, XPath.selector, h, Bool.or_true]
      rfl
  · intro hnone
    by_contra hliteral
    rw [Bool.not_eq_true] at hliteral
    rw [writeIn_eq_bind htag hliteral] at hnone
    obtain ⟨name, -, hnone⟩ := bind_eq_ok_iff.1 hnone
    obtain ⟨s, -, hs⟩ := map_eq_ok_iff.1 hnone
    cases hs

/-- A query without regular expressions that can be written has an XPath for any tag with a name. -/
theorem Query.IsWritable.exists_xpath (h : q.IsWritable) (htag : tag.isPattern = false)
    (hname : elementName tag = .ok name) (hpattern : q.hasPattern = false) :
    ∃ s, XPath.selector tag q scope = .ok (some s) := by
  change ∃ s, writeIn .xpath scope tag q = .ok (some s)
  rw [writeIn_eq htag hname hpattern]
  cases hchecks : checksIn .xpath q with
  | ok s => exact ⟨_, rfl⟩
  | error e => cases (h.eq_textInCss hpattern hchecks).1

end ElementQuery
