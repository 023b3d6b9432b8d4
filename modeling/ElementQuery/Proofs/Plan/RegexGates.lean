import ElementQuery.Proofs.Plan.Cases
import ElementQuery.Proofs.Selector.Outcomes
import Mathlib.Data.List.TFAE
import Mathlib.Tactic.TFAE

/-!
# Who refuses a regular expression

The builders, the checks behind the element name, ancestries and the planner each find out for
themselves whether a query holds a regular expression. On queries of plain values whose positions
are short enough they find the same.

## Main statements

* `Query.plan_xpath_of_hasPattern`, `Query.plan_xpath_of_literals` : what the planner makes of a
  query for XPath.
* `hasPattern_tfae` : all of them agree on whether there is a regular expression, on the first one,
  and on what comes of a query without one.
-/

namespace ElementQuery

variable {q : Query} {scope : Scope}

/-- An ancestry has regular expressions only where one of its levels does. -/
theorem Ancestry.hasPattern_eq {before after : List Query}
    (h : ∀ r ∈ before ++ after, r.hasPattern = false) :
    Ancestry.hasPattern ⟨before ++ q :: after⟩ = q.hasPattern := by
  rw [List.forall_mem_append] at h
  rw [hasPattern, List.any_append, List.any_cons, any_hasPattern_iff.2 h.1,
    any_hasPattern_iff.2 h.2, Bool.or_false, Bool.false_or]

namespace Query

theorem hasPattern_structuralPart (q : Query) : q.structuralPart.hasPattern = false := by
  rw [hasPattern, List.any_eq_false]
  intro p hp
  have hliteral := (List.mem_filter.1 (List.mem_filter.1 hp).1).2
  simpa using hliteral

/-- If a query can be written, so can its structural part. -/
theorem IsWritable.structuralPart (h : q.IsWritable) : q.structuralPart.IsWritable :=
  fun p hp => h p (List.mem_filter.1 (List.mem_filter.1 hp).1).1

/-- A query without regular expressions that can be written has an XPath. -/
theorem IsWritable.exists_selectorIn_xpath (h : q.IsWritable) (hpattern : q.hasPattern = false)
    (scope : Scope) : ∃ s, selectorIn .xpath scope q = .ok (some s) :=
  h.exists_xpath rfl rfl hpattern

/-- The position of the index can be told, unless the index is a regular expression. -/
theorem IsWritable.exists_position (h : q.IsWritable)
    (hindex : (q.get? .index).any (·.isPattern) = false) :
    ∃ position, (q.get? .index).mapM positionOf = .ok position := by
  cases hget : q.get? .index with
  | none => exact ⟨_, rfl⟩
  | some p =>
    obtain ⟨hp, hkind⟩ := mem_of_get? hget
    rw [hget, Option.any_some] at hindex
    obtain ⟨n, hn⟩ := (h p hp).exists_index hindex hkind
    rw [Option.mapM_some, positionOf, hn]
    exact ⟨_, rfl⟩

/-- With a regular expression, a query without a ready-made selector is refused because of it, or
regular expressions are left to be checked. -/
theorem plan_xpath_of_hasPattern (h : q.IsWritable) (hover : q.overrideKeys = [])
    (hpattern : q.hasPattern = true) :
    (∃ cause, q.plan .xpath scope = .error (.incompatible cause)) ∨
      ∃ p, q.plan .xpath scope = .ok p ∧ p.patterns ≠ [] := by
  -- Only as the index a regular expression is refused; elsewhere it is left to be checked.
  cases hindex : (q.get? .index).any (·.isPattern) with
  | true => exact .inl ⟨.index, plan_of_index_isPattern (override?_eq_none hover) hindex⟩
  | false =>
    right
    obtain ⟨position, hposition⟩ := h.exists_position hindex
    obtain ⟨s, hs⟩ := h.structuralPart.exists_selectorIn_xpath (hasPattern_structuralPart q) scope
    refine ⟨⟨if q.allPatterns then .regexScan else .filtered, .xpath, some s, q.patterns,
      position⟩, ?_, ?_⟩
    · rw [plan_of_patterns (override?_eq_none hover) hindex hpattern, hposition, hs]
      rfl
    · intro hnil
      rw [patterns_eq_nil_iff, hpattern] at hnil
      cases hnil

/-- Without a regular expression, nothing is left to be checked. -/
theorem plan_xpath_of_literals (h : q.IsWritable) (hover : q.overrideKeys = [])
    (hpattern : q.hasPattern = false) (scope : Scope) :
    ∃ s, q.plan .xpath scope = .ok ⟨.structural, .xpath, some s, [], none⟩ := by
  obtain ⟨s, hs⟩ := h.exists_selectorIn_xpath hpattern scope
  exact ⟨s, by rw [plan_of_literals (override?_eq_none hover) hpattern, hs]; rfl⟩

/-- The planner refuses a regular expression or leaves it to be checked, and does so with nothing
else. -/
theorem hasPattern_iff_plan_xpath (h : q.IsWritable) (hover : q.overrideKeys = []) :
    q.hasPattern = true ↔ (∃ cause, q.plan .xpath scope = .error (.incompatible cause)) ∨
      ∃ p, q.plan .xpath scope = .ok p ∧ p.patterns ≠ [] := by
  refine ⟨plan_xpath_of_hasPattern h hover, ?_⟩
  intro hplan
  by_contra hliteral
  rw [Bool.not_eq_true] at hliteral
  obtain ⟨s, hs⟩ := plan_xpath_of_literals h hover hliteral scope
  rcases hplan with ⟨cause, hcause⟩ | ⟨p, hp, hpatterns⟩
  · rw [hs] at hcause
    cases hcause
  · rw [hs] at hp
    cases hp
    exact hpatterns rfl

end Query

/-- The checks behind the element name refuse a regular expression, and only that. -/
theorem Query.IsWritable.hasPattern_iff_checksIn (h : q.IsWritable) (language : Language) :
    q.hasPattern = true ↔ ∃ cause, checksIn language q = .error (.incompatible cause) := by
  constructor
  · intro hpattern
    obtain ⟨p, hp⟩ := Query.exists_find?_isPattern hpattern
    exact ⟨_, checksIn_of_find? hp⟩
  · rintro ⟨cause, hfail⟩
    by_contra hliteral
    rw [Bool.not_eq_true] at hliteral
    obtain ⟨-, -, name, hname⟩ := h.eq_textInCss hliteral hfail
    cases hname

/-- On a query of plain values whose positions are short enough, the builders, the checks, the
planner and an ancestry whose other levels have no regular expression agree on whether there is one.
The checks name the first one, also if it is the tag. Without one, and with an element name that can
be written, a CSS selector fails exactly on a text, and there is always an XPath. -/
theorem hasPattern_tfae {tag : Value} {before after : List Query} (hplain : q.OfPlainValues)
    (hpositions : q.HasPrintablePositions) (htag : tag.isPattern = false)
    (hothers : ∀ r ∈ before ++ after, r.hasPattern = false) (scope : Scope) :
    List.TFAE [
      q.hasPattern = true,
      Css.selector tag q = .ok none,
      XPath.selector tag q scope = .ok none,
      ∃ cause, Css.checks q = .error (.incompatible cause),
      ∃ cause, XPath.checks q = .error (.incompatible cause),
      Ancestry.hasPattern ⟨before ++ q :: after⟩ = true] ∧
    (∀ p, q.predicates.find? (·.isPattern) = some p →
      Css.checks q = .error (.incompatible (.value .css p.name p.criterion.text)) ∧
      XPath.checks q = .error (.incompatible (.value .xpath p.name p.criterion.text))) ∧
    (q.overrideKeys = [] → ∀ (source : Source) (language value : Value),
      source.toQuery = .ok q → Language.ofValue language = .ok .xpath →
      Scope.ofValue value = .ok scope →
      (q.hasPattern = true ↔
        (∃ cause, plan source language value = .error (.incompatible cause)) ∨
        ∃ p, plan source language value = .ok p ∧ p.patterns ≠ [])) ∧
    (q.hasPattern = false → ∀ name, elementName tag = .ok name →
      ((∃ name, Css.selector tag q = .error (.textInCss name)) ↔ q.hasKind .text = true) ∧
      ∃ s, XPath.selector tag q scope = .ok (some s)) ∧
    (q.hasPattern = false → ∀ e, elementName tag = .error e →
      Css.selector tag q = .error e ∧ XPath.selector tag q scope = .error e) := by
  have hwritable := hplain.isWritable hpositions
  refine ⟨?_, ?_, ?_, ?_, ?_⟩
  · have hwrite : ∀ language, q.hasPattern = true ↔ writeIn language scope tag q = .ok none :=
      fun _ => hasPattern_iff_writeIn htag
    tfae_have 1 ↔ 2 := hwrite .css
    tfae_have 1 ↔ 3 := hwrite .xpath
    tfae_have 1 ↔ 4 := hwritable.hasPattern_iff_checksIn .css
    tfae_have 1 ↔ 5 := hwritable.hasPattern_iff_checksIn .xpath
    tfae_have 1 ↔ 6 := by rw [Ancestry.hasPattern_eq hothers]
    tfae_finish
  · intro p hp
    have hfirst : ∀ language, checksIn language q =
        .error (.incompatible (.value language p.name p.criterion.text)) :=
      fun _ => checksIn_of_find? hp
    exact ⟨hfirst .css, hfirst .xpath⟩
  · intro hover source language value hsource hlanguage hscope
    rw [plan_eq hsource hlanguage hscope]
    exact Query.hasPattern_iff_plan_xpath hwritable hover
  · intro hliteral name hname
    refine ⟨?_, hwritable.exists_xpath htag hname hliteral⟩
    have hcss : Css.selector tag q = writeIn .css scope tag q := rfl
    simp only [hcss, writeIn_eq htag hname hliteral, map_eq_error_iff]
    rw [hwritable.exists_textInCss_iff hliteral, eq_self, true_and]
  · intro hliteral e he
    have hfail : ∀ language, writeIn language scope tag q = .error e := fun language => by
      rw [writeIn_eq_bind htag hliteral, he]
      rfl
    exact ⟨hfail .css, hfail .xpath⟩

/-- The tag is the only regular expression of a query; it is found, and it is named. -/
theorem hasPattern_tfae_of_tag :
    let q : Query := ⟨[⟨"class", .named, .literal "a"⟩, ⟨"index", .index, .index 2⟩,
      ⟨"tag", .tag, .pattern ⟨"x", .none, .code 120⟩⟩]⟩
    let outer : Query := ⟨[⟨"id", .named, .literal "b"⟩]⟩
    Css.selector .none q = .ok none ∧ Ancestry.hasPattern ⟨[outer, q]⟩ = true ∧
      XPath.checks q = .error (.incompatible (.value .xpath "tag" "x")) ∧
      ∃ p, plan (.query q) (.text "xpath") (.text "local") = .ok p ∧ p.patterns ≠ [] := by
  intro q outer
  have hplain : q.OfPlainValues :=
    ⟨[(.text "class", .text "a"), (.text "index", .int 2),
      (.text "tag", .regex ⟨"x", .none, .code 120⟩)], by simp [Value.IsPlain], rfl⟩
  have hpositions : q.HasPrintablePositions := by
    intro p hp n hn
    simp only [q, List.mem_cons, List.not_mem_nil, or_false] at hp
    rcases hp with rfl | rfl | rfl
    · cases hn
    · cases hn
      exact Number.printable_of_natAbs_le (by decide)
    · cases hn
  have hothers : ∀ r ∈ [outer] ++ [], r.hasPattern = false := by simp [outer]; rfl
  obtain ⟨hgates, hfirst, hplan, -, -⟩ :=
    @hasPattern_tfae q .none [outer] [] hplain hpositions rfl hothers .context
  have hplan := (hplan rfl (.query q) (.text "xpath") (.text "local") rfl rfl rfl).1 rfl
  refine ⟨(hgates.out 0 1).1 rfl, (hgates.out 0 5).1 rfl, (hfirst _ rfl).2, ?_⟩
  rcases hplan with ⟨cause, hcause⟩ | hplan
  · cases hcause
  · exact hplan

end ElementQuery
