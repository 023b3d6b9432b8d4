import ElementQuery.Plan.Basic
import ElementQuery.Proofs.Outcome

/-!
# What a plan is made of

The success of planning, taken apart: which steps have succeeded and what the plan holds then.

## Main statements

* `selectorIn_eq_some` : without regular expressions a builder gives a selector if it succeeds.
* `Query.plan_of_override?`, `Query.plan_of_index_isPattern`, `Query.plan_of_literals`,
  `Query.plan_of_patterns` : what planning a query comes to in each case.
* `Query.plan_of_hasPattern` : the plan for a query with a regular expression.
* `plan_of_toQuery` : planning what is passed as one query.
-/

namespace ElementQuery

/-- Without regular expressions, a builder that succeeds gives a selector. -/
theorem selectorIn_eq_some {language : Language} {scope : Scope} {q : Query}
    {selector : Option String} (hq : q.hasPattern = false)
    (h : selectorIn language scope q = .ok selector) : ∃ text, selector = some text := by
  have htag : Value.isPattern (.text q.tagName) = false := rfl
  cases language with
  | css =>
    rw [selectorIn, Css.selector, htag, hq] at h
    obtain ⟨name, -, h⟩ := bind_eq_ok_iff.1 h
    obtain ⟨behind, -, h⟩ := bind_eq_ok_iff.1 h
    cases h
    exact ⟨_, rfl⟩
  | xpath =>
    rw [selectorIn, XPath.selector, htag, hq] at h
    obtain ⟨name, -, h⟩ := bind_eq_ok_iff.1 h
    obtain ⟨behind, -, h⟩ := bind_eq_ok_iff.1 h
    cases h
    exact ⟨_, rfl⟩

namespace Query

variable {q : Query}

theorem mem_of_get? {kind : Kind} {p : Predicate} (h : q.get? kind = some p) :
    p ∈ q.predicates ∧ p.kind = kind := by
  refine ⟨List.mem_of_find?_eq_some h, ?_⟩
  have hkind := List.find?_some h
  exact beq_iff_eq.1 hkind

theorem get?_eq_none_iff {kind : Kind} :
    q.get? kind = none ↔ ∀ p ∈ q.predicates, p.kind ≠ kind := by
  simp [get?, List.find?_eq_none]

theorem override?_eq_none (h : q.overrideKeys = []) : q.override? = none := by
  have hkind : ∀ p ∈ q.predicates, p.kind.isOverride = false := by
    simpa [overrideKeys, List.filter_eq_nil_iff] using h
  -- Both lookups are for kinds of which there is no entry.
  have hnone : ∀ kind, kind.isOverride = true → q.get? kind = none := by
    intro kind hover
    rw [get?_eq_none_iff]
    rintro p hp rfl
    rw [hkind p hp] at hover
    cases hover
  rw [override?, hnone .css rfl, hnone .xpath rfl]
  rfl

/-- A ready-made selector is planned with before anything else is looked at. -/
theorem plan_of_override? {language : Language} {scope : Scope} {o : Predicate}
    (h : q.override? = some o) : q.plan language scope = planOverride o := by
  simp only [plan, h]

/-- A regular expression as an index has no plan. -/
theorem plan_of_index_isPattern {language : Language} {scope : Scope} (hover : q.override? = none)
    (hindex : (q.get? .index).any (·.isPattern) = true) :
    q.plan language scope = .error (.incompatible .index) := by
  simp only [plan, hover, hindex]
  rfl

/-- Without regular expressions, a selector for the whole query is all there is to a plan. -/
theorem plan_of_literals {language : Language} {scope : Scope} (hover : q.override? = none)
    (hpattern : q.hasPattern = false) : q.plan language scope =
      (fun selector => ⟨.structural, language, selector, [], none⟩) <$>
        selectorIn language scope q := by
  have hindex : (q.get? .index).any (·.isPattern) = false := by
    cases hget : q.get? .index with
    | none => rfl
    | some p => simpa using List.any_eq_false.1 hpattern p (mem_of_get? hget).1
  simp only [plan, hover, hindex, hpattern]
  cases selectorIn language scope q <;> rfl

/-- With regular expressions, a selector is built for what is left to it. -/
theorem plan_of_patterns {language : Language} {scope : Scope} (hover : q.override? = none)
    (hindex : (q.get? .index).any (·.isPattern) = false) (hpattern : q.hasPattern = true) :
    q.plan language scope = (q.get? .index).mapM positionOf >>= fun position =>
      (fun selector => ⟨if q.allPatterns then .regexScan else .filtered, language, selector,
        q.patterns, position⟩) <$> selectorIn language scope q.structuralPart := by
  simp only [plan, hover, hindex, hpattern]
  cases (q.get? .index).mapM positionOf with
  | error e => rfl
  | ok position => cases selectorIn language scope q.structuralPart <;> rfl

/-- The plan for a query with a regular expression and without a ready-made selector: the index is
no regular expression, and the builder has succeeded on what is left to it. -/
theorem plan_of_hasPattern {language : Language} {scope : Scope} {p : Plan}
    (hover : q.overrideKeys = []) (hpattern : q.hasPattern = true)
    (h : q.plan language scope = .ok p) :
    ∃ selector position,
      (∀ e, q.get? .index = some e → e.isPattern = false) ∧
      (q.get? .index).mapM positionOf = .ok position ∧
      selectorIn language scope q.structuralPart = .ok selector ∧
      p = ⟨if q.allPatterns then .regexScan else .filtered, language, selector, q.patterns,
        position⟩ := by
  cases hindex : (q.get? .index).any (·.isPattern) with
  | true =>
    rw [plan_of_index_isPattern (override?_eq_none hover) hindex] at h
    cases h
  | false =>
    rw [plan_of_patterns (override?_eq_none hover) hindex hpattern] at h
    obtain ⟨position, hposition, h⟩ := bind_eq_ok_iff.1 h
    obtain ⟨selector, hselector, rfl⟩ := map_eq_ok_iff.1 h
    refine ⟨selector, position, ?_, hposition, hselector, rfl⟩
    intro e he
    rw [he] at hindex
    simpa using hindex

end Query

theorem Source.isAncestry_eq_false {source : Source} {q : Query} (h : source.toQuery = .ok q) :
    source.isAncestry = false := by
  rw [Source.toQuery] at h
  rw [Source.isAncestry]
  cases hseen : source.seen with
  | ancestry a =>
    rw [hseen] at h
    cases h
  | sequence tuple items =>
    rw [hseen] at h
    cases h
  | nothing | mapping | query | value => rfl

/-- What is passed as one query is planned in the language and the scope that are named. -/
theorem plan_eq_bind {source : Source} {q : Query} (hq : source.toQuery = .ok q)
    (language scope : Value) : plan source language scope =
      Language.ofValue language >>= fun l => Scope.ofValue scope >>= q.plan l := by
  rw [plan, Source.isAncestry_eq_false hq, hq]
  rfl

/-- Planning what is passed as one query is planning the query. -/
theorem plan_eq {source : Source} {q : Query} {language scope : Value} {l : Language} {s : Scope}
    (hq : source.toQuery = .ok q) (hl : Language.ofValue language = .ok l)
    (hs : Scope.ofValue scope = .ok s) : plan source language scope = q.plan l s := by
  rw [plan_eq_bind hq, hl, hs]
  rfl

/-- Planning what is passed as one query is planning the query, in the language and the scope that
are named. -/
theorem plan_of_toQuery {source : Source} {q : Query} {language scope : Value} {p : Plan}
    (hq : source.toQuery = .ok q) (h : plan source language scope = .ok p) :
    ∃ l s, Language.ofValue language = .ok l ∧ Scope.ofValue scope = .ok s ∧
      q.plan l s = .ok p := by
  obtain ⟨l, hl, h⟩ := bind_eq_ok_iff.1 h
  obtain ⟨s, hs, h⟩ := bind_eq_ok_iff.1 h
  rw [Source.isAncestry_eq_false hq, hq] at h
  exact ⟨l, s, hl, hs, h⟩

end ElementQuery
