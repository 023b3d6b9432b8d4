import ElementQuery.Proofs.Plan.RegexGates
import ElementQuery.Proofs.Selector.Composition

/-!
# Strategies of plans

Which strategy a plan has is decided by the entries of the query: a ready-made selector counts more
than anything else, then an index that is no position, then a text that CSS cannot check, then which
of the other entries are compared by regular expressions. Language and scope only change the
selector. A plan always has one, and its strategy says whether the elements that are found have to
be looked at.

## Main definitions

* `Plan.WellFormed` : what all plans have in common.
* `Query.IsDeciding` : the entry that decides about a ready-made selector.
* `Query.IsOverridden`, `Query.IsRefused`, `Query.HasLiteralText` : what is looked for first.

## Main statements

* `plan_wellFormed` : every plan has a selector and a strategy that fits what is left to check.
* `Query.exists_plan` : the plan for a query that is neither overridden nor refused.
* `plan_strategy_iff` : the conditions of each strategy and of each complaint.
-/

namespace ElementQuery

variable {language : Language} {scope : Scope}

/-- A plan with a selector, and with a strategy that says whether checks are left. -/
structure Plan.WellFormed (p : Plan) : Prop where
  selector : ∃ text, p.selector = some text
  needsFiltering_iff : p.needsFiltering = true ↔ p.patterns ≠ []
  patterns_iff : p.patterns ≠ [] ↔ p.strategy = .filtered ∨ p.strategy = .regexScan

/-- A plan for a selector alone. -/
theorem Plan.WellFormed.of_selector {strategy : Strategy} (text : String)
    (h : strategy = .override ∨ strategy = .structural) :
    Plan.WellFormed ⟨strategy, language, some text, [], none⟩ := by
  refine ⟨⟨text, rfl⟩, by simp [needsFiltering], ?_⟩
  rcases h with rfl | rfl <;> simp

/-- A plan for a selector with checks on what it finds. -/
theorem Plan.WellFormed.of_patterns {all : Bool} {patterns : List Predicate} (text : String)
    (index : Option Int) (h : patterns ≠ []) : Plan.WellFormed
      ⟨if all then .regexScan else .filtered, language, some text, patterns, index⟩ := by
  refine ⟨⟨text, rfl⟩, by simp [needsFiltering, h], ?_⟩
  cases all <;> simp [h]

/-- A plan for a query uses the ready-made selector of an entry, or a selector for the whole query
without regular expressions, or one for what they leave. -/
theorem Query.plan_cases {q : Query} {p : Plan} (h : q.plan language scope = .ok p) :
    (∃ l text, p = ⟨.override, l, some text, [], none⟩) ∨
    (∃ text, p = ⟨.structural, language, some text, [], none⟩) ∨
    ∃ text position, q.hasPattern = true ∧ (q.get? .index).mapM positionOf = .ok position ∧
      selectorIn language scope q.structuralPart = .ok (some text) ∧
      p = ⟨if q.allPatterns then .regexScan else .filtered, language, some text, q.patterns,
        position⟩ := by
  cases hover : q.override? with
  | some o =>
    rw [plan_of_override? hover, planOverride] at h
    split at h
    · cases h
    · cases h
      exact .inl ⟨_, _, rfl⟩
  | none =>
    cases hindex : (q.get? .index).any (·.isPattern) with
    | true =>
      rw [plan_of_index_isPattern hover hindex] at h
      cases h
    | false =>
      cases hpattern : q.hasPattern with
      | false =>
        rw [plan_of_literals hover hpattern] at h
        obtain ⟨selector, hselector, rfl⟩ := map_eq_ok_iff.1 h
        obtain ⟨text, rfl⟩ := selectorIn_eq_some hpattern hselector
        exact .inr (.inl ⟨text, rfl⟩)
      | true =>
        rw [plan_of_patterns hover hindex hpattern] at h
        obtain ⟨position, hposition, h⟩ := bind_eq_ok_iff.1 h
        obtain ⟨selector, hselector, rfl⟩ := map_eq_ok_iff.1 h
        obtain ⟨text, rfl⟩ := selectorIn_eq_some (hasPattern_structuralPart q) hselector
        exact .inr (.inr ⟨text, position, rfl, hposition, hselector, rfl⟩)

/-- Every plan for a query is well-formed. -/
theorem Query.plan_wellFormed {q : Query} {p : Plan} (h : q.plan language scope = .ok p) :
    p.WellFormed := by
  rcases plan_cases h with ⟨l, text, rfl⟩ | ⟨text, rfl⟩ | ⟨text, position, hpattern, -, -, rfl⟩
  · exact .of_selector text (.inl rfl)
  · exact .of_selector text (.inr rfl)
  · refine .of_patterns text position ?_
    rw [Ne, patterns_eq_nil_iff, hpattern]
    exact Bool.noConfusion

/-- Without regular expressions, the levels of an ancestry have a selector if they can be
written. -/
theorem pathIn_eq_some {a : Ancestry} {selector : Option String} (ha : a.hasPattern = false)
    (h : pathIn language scope a = .ok selector) : ∃ text, selector = some text := by
  obtain ⟨levels⟩ := a
  by_cases hne : levels = []
  · subst hne
    cases language with
    | css | xpath =>
      cases h
      exact ⟨_, rfl⟩
  · rw [pathIn_eq hne] at h
    cases hcheck : checkLevels (levelFault? language) 0 levels with
    | error e =>
      rw [levelwise_of_error hcheck] at h
      cases h
    | ok _ =>
      rw [levelwise_of_literals hcheck ha] at h
      obtain ⟨texts, -, rfl⟩ := map_eq_ok_iff.1 h
      exact ⟨_, rfl⟩

/-- The plan of an ancestry is well-formed. -/
theorem Ancestry.plan_wellFormed {a : Ancestry} {p : Plan} (h : a.plan language scope = .ok p) :
    p.WellFormed := by
  rw [Ancestry.plan] at h
  cases hpattern : a.hasPattern with
  | true =>
    rw [hpattern] at h
    cases h
  | false =>
    rw [hpattern] at h
    obtain ⟨selector, hselector, h⟩ := bind_eq_ok_iff.1 h
    obtain ⟨text, rfl⟩ := pathIn_eq_some hpattern hselector
    cases h
    exact .of_selector text (.inr rfl)

/-- Every plan for what is passed, as a query or as an ancestry, is well-formed. -/
theorem plan_wellFormed {source : Source} {language scope : Value} {p : Plan}
    (h : plan source language scope = .ok p) : p.WellFormed := by
  obtain ⟨l, -, h⟩ := bind_eq_ok_iff.1 h
  obtain ⟨s, -, h⟩ := bind_eq_ok_iff.1 h
  split at h
  · obtain ⟨a, -, h⟩ := bind_eq_ok_iff.1 h
    exact Ancestry.plan_wellFormed h
  · obtain ⟨q, -, h⟩ := bind_eq_ok_iff.1 h
    exact Query.plan_wellFormed h

/-- No plan for CSS depends on the scope. -/
theorem plan_css_congr {source : Source} {language scope scope' : Value} {s s' : Scope}
    (hl : Language.ofValue language = .ok .css) (hs : Scope.ofValue scope = .ok s)
    (hs' : Scope.ofValue scope' = .ok s') :
    plan source language scope = plan source language scope' := by
  have hpath : ∀ a : Ancestry, a.plan .css s = a.plan .css s' := fun _ => rfl
  have hquery : ∀ q : Query, q.plan .css s = q.plan .css s' := fun _ => rfl
  rw [plan, plan, hl, hs, hs']
  change (if source.isAncestry then source.toAncestry >>= (·.plan .css s)
      else source.toQuery >>= (·.plan .css s)) =
    if source.isAncestry then source.toAncestry >>= (·.plan .css s')
      else source.toQuery >>= (·.plan .css s')
  simp only [hpath, hquery]

namespace Query

/-- The entry that decides about a ready-made selector: the one for CSS or, without one, the one
for XPath. -/
def IsDeciding (q : Query) (p : Predicate) : Prop :=
  p ∈ q.predicates ∧ (p.kind = .css ∨ p.kind = .xpath ∧ q.hasKind .css = false)

/-- The queries that carry a ready-made selector. -/
def IsOverridden (q : Query) : Prop := ∃ p, q.IsDeciding p ∧ p.isPattern = false

/-- The queries with a regular expression where only a selector or a position will do. -/
def IsRefused (q : Query) : Prop :=
  (∃ p, q.IsDeciding p ∧ p.isPattern = true) ∨
    (∀ p, ¬q.IsDeciding p) ∧ ∃ p ∈ q.predicates, p.kind = .index ∧ p.isPattern = true

/-- The queries that compare the text of an element with a text. -/
def HasLiteralText (q : Query) : Prop := ∃ p ∈ q.predicates, p.kind = .text ∧ p.isPattern = false

/-- The queries for which the entries that are regular expressions decide about the strategy. -/
def IsOrdinary (q : Query) (language : Language) : Prop :=
  ¬q.IsOverridden ∧ ¬q.IsRefused ∧ ¬(language = .css ∧ q.HasLiteralText)

variable {q : Query}

/-- The entry of a reserved kind is the one that is looked up. -/
theorem WellFormed.get?_eq_some_iff (h : q.WellFormed) {kind : Kind} (hkind : kind ≠ .named)
    {p : Predicate} : q.get? kind = some p ↔ p ∈ q.predicates ∧ p.kind = kind := by
  refine ⟨mem_of_get?, ?_⟩
  rintro ⟨hp, rfl⟩
  cases hget : q.get? p.kind with
  | none => exact absurd rfl (get?_eq_none_iff.1 hget p hp)
  | some p' =>
    obtain ⟨hp', hsame⟩ := mem_of_get? hget
    rw [h.eq_of_kind hp hp' hkind hsame.symm]

theorem hasKind_eq_false_iff {kind : Kind} : q.hasKind kind = false ↔ q.get? kind = none := by
  rw [get?_eq_none_iff, hasKind, List.any_eq_false]
  simp

/-- The deciding entry is the one that is planned with. -/
theorem WellFormed.override?_eq_some_iff (h : q.WellFormed) {p : Predicate} :
    q.override? = some p ↔ q.IsDeciding p := by
  have hcss : ∀ p, q.get? .css = some p ↔ p ∈ q.predicates ∧ p.kind = .css :=
    fun _ => h.get?_eq_some_iff (by decide)
  have hxpath : ∀ p, q.get? .xpath = some p ↔ p ∈ q.predicates ∧ p.kind = .xpath :=
    fun _ => h.get?_eq_some_iff (by decide)
  rw [override?, IsDeciding, hasKind_eq_false_iff, Option.or_eq_some_iff, hcss, hxpath]
  tauto

/-- A query has no override exactly if none of its entries decides alone. -/
theorem WellFormed.override?_eq_none_iff (h : q.WellFormed) :
    q.override? = none ↔ ∀ p, ¬q.IsDeciding p := by
  simp only [Option.eq_none_iff_forall_ne_some, ne_eq, h.override?_eq_some_iff]

/-- A regular expression is found for a kind exactly if an entry of that kind is one. -/
theorem WellFormed.any_get?_iff (h : q.WellFormed) {kind : Kind} (hkind : kind ≠ .named) :
    (q.get? kind).any (·.isPattern) = true ↔
      ∃ p ∈ q.predicates, p.kind = kind ∧ p.isPattern = true := by
  simp only [Option.any_eq_true, h.get?_eq_some_iff hkind, and_assoc]

/-- A ready-made selector is no regular expression. -/
theorem WellFormed.not_isRefused (h : q.WellFormed) (hover : q.IsOverridden) : ¬q.IsRefused := by
  obtain ⟨p, hp, hliteral⟩ := hover
  rintro (⟨p', hp', hpattern⟩ | ⟨hnone, -⟩)
  · -- Only one entry decides.
    rw [← h.override?_eq_some_iff] at hp hp'
    rw [hp] at hp'
    cases hp'
    rw [hliteral] at hpattern
    cases hpattern
  · exact hnone p hp

/-- Without a ready-made selector, and without a regular expression in place of one or of a
position, neither is met on the way. -/
theorem WellFormed.of_not_isRefused (h : q.WellFormed) (hover : ¬q.IsOverridden)
    (hrefused : ¬q.IsRefused) :
    q.override? = none ∧ (q.get? .index).any (·.isPattern) = false := by
  rw [IsRefused, not_or] at hrefused
  have hnone : ∀ p, ¬q.IsDeciding p := by
    intro p hp
    cases hpattern : p.isPattern with
    | true => exact hrefused.1 ⟨p, hp, hpattern⟩
    | false => exact hover ⟨p, hp, hpattern⟩
  refine ⟨h.override?_eq_none_iff.2 hnone, ?_⟩
  rw [← Bool.not_eq_true, h.any_get?_iff (by decide)]
  exact fun hindex => hrefused.2 ⟨hnone, hindex⟩

/-- A query with an override is planned by it. -/
theorem IsOverridden.plan (hq : q.WellFormed) (h : q.IsOverridden) (language : Language)
    (scope : Scope) : ∃ p, q.plan language scope = .ok p ∧ p.strategy = .override := by
  obtain ⟨o, ho, hliteral⟩ := h
  rw [plan_of_override? (hq.override?_eq_some_iff.2 ho), planOverride, hliteral]
  exact ⟨_, rfl, rfl⟩

/-- A query that is refused has no plan, for a reason that is told. -/
theorem IsRefused.plan (hq : q.WellFormed) (h : q.IsRefused) (language : Language)
    (scope : Scope) : ∃ cause, q.plan language scope = .error (.incompatible cause) := by
  rcases h with ⟨o, ho, hpattern⟩ | ⟨hnone, hindex⟩
  · rw [plan_of_override? (hq.override?_eq_some_iff.2 ho), planOverride, hpattern]
    exact ⟨_, rfl⟩
  · exact ⟨_, plan_of_index_isPattern (hq.override?_eq_none_iff.2 hnone)
      ((hq.any_get?_iff (by decide)).2 hindex)⟩

/-- A query without regular expressions has a selector, or fails with a text in CSS. -/
theorem IsWritable.selectorIn_cases (h : q.IsWritable) (hpattern : q.hasPattern = false)
    (language : Language) (scope : Scope) :
    (∃ text, selectorIn language scope q = .ok (some text)) ∧
        ¬(language = .css ∧ q.hasKind .text = true) ∨
      (∃ name, selectorIn language scope q = .error (.textInCss name)) ∧
        language = .css ∧ q.hasKind .text = true := by
  rw [selectorIn_eq_writeIn, writeIn_eq rfl rfl hpattern, ← h.exists_textInCss_iff hpattern]
  cases hchecks : checksIn language q with
  | ok s =>
    refine .inl ⟨⟨_, rfl⟩, ?_⟩
    rintro ⟨name, ⟨⟩⟩
  | error e =>
    obtain ⟨-, -, name, rfl⟩ := h.eq_textInCss hpattern hchecks
    exact .inr ⟨⟨name, rfl⟩, name, rfl⟩

/-- What is left to a selector holds the text that the query compares with. -/
theorem hasKind_text_structuralPart : q.structuralPart.hasKind .text = true ↔ q.HasLiteralText := by
  simp only [hasKind, structuralPart, without, literals, List.filter_filter, List.any_filter,
    List.any_eq_true, HasLiteralText, Bool.and_eq_true, beq_iff_eq, Bool.not_eq_true']
  refine exists_congr fun p => and_congr_right fun _ => ?_
  constructor
  · rintro ⟨⟨-, hliteral⟩, hkind⟩
    exact ⟨hkind, hliteral⟩
  · rintro ⟨hkind, hliteral⟩
    exact ⟨⟨by rw [hkind]; rfl, hliteral⟩, hkind⟩

theorem hasKind_text_of_literals (h : q.hasPattern = false) :
    q.hasKind .text = true ↔ q.HasLiteralText := by
  simp only [hasKind, List.any_eq_true, beq_iff_eq, HasLiteralText]
  refine exists_congr fun p => and_congr_right fun hp => ?_
  exact (and_iff_left (isPattern_eq_false h hp)).symm

/-- The strategy that regular expressions ask for. -/
def ownStrategy (q : Query) : Strategy :=
  if q.hasPattern then if q.allPatterns then .regexScan else .filtered else .structural

/-- The plan for a query without a ready-made selector and without a regular expression in place of
one or of a position: it fails with a text in CSS, and with nothing else. -/
theorem exists_plan (h : q.IsWritable) (hover : q.override? = none)
    (hindex : (q.get? .index).any (·.isPattern) = false) (language : Language) (scope : Scope) :
    (∃ p, q.plan language scope = .ok p ∧ p.strategy = q.ownStrategy) ∧
        ¬(language = .css ∧ q.HasLiteralText) ∨
      (∃ name, q.plan language scope = .error (.textInCss name)) ∧
        language = .css ∧ q.HasLiteralText := by
  cases hpattern : q.hasPattern with
  | false =>
    rw [plan_of_literals hover hpattern, ← hasKind_text_of_literals hpattern]
    refine (h.selectorIn_cases hpattern language scope).imp (.imp_left ?_) (.imp_left ?_)
    · rintro ⟨text, htext⟩
      rw [htext, ownStrategy, hpattern]
      exact ⟨_, rfl, rfl⟩
    · rintro ⟨name, hname⟩
      rw [hname]
      exact ⟨name, rfl⟩
  | true =>
    obtain ⟨position, hposition⟩ := h.exists_position hindex
    rw [plan_of_patterns hover hindex hpattern, hposition, ← hasKind_text_structuralPart]
    refine (h.structuralPart.selectorIn_cases (hasPattern_structuralPart q) language scope).imp
      (.imp_left ?_) (.imp_left ?_)
    · rintro ⟨text, htext⟩
      rw [htext, ownStrategy, hpattern]
      exact ⟨_, rfl, rfl⟩
    · rintro ⟨name, hname⟩
      rw [hname]
      exact ⟨name, rfl⟩

/-- The strategy is structural exactly if no entry is a regular expression. -/
theorem ownStrategy_eq_structural_iff :
    q.ownStrategy = .structural ↔ ∀ e ∈ q.predicates, e.isPattern = false := by
  have hnone : q.hasPattern = false ↔ ∀ e ∈ q.predicates, e.isPattern = false := by
    simp [hasPattern]
  rw [← hnone, ownStrategy]
  cases q.hasPattern <;> cases q.allPatterns <;> decide

/-- The strategy is to scan exactly if there are entries and each one is a regular expression. -/
theorem ownStrategy_eq_regexScan_iff : q.ownStrategy = .regexScan ↔
    q.predicates ≠ [] ∧ ∀ e ∈ q.predicates, e.isPattern = true := by
  have hall : q.allPatterns = true ↔
      q.predicates ≠ [] ∧ ∀ e ∈ q.predicates, e.isPattern = true := by
    simp [allPatterns]
  have hsome : q.allPatterns = true → q.hasPattern = true := by
    rw [hall, hasPattern, List.any_eq_true]
    rintro ⟨hne, hpatterns⟩
    obtain ⟨e, he⟩ := List.exists_mem_of_ne_nil _ hne
    exact ⟨e, he, hpatterns e he⟩
  rw [← hall, ownStrategy]
  revert hsome
  cases q.hasPattern <;> cases q.allPatterns <;> decide

/-- The strategy is to filter exactly if some entries are regular expressions and some are not. -/
theorem ownStrategy_eq_filtered_iff : q.ownStrategy = .filtered ↔
    (∃ e ∈ q.predicates, e.isPattern = true) ∧ ∃ e ∈ q.predicates, e.isPattern = false := by
  have hthree : q.ownStrategy = .filtered ↔
      q.ownStrategy ≠ .structural ∧ q.ownStrategy ≠ .regexScan := by
    rw [ownStrategy]
    cases q.hasPattern <;> cases q.allPatterns <;> decide
  rw [hthree, Ne, ownStrategy_eq_structural_iff, Ne, ownStrategy_eq_regexScan_iff]
  constructor
  · rintro ⟨hsome, hliteral⟩
    push Not at hsome hliteral
    obtain ⟨e, he, hpattern⟩ := hsome
    obtain ⟨e', he', hpattern'⟩ := hliteral (List.ne_nil_of_mem he)
    exact ⟨⟨e, he, by simpa using hpattern⟩, e', he', by simpa using hpattern'⟩
  · rintro ⟨⟨e, he, hpattern⟩, e', he', hpattern'⟩
    refine ⟨fun hnone => ?_, fun ⟨_, hall⟩ => ?_⟩
    · rw [hnone e he] at hpattern
      cases hpattern
    · rw [hall e' he'] at hpattern'
      cases hpattern'

theorem ownStrategy_ne_override : q.ownStrategy ≠ .override := by
  rw [ownStrategy]
  cases q.hasPattern <;> cases q.allPatterns <;> decide

/-- What planning a query comes to, and when. -/
theorem OfPlainValues.plan_verdict (h : q.OfPlainValues) (hpositions : q.HasPrintablePositions)
    (language : Language) (scope : Scope) :
    (∃ p, q.plan language scope = .ok p ∧ p.strategy = .override) ∧
        q.IsOverridden ∧ ¬q.IsRefused ∨
      (∃ cause, q.plan language scope = .error (.incompatible cause)) ∧
        ¬q.IsOverridden ∧ q.IsRefused ∨
      (∃ name, q.plan language scope = .error (.textInCss name)) ∧
        ¬q.IsOverridden ∧ ¬q.IsRefused ∧ language = .css ∧ q.HasLiteralText ∨
      (∃ p, q.plan language scope = .ok p ∧ p.strategy = q.ownStrategy) ∧
        q.IsOrdinary language ∧ ¬q.IsOverridden ∧ ¬q.IsRefused := by
  have hwell := h.wellFormed
  by_cases hover : q.IsOverridden
  · exact .inl ⟨hover.plan hwell language scope, hover, hwell.not_isRefused hover⟩
  · by_cases hrefused : q.IsRefused
    · exact .inr (.inl ⟨hrefused.plan hwell language scope, hover, hrefused⟩)
    · obtain ⟨hnone, hindex⟩ := hwell.of_not_isRefused hover hrefused
      rcases exists_plan (h.isWritable hpositions) hnone hindex language scope with
        ⟨hplan, htext⟩ | ⟨hfail, htext⟩
      · exact .inr (.inr (.inr ⟨hplan, ⟨hover, hrefused, htext⟩, hover, hrefused⟩))
      · exact .inr (.inr (.inl ⟨hfail, hover, hrefused, htext⟩))

section Verdict

variable (h : q.OfPlainValues) (hpositions : q.HasPrintablePositions)

include h hpositions

/-- A query is planned by its override exactly if it has one. -/
theorem OfPlainValues.exists_override_iff :
    (∃ p, q.plan language scope = .ok p ∧ p.strategy = .override) ↔ q.IsOverridden := by
  rcases h.plan_verdict hpositions language scope with ⟨hplan, hover, -⟩ | ⟨⟨_, hfail⟩, hover, -⟩ |
    ⟨⟨_, hfail⟩, hover, -⟩ | ⟨⟨p, hp, hstrategy⟩, -, hover, -⟩
  · exact iff_of_true hplan hover
  · simp [hfail, hover]
  · simp [hfail, hover]
  · simp [hp, hstrategy, hover, ownStrategy_ne_override]

/-- A regular expression keeps a query from being planned exactly if the query is refused. -/
theorem OfPlainValues.exists_incompatible_iff :
    (∃ cause, q.plan language scope = .error (.incompatible cause)) ↔ q.IsRefused := by
  rcases h.plan_verdict hpositions language scope with ⟨⟨_, hp, -⟩, -, hrefused⟩ |
    ⟨hfail, -, hrefused⟩ | ⟨⟨_, hfail⟩, -, hrefused, -⟩ | ⟨⟨_, hp, -⟩, -, -, hrefused⟩
  · simp [hp, hrefused]
  · exact iff_of_true hfail hrefused
  · simp [hfail, hrefused]
  · simp [hp, hrefused]

/-- A text keeps a query from being planned exactly in CSS, and if the query is not decided before.
-/
theorem OfPlainValues.exists_textInCss_iff :
    (∃ name, q.plan language scope = .error (.textInCss name)) ↔
      ¬q.IsOverridden ∧ ¬q.IsRefused ∧ language = .css ∧ q.HasLiteralText := by
  rcases h.plan_verdict hpositions language scope with ⟨⟨_, hp, -⟩, hover, -⟩ |
    ⟨⟨_, hfail⟩, -, hrefused⟩ | ⟨hfail, hcase⟩ | ⟨⟨_, hp, -⟩, hordinary, -⟩
  · simp [hp, hover]
  · simp [hfail, hrefused]
  · exact iff_of_true hfail hcase
  · simpa [hp] using fun _ _ hcss htext => hordinary.2.2 ⟨hcss, htext⟩

/-- A query is planned by another strategy exactly if it is ordinary and that is its own. -/
theorem OfPlainValues.exists_strategy_iff {strategy : Strategy} (hown : strategy ≠ .override) :
    (∃ p, q.plan language scope = .ok p ∧ p.strategy = strategy) ↔
      q.IsOrdinary language ∧ q.ownStrategy = strategy := by
  rcases h.plan_verdict hpositions language scope with ⟨⟨p, hp, hstrategy⟩, hover, -⟩ |
    ⟨⟨_, hfail⟩, -, hrefused⟩ | ⟨⟨_, hfail⟩, -, -, htext⟩ | ⟨⟨p, hp, hstrategy⟩, hordinary, -⟩
  · simp [hp, hstrategy, hown.symm, IsOrdinary, hover]
  · simp [hfail, IsOrdinary, hrefused]
  · simpa [hfail] using fun hordinary : q.IsOrdinary language => absurd htext hordinary.2.2
  · simp [hp, hstrategy, hordinary]

end Verdict

/-- Where all entries are regular expressions, every element is found. -/
theorem selector_of_regexScan {p : Plan} (h : q.plan language scope = .ok p)
    (hstrategy : p.strategy = .regexScan) : p.selector = some (leadIn language scope ++ "*") := by
  rcases plan_cases h with ⟨l, text, rfl⟩ | ⟨text, rfl⟩ |
    ⟨text, position, -, -, hselector, rfl⟩
  · cases hstrategy
  · cases hstrategy
  · cases hall : q.allPatterns with
    | false =>
      rw [hall] at hstrategy
      cases hstrategy
    | true =>
      -- No entry is left to the selector.
      have hempty : q.structuralPart = ⟨[]⟩ := by
        rw [allPatterns, Bool.and_eq_true, List.all_eq_true] at hall
        rw [structuralPart, literals, List.filter_eq_nil_iff.2 (by simpa using hall.2)]
        rfl
      rw [hempty] at hselector
      cases language with
      | css =>
        cases hselector
        rfl
      | xpath =>
        cases hselector
        cases scope <;> rfl

end Query

/-- Every plan has a selector, and it leaves checks exactly if its strategy says so. Planning a
query of plain values whose positions are short enough uses a ready-made selector exactly if there
is one; it complains about a regular expression exactly if one stands in place of a ready-made
selector or, without these, of the index, and about a text exactly if CSS has to compare one and
nothing of this comes first. All other queries are planned by their regular expressions: without
any, with nothing else, or with some. In CSS the scope makes no difference. -/
theorem plan_strategy_iff {source : Source} {language scope : Value} :
    (∀ p, plan source language scope = .ok p →
      (∃ text, p.selector = some text) ∧ (p.needsFiltering = true ↔ p.patterns ≠ []) ∧
        (p.patterns ≠ [] ↔ p.strategy = .filtered ∨ p.strategy = .regexScan)) ∧
    ∀ l s, Language.ofValue language = .ok l → Scope.ofValue scope = .ok s →
      (∀ q, source.toQuery = .ok q → q.OfPlainValues → q.HasPrintablePositions →
        ((∃ p, plan source language scope = .ok p ∧ p.strategy = .override) ↔ q.IsOverridden) ∧
        ((∃ cause, plan source language scope = .error (.incompatible cause)) ↔ q.IsRefused) ∧
        ((∃ name, plan source language scope = .error (.textInCss name)) ↔
          ¬q.IsOverridden ∧ ¬q.IsRefused ∧ l = .css ∧ q.HasLiteralText) ∧
        ((∃ p, plan source language scope = .ok p ∧ p.strategy = .structural) ↔
          q.IsOrdinary l ∧ ∀ e ∈ q.predicates, e.isPattern = false) ∧
        ((∃ p, plan source language scope = .ok p ∧ p.strategy = .regexScan) ↔
          q.IsOrdinary l ∧ q.predicates ≠ [] ∧ ∀ e ∈ q.predicates, e.isPattern = true) ∧
        ((∃ p, plan source language scope = .ok p ∧ p.strategy = .filtered) ↔
          q.IsOrdinary l ∧ (∃ e ∈ q.predicates, e.isPattern = true) ∧
            ∃ e ∈ q.predicates, e.isPattern = false) ∧
        ∀ p, plan source language scope = .ok p → p.strategy = .regexScan →
          (l = .css → p.selector = some "*") ∧
            (l = .xpath → p.selector = some (s.lead ++ "//*"))) ∧
      (l = .css → ∀ scope' s', Scope.ofValue scope' = .ok s' →
        plan source language scope' = plan source language scope) := by
  refine ⟨fun p hp => ?_, fun l s hl hs => ⟨fun q hq hplain hpositions => ?_, ?_⟩⟩
  · have hwell := plan_wellFormed hp
    exact ⟨hwell.selector, hwell.needsFiltering_iff, hwell.patterns_iff⟩
  · rw [plan_eq hq hl hs, ← Query.ownStrategy_eq_structural_iff,
      ← Query.ownStrategy_eq_regexScan_iff, ← Query.ownStrategy_eq_filtered_iff]
    refine ⟨hplain.exists_override_iff hpositions, hplain.exists_incompatible_iff hpositions,
      hplain.exists_textInCss_iff hpositions, hplain.exists_strategy_iff hpositions (by decide),
      hplain.exists_strategy_iff hpositions (by decide),
      hplain.exists_strategy_iff hpositions (by decide), fun p hp hscan => ?_⟩
    have hselector := Query.selector_of_regexScan hp hscan
    refine ⟨?_, ?_⟩
    · rintro rfl
      exact hselector
    · rintro rfl
      rw [hselector, leadIn, String.append_assoc]
      rfl
  · rintro rfl scope' s' hs'
    exact plan_css_congr hl hs' hs

/-- A text and a position next to a tag that is a regular expression: CSS refuses the text, in every
scope, and an XPath leaves the tag to be checked. -/
theorem plan_strategy_iff_of_text :
    let q : Query := ⟨[⟨"tag", .tag, .pattern ⟨"x", .none, .code 120⟩⟩,
      ⟨"text", .text, .literal "a"⟩, ⟨"index", .index, .index 1⟩]⟩
    (∃ name, plan (.query q) (.text "css") (.text "global") = .error (.textInCss name)) ∧
      plan (.query q) (.text "css") (.text "local") =
        plan (.query q) (.text "css") (.text "global") ∧
      ∃ p, plan (.query q) (.text "xpath") (.text "local") = .ok p ∧ p.strategy = .filtered ∧
        ∃ text, p.selector = some text := by
  intro q
  have hplain : q.OfPlainValues :=
    ⟨[(.text "tag", .regex ⟨"x", .none, .code 120⟩), (.text "text", .text "a"),
      (.text "index", .int 1)], by simp [Value.IsPlain], rfl⟩
  have hpositions : q.HasPrintablePositions := by
    intro p hp n hn
    simp only [q, List.mem_cons, List.not_mem_nil, or_false] at hp
    rcases hp with rfl | rfl | rfl
    · cases hn
    · cases hn
    · cases hn
      exact Number.printable_of_natAbs_le (by decide)
  have hdeciding : ∀ e, ¬q.IsDeciding e := by
    simp [Query.IsDeciding, q]
  have hover : ¬q.IsOverridden := by
    rintro ⟨e, he, -⟩
    exact hdeciding e he
  have hrefused : ¬q.IsRefused := by
    rintro (⟨e, he, -⟩ | ⟨-, hindex⟩)
    · exact hdeciding e he
    · simp [q, Predicate.isPattern, Criterion.isPattern] at hindex
  have htext : q.HasLiteralText := ⟨_, .tail _ (.head _), rfl, rfl⟩
  obtain ⟨-, hcss⟩ := @plan_strategy_iff (.query q) (.text "css") (.text "global")
  obtain ⟨hverdict, hscope⟩ := hcss .css .document rfl rfl
  obtain ⟨-, -, hfail, -⟩ := hverdict q rfl hplain hpositions
  obtain ⟨hshape, hxpath⟩ := @plan_strategy_iff (.query q) (.text "xpath") (.text "local")
  obtain ⟨-, -, -, -, -, hfiltered, -⟩ := (hxpath .xpath .context rfl rfl).1 q rfl hplain hpositions
  obtain ⟨p, hp, hstrategy⟩ := hfiltered.2
    ⟨⟨hover, hrefused, fun h => Language.noConfusion h.1⟩, ⟨_, .head _, rfl⟩,
      ⟨_, .tail _ (.head _), rfl⟩⟩
  exact ⟨hfail.2 ⟨hover, hrefused, rfl, htext⟩, hscope rfl _ .context rfl, p, hp, hstrategy,
    (hshape p hp).1⟩

end ElementQuery
