import ElementQuery.Proofs.Plan.Strategies

/-!
# Ancestries of one level

An ancestry of one level is the query at that level: both are written as the same selector and fail
for the same reason. A level may neither carry a ready-made selector nor, for XPath, have a category
of elements for its tag; a query by itself may. Without regular expressions, both are planned in the
same way.

## Main definitions

* `Query.HasMetaTag` : the queries whose tag is a category of elements.

## Main statements

* `pathIn_singleton` : the selector of one level that has a place.
* `Ancestry.plan_singleton` : the plan for such a level.
* `path_singleton` : one level and the query at it agree, in both languages and in planning.
-/

namespace ElementQuery

variable {language : Language} {scope : Scope} {q : Query}

/-- The queries whose tag is a category of elements that a driver resolves. -/
def Query.HasMetaTag (q : Query) : Prop :=
  ∃ p ∈ q.predicates, p.kind = .tag ∧ p.isPattern = false ∧ p.criterion.text ∈ metaTags

/-- Nothing is wrong with the tag of a query exactly if it is no meta tag. -/
theorem Query.WellFormed.metaTagFault?_eq_none_iff (hq : q.WellFormed) :
    q.metaTagFault? = none ↔ ¬q.HasMetaTag := by
  have htag : ∀ p, q.get? .tag = some p ↔ p ∈ q.predicates ∧ p.kind = .tag :=
    fun _ => hq.get?_eq_some_iff (by decide)
  have hmeta : q.HasMetaTag ↔
      ∃ p, q.get? .tag = some p ∧ p.isPattern = false ∧ p.criterion.text ∈ metaTags := by
    simp only [HasMetaTag, htag, and_assoc]
  rw [hmeta, metaTagFault?, tag?]
  cases hget : q.get? .tag with
  | none => simp
  | some p =>
    cases hcriterion : p.criterion with
    | pattern regex => simp [hcriterion, Predicate.isPattern, Criterion.isPattern]
    | literal text => simp [hcriterion, Predicate.isPattern, Criterion.isPattern]
    | index n => simp [hcriterion, Predicate.isPattern, Criterion.isPattern]

/-- Nothing is wrong with a level in CSS, nor in an XPath unless its tag is a meta tag. -/
theorem Query.levelFault?_eq_none_iff (hq : q.WellFormed) (hover : q.overrideKeys = []) :
    levelFault? language q = none ↔ (language = .xpath → ¬q.HasMetaTag) := by
  have hnone : q.overrideFault? = none := overrideFault?_eq_none_iff.2 hover
  cases language with
  | css => simp [levelFault?, hnone]
  | xpath => simp [levelFault?, hnone, hq.metaTagFault?_eq_none_iff]

/-- The selector of a single level has the lead of its scope in front. -/
theorem writeLevels_singleton (s : String) :
    writeLevels language scope [leadIn language .document ++ s] = leadIn language scope ++ s := by
  cases language with
  | css => simp [writeLevels, leadIn]
  | xpath => simp [writeLevels, leadIn, Scope.lead, String.append_assoc]

/-- The selector of one level that has a place is the one of the query at it. -/
theorem pathIn_singleton (h : levelFault? language q = none) :
    pathIn language scope ⟨[q]⟩ = selectorIn language scope q := by
  have hcheck : checkLevels (levelFault? language) 0 [q] = .ok () :=
    checkLevels_eq_ok_iff.2 (List.forall_mem_singleton.2 h)
  have hany : [q].any (·.hasPattern) = q.hasPattern := by simp
  rw [pathIn_eq (List.cons_ne_nil _ _), selectorIn_eq_writeIn]
  cases hpattern : q.hasPattern with
  | true =>
    rw [levelwise_of_hasPattern hcheck (hany.trans hpattern),
      (hasPattern_iff_writeIn rfl).1 hpattern]
  | false =>
    rw [levelwise_of_literals hcheck (hany.trans hpattern), writeIn_eq rfl rfl hpattern,
      List.mapM_cons, List.mapM_nil, levelText]
    cases checksIn language q with
    | error e => rfl
    | ok s =>
      have htext : writeLevels language scope [leadIn language .document ++ q.tagName ++ s] =
          leadIn language scope ++ q.tagName ++ s := by
        rw [String.append_assoc, writeLevels_singleton, String.append_assoc]
      change Except.ok (some (writeLevels language scope _)) = Except.ok (some _)
      rw [htext]

/-- The selector of a query by itself never fails because of a level. -/
theorem hasPlaces_selectorIn : HasPlaces (selectorIn language scope q) := by
  intro e he
  rw [selectorIn_eq_writeIn] at he
  cases hpattern : q.hasPattern with
  | true =>
    rw [(hasPattern_iff_writeIn rfl).1 hpattern] at he
    cases he
  | false =>
    rw [writeIn_eq rfl rfl hpattern, map_eq_error_iff] at he
    exact hasPlaces_levelText q e (map_eq_error_iff.2 he)

/-- A level without a place is complained about, as a query by itself is not. -/
theorem pathIn_singleton_ne {cause : InvalidLevel} (h : levelFault? language q = some cause) :
    pathIn language scope ⟨[q]⟩ ≠ selectorIn language scope q := by
  have hcheck : checkLevels (levelFault? language) 0 [q] = .error (.invalidLevel 0 cause) := by
    rw [checkLevels, h]
    rfl
  intro heq
  rw [pathIn_eq (List.cons_ne_nil _ _), levelwise_of_error hcheck] at heq
  cases hasPlaces_selectorIn _ heq.symm

/-- A query and the ancestry of it alone have the same selector exactly if nothing is wrong with the
level. -/
theorem pathIn_singleton_iff :
    pathIn language scope ⟨[q]⟩ = selectorIn language scope q ↔ levelFault? language q = none := by
  refine ⟨fun heq => ?_, pathIn_singleton⟩
  cases h : levelFault? language q with
  | none => rfl
  | some cause => exact absurd heq (pathIn_singleton_ne h)

/-- The plan for one level without regular expressions is the one for the query at it. -/
theorem Ancestry.plan_singleton (hover : q.overrideKeys = []) (hpattern : q.hasPattern = false)
    (h : levelFault? language q = none) :
    Ancestry.plan ⟨[q]⟩ language scope = q.plan language scope := by
  have hany : Ancestry.hasPattern ⟨[q]⟩ = false := by simp [hasPattern, hpattern]
  rw [Query.plan_of_literals (Query.override?_eq_none hover) hpattern, Ancestry.plan, hany,
    pathIn_singleton h]
  cases selectorIn language scope q <;> rfl

theorem Source.isAncestry_of_toAncestry {source : Source} {a : Ancestry}
    (h : source.toAncestry = .ok a) : source.isAncestry = true := by
  rw [toAncestry] at h
  rw [isAncestry]
  cases hseen : source.seen with
  | ancestry a => rfl
  | sequence tuple items => rfl
  | nothing | mapping | query =>
    rw [hseen] at h
    cases h
  | value v =>
    rw [hseen] at h
    dsimp only at h
    split at h <;> cases h

/-- Planning what is passed as an ancestry is planning the ancestry, in the language and the scope
that are named. -/
theorem plan_of_toAncestry {source : Source} {a : Ancestry} (ha : source.toAncestry = .ok a)
    (language scope : Value) : plan source language scope =
      Language.ofValue language >>= fun l =>
        Scope.ofValue scope >>= a.plan l := by
  rw [plan, Source.isAncestry_of_toAncestry ha, ha]
  rfl

/-- A query of plain values without a ready-made selector is written as the ancestry of which it is
the only level: always in CSS, and in XPath unless its tag is a category of elements. Without
regular expressions, both are planned in the same way, in whatever form they are passed. -/
theorem path_singleton (hplain : q.OfPlainValues) (hover : q.overrideKeys = []) :
    Css.path ⟨[q]⟩ = Css.selector (.text q.tagName) q ∧
    (∀ scope, XPath.path ⟨[q]⟩ scope = XPath.selector (.text q.tagName) q scope ↔
      ¬q.HasMetaTag) ∧
    (q.hasPattern = false → ∀ source levels : Source, source.toQuery = .ok q →
      levels.toAncestry = .ok ⟨[q]⟩ → ∀ language scope : Value,
      (Language.ofValue language = .ok .xpath → ¬q.HasMetaTag) →
      plan levels language scope = plan source language scope) := by
  have hplace : ∀ language, levelFault? language q = none ↔ (language = .xpath → ¬q.HasMetaTag) :=
    fun _ => Query.levelFault?_eq_none_iff hplain.wellFormed hover
  refine ⟨?_, fun scope => ?_, ?_⟩
  · have hcss : pathIn .css .document ⟨[q]⟩ = selectorIn .css .document q :=
      pathIn_singleton ((hplace .css).2 nofun)
    exact hcss
  · have hxpath : pathIn .xpath scope ⟨[q]⟩ = selectorIn .xpath scope q ↔ ¬q.HasMetaTag := by
      rw [pathIn_singleton_iff, hplace, eq_self, true_imp_iff]
    exact hxpath
  · intro hpattern source levels hsource hlevels language scope hmeta
    rw [plan_of_toAncestry hlevels, plan_eq_bind hsource]
    cases hl : Language.ofValue language with
    | error e => rfl
    | ok l =>
      rw [hl] at hmeta
      have hlevel : levelFault? l q = none := (hplace l).2 fun hxpath => hmeta (hxpath ▸ rfl)
      cases Scope.ofValue scope with
      | error e => rfl
      | ok s => exact Ancestry.plan_singleton hover hpattern hlevel

/-- A link with a position and a text, passed by itself and as the only item of a sequence; and a
tag that has no place in an XPath of levels. -/
theorem path_singleton_link :
    let entries : List (Value × Value) :=
      [(.text ":tag", .text "a"), (.text ":index", .int 2), (.text ":text", .text "it's")]
    let q : Query := ⟨[⟨"tag", .tag, .literal "a"⟩, ⟨"index", .index, .index 2⟩,
      ⟨"text", .text, .literal "it's"⟩]⟩
    let radio : Query := ⟨[⟨"tag", .tag, .literal "radio"⟩]⟩
    Css.path ⟨[q]⟩ = Css.selector (.text "a") q ∧
      XPath.path ⟨[q]⟩ .context = XPath.selector (.text "a") q .context ∧
      plan (.sequence true [.mapping entries]) (.text "xpath") (.text "local") =
        plan (.mapping entries) (.text "xpath") (.text "local") ∧
      XPath.path ⟨[radio]⟩ .document ≠ XPath.selector (.text "radio") radio .document := by
  intro entries q radio
  have hplain : q.OfPlainValues := ⟨entries, by simp [entries, Value.IsPlain], rfl⟩
  have hradio : radio.OfPlainValues :=
    ⟨[(.text "tag", .text "radio")], by simp [Value.IsPlain], rfl⟩
  have hmeta : ¬q.HasMetaTag := by
    simp [Query.HasMetaTag, q, Criterion.text, metaTags]
  have hmeta' : radio.HasMetaTag := ⟨_, .head _, rfl, rfl, by decide⟩
  obtain ⟨hcss, hxpath, hplan⟩ := path_singleton hplain rfl
  refine ⟨hcss, (hxpath .context).2 hmeta, ?_, ?_⟩
  · exact hplan rfl (.mapping entries) _ rfl rfl _ _ fun _ => hmeta
  · exact fun heq => ((path_singleton hradio rfl).2.1 .document).1 heq hmeta'

end ElementQuery
