import ElementQuery.Proofs.Plan.DirectMatching
import ElementQuery.Proofs.Plan.Strategies
import ElementQuery.Proofs.Query.Reductions

/-!
# Plans for the entries of a query in another order

What a planner looks up in a well-formed query is there once, whatever the order of the entries, and
what it asks of all entries does not depend on their order. So a query whose entries are put into
another order is refused for the same reason or planned in the same way, and the plans find the same
elements though they may check them in another order.

## Main definitions

* `Plan.Agrees` : what the plans for two orders have in common.
* `Plan.kept` : the elements that a plan keeps, told from their fields.

## Main statements

* `Query.WellFormed.get?_perm` : lookups do not depend on the order.
* `Query.plan_agrees` : what planning comes to in each case of the planner.
* `Plan.Agrees.kept_eq` : plans that agree keep the same elements.
* `plan_perm` : planning and filtering do not depend on the order.
-/

namespace ElementQuery

variable {α : Type} {language : Language} {scope : Scope} {q q' : Query}

namespace Query

/-- Reordering keeps a query well-formed. -/
theorem WellFormed.perm (hq : q.WellFormed) (h : q.predicates.Perm q'.predicates) :
    q'.WellFormed :=
  ⟨fun p hp => hq.entries p (h.mem_iff.2 hp), (h.map _).nodup_iff.1 hq.names⟩

/-- An entry of a reserved kind is found wherever it stands. -/
theorem WellFormed.get?_perm (hq : q.WellFormed) (h : q.predicates.Perm q'.predicates) {kind : Kind}
    (hkind : kind ≠ .named) : q.get? kind = q'.get? kind := by
  ext p
  rw [hq.get?_eq_some_iff hkind, (hq.perm h).get?_eq_some_iff hkind, h.mem_iff]

theorem WellFormed.override?_perm (hq : q.WellFormed) (h : q.predicates.Perm q'.predicates) :
    q.override? = q'.override? := by
  rw [override?, override?, hq.get?_perm h (by decide), hq.get?_perm h (by decide)]

theorem hasPattern_perm (h : q.predicates.Perm q'.predicates) : q.hasPattern = q'.hasPattern :=
  h.any_eq

theorem hasKind_perm (h : q.predicates.Perm q'.predicates) (kind : Kind) :
    q.hasKind kind = q'.hasKind kind :=
  h.any_eq

theorem allPatterns_perm (h : q.predicates.Perm q'.predicates) :
    q.allPatterns = q'.allPatterns := by
  rw [allPatterns, allPatterns, h.all_eq, h.isEmpty_eq]

theorem structuralPart_perm (h : q.predicates.Perm q'.predicates) :
    q.structuralPart.predicates.Perm q'.structuralPart.predicates :=
  (h.filter _).filter _

theorem IsWritable.perm (hq : q.IsWritable) (h : q.predicates.Perm q'.predicates) :
    q'.IsWritable :=
  fun p hp => hq p (h.mem_iff.2 hp)

/-- The entry for a text has one name only, so a complaint about it is always the same. -/
theorem WellFormed.eq_textInCss (hq : q.WellFormed) (hwritable : q.IsWritable)
    (hpattern : q.hasPattern = false) {e : Fault} (h : selectorIn language scope q = .error e) :
    e = .textInCss "text" := by
  rw [selectorIn_eq_writeIn, writeIn_eq rfl rfl hpattern, map_eq_error_iff] at h
  obtain ⟨-, p, hp, hkind, rfl⟩ := hwritable.exists_text hpattern h
  have hentry := hq.entries p (List.mem_filter.1 hp).1
  have hname : p.name = Kind.text.name :=
    Kind.eq_name_of_ofKey (by decide) (hentry.kind_eq.symm.trans hkind)
  rw [hname]
  rfl

/-- Without regular expressions, both orders have a selector, or neither has because of a text. -/
theorem selectorIn_perm (hq : q.WellFormed) (hwritable : q.IsWritable)
    (hpattern : q.hasPattern = false) (h : q.predicates.Perm q'.predicates) (language : Language)
    (scope : Scope) :
    (∃ text text', selectorIn language scope q = .ok (some text) ∧
        selectorIn language scope q' = .ok (some text')) ∨
      selectorIn language scope q = .error (.textInCss "text") ∧
        selectorIn language scope q' = .error (.textInCss "text") := by
  have hpattern' : q'.hasPattern = false := hasPattern_perm h ▸ hpattern
  have hwritable' : q'.IsWritable := hwritable.perm h
  have hcases := hwritable'.selectorIn_cases hpattern' language scope
  rw [← hasKind_perm h] at hcases
  rcases hwritable.selectorIn_cases hpattern language scope with
    ⟨⟨text, htext⟩, hkind⟩ | ⟨⟨name, hname⟩, hkind⟩
  · rcases hcases with ⟨⟨text', htext'⟩, -⟩ | ⟨-, hkind'⟩
    · exact .inl ⟨text, text', htext, htext'⟩
    · exact absurd hkind' hkind
  · rcases hcases with ⟨-, hkind'⟩ | ⟨⟨name', hname'⟩, -⟩
    · exact absurd hkind hkind'
    · refine .inr ⟨?_, ?_⟩
      · rw [hname, hq.eq_textInCss hwritable hpattern hname]
      · rw [hname', (hq.perm h).eq_textInCss hwritable' hpattern' hname']

end Query

/-- What the plans for two orders have in common. The checks are the same ones, and a ready-made
selector is the same. -/
structure Plan.Agrees (p p' : Plan) : Prop where
  strategy : p.strategy = p'.strategy
  language : p.language = p'.language
  index : p.index = p'.index
  override : p.strategy = .override → p.selector = p'.selector
  patterns : p.patterns.Perm p'.patterns

theorem Plan.Agrees.refl (p : Plan) : p.Agrees p := ⟨rfl, rfl, rfl, fun _ => rfl, .refl _⟩

namespace Query

/-- Both orders are refused for the same reason or have plans that agree. -/
theorem plan_agrees (hq : q.WellFormed) (hwritable : q.IsWritable)
    (h : q.predicates.Perm q'.predicates) (language : Language) (scope : Scope) :
    (∃ e, q.plan language scope = .error e ∧ q'.plan language scope = .error e) ∨
      ∃ p p', q.plan language scope = .ok p ∧ q'.plan language scope = .ok p' ∧ p.Agrees p' := by
  have hsame : q.plan language scope = q'.plan language scope →
      (∃ e, q.plan language scope = .error e ∧ q'.plan language scope = .error e) ∨
        ∃ p p', q.plan language scope = .ok p ∧ q'.plan language scope = .ok p' ∧
          p.Agrees p' := by
    intro heq
    rw [← heq]
    cases hplan : q.plan language scope with
    | error e => exact .inl ⟨e, rfl, rfl⟩
    | ok p => exact .inr ⟨p, p, rfl, rfl, .refl p⟩
  have hover := hq.override?_perm h
  have hindex : q.get? .index = q'.get? .index := hq.get?_perm h (by decide)
  cases hoverride : q.override? with
  | some o =>
    apply hsame
    rw [plan_of_override? hoverride, plan_of_override? (hover ▸ hoverride)]
  | none =>
    have hoverride' : q'.override? = none := hover ▸ hoverride
    cases hposition : (q.get? .index).any (·.isPattern) with
    | true =>
      apply hsame
      rw [plan_of_index_isPattern hoverride hposition,
        plan_of_index_isPattern hoverride' (hindex ▸ hposition)]
    | false =>
      have hposition' : (q'.get? .index).any (·.isPattern) = false := hindex ▸ hposition
      cases hpattern : q.hasPattern with
      | false =>
        have hpattern' : q'.hasPattern = false := hasPattern_perm h ▸ hpattern
        rw [plan_of_literals hoverride hpattern, plan_of_literals hoverride' hpattern']
        rcases selectorIn_perm hq hwritable hpattern h language scope with
          ⟨text, text', htext, htext'⟩ | ⟨hfail, hfail'⟩
        · rw [htext, htext']
          exact .inr ⟨_, _, rfl, rfl, rfl, rfl, rfl, nofun, .refl _⟩
        · rw [hfail, hfail']
          exact .inl ⟨_, rfl, rfl⟩
      | true =>
        have hpattern' : q'.hasPattern = true := hasPattern_perm h ▸ hpattern
        obtain ⟨position, hn⟩ := hwritable.exists_position hposition
        rw [plan_of_patterns hoverride hposition hpattern, hn,
          plan_of_patterns hoverride' hposition' hpattern', ← hindex, hn, ← allPatterns_perm h]
        have hpart : q.structuralPart.WellFormed :=
          hq.of_sublist (List.filter_sublist.trans List.filter_sublist)
        rcases selectorIn_perm hpart hwritable.structuralPart (hasPattern_structuralPart q)
          (structuralPart_perm h) language scope with ⟨text, text', htext, htext'⟩ | ⟨hfail, hfail'⟩
        · rw [htext, htext']
          refine .inr ⟨_, _, rfl, rfl, rfl, rfl, rfl, ?_, h.filter _⟩
          intro hover
          cases hall : q.allPatterns <;> simp [hall] at hover
        · rw [hfail, hfail']
          exact .inl ⟨_, rfl, rfl⟩

end Query

namespace Plan

/-- Checks by regular expressions alone, and a position that is not negative. -/
structure IsCheckable (p : Plan) : Prop where
  patterns : ∀ e ∈ p.patterns, e.isPattern = true
  index : ∀ n, p.index = some n → 0 ≤ n

/-- The elements that pass the checks of a plan, cut down to the one at its position. -/
def kept (search : Regex → String → Bool) (p : Plan) (element : α → Element) (elements : List α) :
    List α :=
  let passing := elements.filter fun c => p.patterns.all ((element c).satisfies search)
  match p.index with
  | none => passing
  | some n => passing[n.toNat]?.toList

variable {p p' : Plan} {search : Regex → String → Bool} {element : α → Element} {elements : List α}

/-- On elements whose fields are texts or missing, filtering does not fail. -/
theorem IsCheckable.filterBy_eq (h : p.IsCheckable)
    (htextual : ∀ c ∈ elements, (element c).IsTextual) :
    p.filterBy search element elements = .ok (p.kept search element elements) := by
  rw [filterBy, kept, filterM_eq_ok fun c hc => Element.passesBy_eq (htextual c hc) h.patterns]
  cases hindex : p.index with
  | none => rfl
  | some n => exact pick_of_nonneg (h.index n hindex)

/-- Plans that agree keep the same elements: an element passes all checks in any order. -/
theorem Agrees.kept_eq (h : p.Agrees p') :
    p.kept search element elements = p'.kept search element elements := by
  have hchecks : ∀ c, p.patterns.all ((element c).satisfies search) =
      p'.patterns.all ((element c).satisfies search) := fun c => h.patterns.all_eq
  simp only [kept, hchecks, h.index]

/-- Plans that agree can be checked alike. -/
theorem Agrees.isCheckable (h : p.Agrees p') (hp : p.IsCheckable) : p'.IsCheckable :=
  ⟨fun e he => hp.patterns e (h.patterns.mem_iff.2 he), fun n hn => hp.index n (h.index.trans hn)⟩

end Plan

/-- A plan of a well-formed query can be checked. -/
theorem Query.isCheckable_of_plan (hq : q.WellFormed) {p : Plan}
    (h : q.plan language scope = .ok p) : p.IsCheckable := by
  rcases plan_cases h with ⟨l, text, rfl⟩ | ⟨text, rfl⟩ |
    ⟨text, position, -, hposition, -, rfl⟩
  · exact ⟨List.forall_mem_nil _, nofun⟩
  · exact ⟨List.forall_mem_nil _, nofun⟩
  · exact ⟨fun e he => (List.mem_filter.1 he).2, (position?_eq hq hposition).2⟩

/-- A query of plain values whose positions are short enough, and the same entries in another order,
passed in any way: both are refused for the same reason, or both have plans with the same strategy,
language and position, with the same ready-made selector if they use one, and with the same checks
in some order. On elements whose fields are texts or missing both plans keep the same ones. -/
theorem plan_perm {source source' : Source} (hsource : source.toQuery = .ok q)
    (hsource' : source'.toQuery = .ok q') (hplain : q.OfPlainValues)
    (hpositions : q.HasPrintablePositions) (hperm : q.predicates.Perm q'.predicates)
    (language scope : Value) :
    (∃ e, plan source language scope = .error e ∧ plan source' language scope = .error e) ∨
      ∃ p p', plan source language scope = .ok p ∧ plan source' language scope = .ok p' ∧
        p.strategy = p'.strategy ∧ p.language = p'.language ∧ p.index = p'.index ∧
        (p.strategy = .override → p.selector = p'.selector) ∧ p.patterns.Perm p'.patterns ∧
        ∀ (search : Regex → String → Bool) (element : α → Element) (elements : List α),
          (∀ c ∈ elements, (element c).IsTextual) →
          ∃ kept, p.filterBy search element elements = .ok kept ∧
            p'.filterBy search element elements = .ok kept := by
  have hwell := hplain.wellFormed
  rw [plan_eq_bind hsource, plan_eq_bind hsource']
  cases Language.ofValue language with
  | error e => exact .inl ⟨e, rfl, rfl⟩
  | ok l =>
    cases Scope.ofValue scope with
    | error e => exact .inl ⟨e, rfl, rfl⟩
    | ok s =>
      refine (Query.plan_agrees hwell (hplain.isWritable hpositions) hperm l s).imp_right ?_
      rintro ⟨p, p', hp, hp', hagrees⟩
      refine ⟨p, p', hp, hp', hagrees.strategy, hagrees.language, hagrees.index, hagrees.override,
        hagrees.patterns, fun search element elements htextual => ?_⟩
      have hcheckable := Query.isCheckable_of_plan hwell hp
      refine ⟨p.kept search element elements, hcheckable.filterBy_eq htextual, ?_⟩
      rw [(hagrees.isCheckable hcheckable).filterBy_eq htextual, hagrees.kept_eq]

/-- Two checks, a tag and a position in both directions: the second of the elements that pass both
checks is found, whichever check is made first. -/
theorem plan_perm_two_checks :
    let pattern (name : String) : Predicate := ⟨name, .named, .pattern ⟨"x", .none, .code 120⟩⟩
    let q : Query := ⟨[⟨"tag", .tag, .literal "a"⟩, pattern "class", ⟨"index", .index, .index 1⟩,
      pattern "href"]⟩
    let turned : Query := ⟨q.predicates.reverse⟩
    let element (n : Nat) : Element := ⟨.text "a", .none,
      [("class", .text "x"), ("href", .text (if n = 0 then "y" else "x"))]⟩
    ∃ p p', plan (.query q) (.text "css") .none = .ok p ∧
      plan (.query turned) (.text "css") .none = .ok p' ∧ p.index = p'.index ∧
      p.patterns.Perm p'.patterns ∧
      ∃ kept, p.filterBy (fun r s => r.source == s) element [0, 1, 2] = .ok kept ∧
        p'.filterBy (fun r s => r.source == s) element [0, 1, 2] = .ok kept := by
  intro pattern q turned element
  have hplain : q.OfPlainValues :=
    ⟨[(.text "tag", .text "a"), (.text "class", .regex ⟨"x", .none, .code 120⟩),
      (.text "index", .int 1), (.text "href", .regex ⟨"x", .none, .code 120⟩)],
      by simp [Value.IsPlain], rfl⟩
  have hpositions : q.HasPrintablePositions := by
    intro p hp n hn
    simp only [q, pattern, List.mem_cons, List.not_mem_nil, or_false] at hp
    rcases hp with rfl | rfl | rfl | rfl <;> cases hn
    exact Number.printable_of_natAbs_le (by decide)
  have hperm : q.predicates.Perm turned.predicates := (List.reverse_perm _).symm
  have hsource : (Source.query q).toQuery = .ok q := rfl
  have hsource' : (Source.query turned).toQuery = .ok turned := rfl
  rcases plan_perm hsource hsource' hplain hpositions hperm (.text "css") .none with
    ⟨e, he, -⟩ | ⟨p, p', hp, hp', -, -, hindex, -, hpatterns, hkept⟩
  · cases he
  · refine ⟨p, p', hp, hp', hindex, hpatterns, hkept _ element [0, 1, 2] fun n _ => ?_⟩
    exact ⟨trivial, trivial, by simp [element, Value.IsTextual]⟩

end ElementQuery
