import ElementQuery.Plan.Filter
import ElementQuery.Proofs.Plan.Cases
import ElementQuery.Proofs.Query.Construction

/-!
# Plans and direct matching

A plan asks a selector for some entries of a query and checks the others on what the selector
finds. Looking at every element directly, with all entries at once, gives the same elements: each
entry is asked for exactly once, and the index counts among what passes all of them.

## Main definitions

* `Element.satisfies` : whether an element satisfies an entry.
* `Query.selected` : the entries that a selector is asked for.
* `Query.directMatches` : the elements that a query means, looked at directly.

## Main statements

* `Element.passesBy_eq` : the checks on an element with text fields.
* `Query.all_ownChecks_eq` : each entry is asked for by the selector or checked afterwards.
* `plan_filterBy_eq_directMatches` : a plan finds what direct matching finds.
-/

namespace ElementQuery

variable {α : Type}

/-- Whether an element satisfies an entry: its field is there and equals the text, or holds a
match of the regular expression. -/
def Element.satisfies (search : Regex → String → Bool) (e : Element) (p : Predicate) : Bool :=
  match e.fieldFor p, p.criterion with
  | .text s, .literal t => s == t
  | .text s, .pattern r => search r s
  | _, _ => false

/-- The values of fields that are texts or missing. -/
def Value.IsTextual : Value → Prop
  | .text _ | .none => True
  | _ => False

/-- The elements whose fields are texts or missing. -/
structure Element.IsTextual (e : Element) : Prop where
  tag : e.tag.IsTextual
  text : e.text.IsTextual
  attributes : ∀ entry ∈ e.attributes, entry.2.IsTextual

namespace Query

/-- The entries that a selector is asked for when checks are left: the texts, but no index. -/
def selected (q : Query) : Query :=
  ⟨q.predicates.filter fun p => !p.isPattern && p.kind != .index⟩

/-- The entries that ask for something of an element by itself. -/
def ownChecks (q : Query) : List Predicate := q.predicates.filter (·.kind != .index)

/-- The position that a query asks for. -/
def position? (q : Query) : Option Nat :=
  match (q.get? .index).map Predicate.criterion with
  | some (.index position) => some position.toNat
  | _ => none

/-- The elements that satisfy every entry but the index, cut down to the one at the position that
the query asks for. -/
def directMatches (search : Regex → String → Bool) (q : Query) (element : α → Element)
    (elements : List α) : List α :=
  let matching := elements.filter fun c => q.ownChecks.all ((element c).satisfies search)
  match q.position? with
  | none => matching
  | some position => matching[position]?.toList

end Query

/-- What a textual element has for an entry is a text or nothing. -/
theorem Element.IsTextual.fieldFor {e : Element} (h : e.IsTextual) (p : Predicate) :
    (e.fieldFor p).IsTextual := by
  have hattribute : (e.attributeValue p.name).IsTextual := by
    rw [attributeValue]
    cases hlookup : e.attributes.lookup p.name with
    | none => trivial
    | some v =>
      obtain ⟨before, after, hsplit, _⟩ := List.lookup_eq_some_iff.1 hlookup
      refine h.attributes (p.name, v) ?_
      rw [hsplit]
      exact List.mem_append_right before List.mem_cons_self
  rw [Element.fieldFor]
  split
  · exact h.tag
  · exact h.text
  · exact hattribute

/-- A textual element passes the check of a pattern exactly if it satisfies the pattern. -/
theorem Element.passesOne_eq {search : Regex → String → Bool} {e : Element} {p : Predicate}
    (he : e.IsTextual) (hp : p.isPattern = true) :
    e.passesOne search p = .ok (e.satisfies search p) := by
  have hfield := he.fieldFor p
  rw [passesOne, satisfies]
  cases hcriterion : p.criterion with
  | pattern r =>
    cases hvalue : e.fieldFor p with
    | none | text => rfl
    | _ =>
      rw [hvalue] at hfield
      exact hfield.elim
  | _ =>
    rw [Predicate.isPattern, hcriterion] at hp
    cases hp

/-- Checks by regular expressions on texts and missing fields do not fail, and they pass if the
element satisfies all of them. -/
theorem Element.passesBy_eq {search : Regex → String → Bool} {e : Element} {checks : List Predicate}
    (he : e.IsTextual) (hchecks : ∀ p ∈ checks, p.isPattern = true) :
    e.passesBy search checks = .ok (checks.all (e.satisfies search)) := by
  induction checks with
  | nil => rfl
  | cons p rest ih =>
    have hrest := ih fun r hr => hchecks r (List.mem_cons_of_mem p hr)
    rw [passesBy, passesOne_eq he (hchecks p List.mem_cons_self), List.all_cons]
    cases hp : e.satisfies search p with
    | true => exact hrest
    | false => rfl

namespace Query

variable {q : Query}

/-- The part of a query that the selector is made of is what is selected for it. -/
theorem structuralPart_eq_selected : q.structuralPart = q.selected := by
  simp only [structuralPart, selected, without, literals, List.filter_filter]
  congr 1
  refine List.filter_congr ?_
  intro p _
  cases p.kind <;> simp

theorem hasPattern_selected : q.selected.hasPattern = false := by
  simp +contextual [hasPattern, selected]

/-- Without a regular expression as the index, the entries but the index are those that the
selector is asked for and those that are checked afterwards. -/
theorem mem_ownChecks_iff (hq : q.WellFormed)
    (hindex : ∀ e, q.get? .index = some e → e.isPattern = false) {p : Predicate} :
    p ∈ q.ownChecks ↔ p ∈ q.selected.predicates ∨ p ∈ q.patterns := by
  simp only [ownChecks, selected, patterns, List.mem_filter, Bool.and_eq_true, Bool.not_eq_true',
    bne_iff_ne]
  constructor
  · rintro ⟨hp, hkind⟩
    cases hpattern : p.isPattern with
    | true => exact .inr ⟨hp, rfl⟩
    | false => exact .inl ⟨hp, rfl, hkind⟩
  · rintro (⟨hp, _, hkind⟩ | ⟨hp, hpattern⟩)
    · exact ⟨hp, hkind⟩
    · refine ⟨hp, ?_⟩
      intro hkind
      -- The only index entry is the one that is looked up, and it is no regular expression.
      cases hget : q.get? .index with
      | none => exact get?_eq_none_iff.1 hget p hp hkind
      | some e =>
        obtain ⟨he, hekind⟩ := mem_of_get? hget
        have hsame : p = e := hq.eq_of_kind hp he (by simp [hkind]) (hkind.trans hekind.symm)
        rw [hsame, hindex e hget] at hpattern
        cases hpattern

/-- An element passes the checks of a query exactly if it passes those selected and the patterns. -/
theorem all_ownChecks_eq (hq : q.WellFormed)
    (hindex : ∀ e, q.get? .index = some e → e.isPattern = false) (holds : Predicate → Bool) :
    q.ownChecks.all holds = (q.selected.predicates.all holds && q.patterns.all holds) := by
  rw [Bool.eq_iff_iff, Bool.and_eq_true]
  simp only [List.all_eq_true, mem_ownChecks_iff hq hindex]
  constructor
  · intro h
    exact ⟨fun p hp => h p (.inl hp), fun p hp => h p (.inr hp)⟩
  · rintro ⟨hselected, hpatterns⟩ p (hp | hp)
    · exact hselected p hp
    · exact hpatterns p hp

/-- The position of a plan is the one that the query asks for, and it is not negative. -/
theorem position?_eq (hq : q.WellFormed) {position : Option Int}
    (h : (q.get? .index).mapM positionOf = .ok position) :
    q.position? = position.map Int.toNat ∧ ∀ n, position = some n → 0 ≤ n := by
  rw [position?]
  cases hget : q.get? .index with
  | none =>
    rw [hget] at h
    cases h
    exact ⟨rfl, fun n hn => by cases hn⟩
  | some e =>
    rw [hget] at h
    obtain ⟨he, _⟩ := mem_of_get? hget
    obtain ⟨n, hn, h⟩ := bind_eq_ok_iff.1 h
    cases h
    have hfits := (hq.entries e he).fits
    rw [positionOf] at hn
    cases hcriterion : e.criterion with
    | index m =>
      rw [hcriterion] at hn hfits
      cases hn
      refine ⟨by simp [hcriterion], ?_⟩
      intro k hk
      cases hk
      exact hfits.2
    | literal t =>
      rw [hcriterion] at hn
      cases hn
    | pattern r =>
      rw [hcriterion] at hn
      cases hn

end Query

/-- A position that is not negative picks the item there, if there is one. -/
theorem pick_of_nonneg {items : List α} {position : Int} (h : 0 ≤ position) :
    pick items position = .ok items[position.toNat]?.toList := by
  rw [pick]
  split
  · next hpast =>
    have hnone : items[position.toNat]? = none := by
      rw [List.getElem?_eq_none_iff]
      omega
    rw [hnone]
    rfl
  · simp only [if_neg (Int.not_lt.2 h)]
    rfl

/-- A plan for a query of plain values with a regular expression and without a ready-made selector
has the selector of the texts in it, the index left out. On what satisfies these texts, its checks
do not fail and leave what direct matching with the whole query finds. -/
theorem plan_filterBy_eq_directMatches {source : Source} {language scope : Value} {q : Query}
    {p : Plan} (hq : source.toQuery = .ok q) (hplain : q.OfPlainValues)
    (hpattern : q.hasPattern = true) (hover : q.overrideKeys = [])
    (hp : plan source language scope = .ok p) :
    (∃ s text, Language.ofValue language = .ok p.language ∧ Scope.ofValue scope = .ok s ∧
      p.selector = some text ∧ selectorIn p.language s q.selected = .ok (some text)) ∧
    ∀ (search : Regex → String → Bool) (element : α → Element) (elements : List α),
      (∀ c ∈ elements, (element c).IsTextual) →
      p.filterBy search element
          (elements.filter fun c => q.selected.predicates.all ((element c).satisfies search)) =
        .ok (q.directMatches search element elements) := by
  obtain ⟨l, s, hl, hs, hplan⟩ := plan_of_toQuery hq hp
  obtain ⟨selector, position, hindex, hposition, hselector, rfl⟩ :=
    Query.plan_of_hasPattern hover hpattern hplan
  have hwell := hplain.wellFormed
  rw [Query.structuralPart_eq_selected] at hselector
  obtain ⟨text, rfl⟩ := selectorIn_eq_some Query.hasPattern_selected hselector
  refine ⟨⟨s, text, hl, hs, rfl, hselector⟩, ?_⟩
  intro search element elements htextual
  -- Checking what the selector finds is checking every entry but the index at once.
  have hpasses : ∀ c ∈ elements.filter fun c =>
        q.selected.predicates.all ((element c).satisfies search),
      (element c).passesBy search q.patterns =
        .ok (q.patterns.all ((element c).satisfies search)) := by
    intro c hc
    refine Element.passesBy_eq (htextual c (List.mem_of_mem_filter hc)) ?_
    intro e he
    exact (List.mem_filter.1 he).2
  have hfilter := filterM_eq_ok hpasses
  have hboth : ∀ c ∈ elements,
      (q.patterns.all ((element c).satisfies search) &&
        q.selected.predicates.all ((element c).satisfies search)) =
      q.ownChecks.all ((element c).satisfies search) := by
    intro c _
    rw [Query.all_ownChecks_eq hwell hindex, Bool.and_comm]
  rw [List.filter_filter, List.filter_congr hboth] at hfilter
  obtain ⟨hasked, hnonneg⟩ := Query.position?_eq hwell hposition
  rw [Plan.filterBy, hfilter, Query.directMatches, hasked]
  cases position with
  | none => rfl
  | some n => exact pick_of_nonneg (hnonneg n rfl)

/-- The second of the links with the address `x` is the third link: the first one does not pass the
check, so the index counts without it. -/
theorem plan_filterBy_second_match :
    ∃ p, plan (.mapping [(.text "tag", .text "a"), (.text "index", .int 1),
        (.text "href", .regex ⟨"x", .none, .code 120⟩)]) (.text "css") .none = .ok p ∧
      p.filterBy (fun r s => r.source == s)
        (fun n => ⟨.text "a", .none, [("href", .text (if n = 0 then "y" else "x"))]⟩) [0, 1, 2] =
          .ok [2] := by
  have hplain : Query.OfPlainValues ⟨[⟨"tag", .tag, .literal "a"⟩, ⟨"index", .index, .index 1⟩,
      ⟨"href", .named, .pattern ⟨"x", .none, .code 120⟩⟩]⟩ := by
    refine ⟨[(.text "tag", .text "a"), (.text "index", .int 1),
      (.text "href", .regex ⟨"x", .none, .code 120⟩)], ?_, rfl⟩
    simp only [List.forall_mem_cons]
    exact ⟨trivial, trivial, trivial, List.forall_mem_nil _⟩
  have hplan : plan (.mapping [(.text "tag", .text "a"), (.text "index", .int 1),
      (.text "href", .regex ⟨"x", .none, .code 120⟩)]) (.text "css") .none =
      .ok ⟨.filtered, .css, some "a", [⟨"href", .named, .pattern ⟨"x", .none, .code 120⟩⟩],
        some 1⟩ := rfl
  refine ⟨_, hplan, ?_⟩
  refine (plan_filterBy_eq_directMatches rfl hplain rfl rfl hplan).2 _ _ [0, 1, 2] ?_
  intro n _
  refine ⟨trivial, trivial, ?_⟩
  simp [Value.IsTextual]

end ElementQuery
