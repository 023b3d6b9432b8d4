import ElementQuery.Proofs.Query.Construction

/-!
# Queries cut down

Entries are taken out of a query by kind, or because they are compared by regular expressions. No
step adds, changes or moves an entry, so whatever holds of all entries of a query, or tells them
apart, goes on to hold. An entry is left exactly if every step leaves it, so neither the order nor
the number of the steps matters.

## Main definitions

* `Reduction` : a step that takes entries out of a query.
* `Query.reduce` : the query that steps leave, one after the other.

## Main statements

* `Query.reduce_eq` : an entry is left exactly if every step leaves it.
* `Query.WellFormed.reduce` : a well-formed query is cut down to a well-formed one.
* `Query.WellFormed.filter_kind_eq` : the entries of a reserved kind are what is looked up.
* `reduce_ofPlainValues` : what steps leave of a query of plain values.
-/

namespace ElementQuery

/-- A step that takes entries out of a query. -/
inductive Reduction where
  | without (kinds : List Kind)
  | withoutTag
  /-- Takes out what is compared by regular expressions. -/
  | literals
  deriving DecidableEq, Repr

namespace Reduction

/-- The query that a step leaves. -/
def apply (q : Query) : Reduction → Query
  | without kinds => q.without kinds
  | withoutTag => q.withoutTag
  | literals => q.literals

/-- The kinds that a step takes out. -/
def kinds : Reduction → List Kind
  | without kinds => kinds
  | withoutTag => [.tag]
  | literals => []

/-- Whether a step leaves an entry. -/
def leaves : Reduction → Predicate → Bool
  | without kinds, p => !kinds.contains p.kind
  | withoutTag, p => !([.tag].contains p.kind)
  | literals, p => !p.isPattern

/-- A step leaves the entries that it does not take away, in their order. -/
theorem apply_eq (q : Query) (step : Reduction) :
    step.apply q = ⟨q.predicates.filter step.leaves⟩ := by
  cases step <;> rfl

/-- A step leaves an entry unless it is of the kinds, or of the values, that the step takes away. -/
theorem leaves_iff {step : Reduction} {p : Predicate} :
    step.leaves p = true ↔ p.kind ∉ step.kinds ∧ (step = literals → p.isPattern = false) := by
  cases step <;> simp [leaves, kinds]

end Reduction

namespace Query

/-- The query that steps leave, one after the other. -/
def reduce (q : Query) (steps : List Reduction) : Query := steps.foldl Reduction.apply q

/-- An entry is left exactly if every step leaves it. -/
theorem reduce_eq (q : Query) (steps : List Reduction) :
    q.reduce steps = ⟨q.predicates.filter fun p => steps.all (·.leaves p)⟩ := by
  induction steps generalizing q with
  | nil => simp [reduce]
  | cons step steps ih =>
    calc q.reduce (step :: steps) = (step.apply q).reduce steps := rfl
      _ = ⟨(q.predicates.filter step.leaves).filter fun p => steps.all (·.leaves p)⟩ := by
          rw [ih, Reduction.apply_eq]
      _ = ⟨q.predicates.filter fun p => (step :: steps).all (·.leaves p)⟩ := by
          simp [List.filter_filter, Bool.and_comm]

/-- What every step leaves is decided by the kinds that are taken out and by whether regular
expressions are. -/
theorem all_leaves_iff {steps : List Reduction} {p : Predicate} :
    steps.all (·.leaves p) = true ↔
      (¬∃ step ∈ steps, p.kind ∈ step.kinds) ∧ (.literals ∈ steps → p.isPattern = false) := by
  simp only [List.all_eq_true, Reduction.leaves_iff]
  constructor
  · intro h
    exact ⟨fun ⟨step, hstep, hkind⟩ => (h step hstep).1 hkind,
      fun hliterals => (h _ hliterals).2 rfl⟩
  · rintro ⟨hkinds, hliterals⟩ step hstep
    exact ⟨fun hkind => hkinds ⟨step, hstep, hkind⟩, fun heq => hliterals (heq ▸ hstep)⟩

/-- Steps that take out the same leave the same. -/
theorem reduce_congr {steps steps' : List Reduction}
    (hkinds : ∀ kind, (∃ step ∈ steps, kind ∈ step.kinds) ↔ ∃ step ∈ steps', kind ∈ step.kinds)
    (hliterals : .literals ∈ steps ↔ .literals ∈ steps') (q : Query) :
    q.reduce steps = q.reduce steps' := by
  have hleft : ∀ p : Predicate, steps.all (·.leaves p) = steps'.all (·.leaves p) := by
    intro p
    rw [Bool.eq_iff_iff, all_leaves_iff, all_leaves_iff, hkinds, hliterals]
  rw [reduce_eq, reduce_eq]
  simp only [hleft]

/-- Steps only take entries away. -/
theorem reduce_sublist (q : Query) (steps : List Reduction) :
    (q.reduce steps).predicates.Sublist q.predicates := by
  rw [reduce_eq]
  exact List.filter_sublist

/-- Some of the entries of a well-formed query, in order, make a well-formed one. -/
theorem WellFormed.of_sublist {q r : Query} (h : q.WellFormed)
    (hsub : r.predicates.Sublist q.predicates) : r.WellFormed :=
  ⟨fun p hp => h.entries p (hsub.subset hp), h.names.sublist (hsub.map _)⟩

/-- Steps keep a query well-formed. -/
theorem WellFormed.reduce {q : Query} (h : q.WellFormed) (steps : List Reduction) :
    (q.reduce steps).WellFormed :=
  h.of_sublist (q.reduce_sublist steps)

end Query

/-- Entries with different names are different. -/
theorem Query.WellFormed.nodup {q : Query} (h : q.WellFormed) : q.predicates.Nodup :=
  h.names.of_map

/-- The entries of a reserved kind are what is looked up: none, or one. -/
theorem Query.WellFormed.filter_kind_eq {q : Query} (h : q.WellFormed) {kind : Kind}
    (hkind : kind ≠ .named) :
    q.predicates.filter (·.kind == kind) = (q.get? kind).toList := by
  have hget : (q.predicates.filter (·.kind == kind)).head? = q.get? kind := List.head?_filter
  cases hfound : q.predicates.filter (·.kind == kind) with
  | nil =>
    rw [← hget, hfound]
    rfl
  | cons p others =>
    -- A second entry of the kind would be the first one again.
    have hothers : others = [] := by
      rw [List.eq_nil_iff_forall_not_mem]
      intro p' hp'
      have hmem : ∀ r ∈ p :: others, r ∈ q.predicates ∧ r.kind = kind := by
        intro r hr
        rw [← hfound, List.mem_filter] at hr
        exact ⟨hr.1, beq_iff_eq.1 hr.2⟩
      obtain ⟨hp, hpk⟩ := hmem p List.mem_cons_self
      obtain ⟨hq, hqk⟩ := hmem p' (List.mem_cons_of_mem p hp')
      obtain rfl := h.eq_of_kind hp hq (hpk ▸ hkind) (hpk.trans hqk.symm)
      have hnodup := h.nodup.filter fun p => p.kind == kind
      rw [hfound] at hnodup
      exact (List.nodup_cons.1 hnodup).1 hp'
    rw [← hget, hfound, hothers]
    rfl

/-- A criterion that can stand under a kind is a regular expression or, for an index, a position
and, for another kind, a text. -/
theorem Criterion.Fits.cases {kind : Kind} {c : Criterion} (h : c.Fits kind) :
    (∃ regex, c = .pattern regex) ∨
      (kind = .index ∧ ∃ n, 0 ≤ n ∧ c = .index n) ∨ kind ≠ .index ∧ ∃ text, c = .literal text := by
  cases c with
  | literal text => exact .inr (.inr ⟨h, text, rfl⟩)
  | pattern regex => exact .inl ⟨regex, rfl⟩
  | index n => exact .inr (.inl ⟨h.1, n, h.2, rfl⟩)

/-- What steps leave of a query of plain values are entries of it in their order, with names of
their own that are not empty. The name decides the kind, and the kind what the entry is compared
by; the entries of a reserved kind are what is looked up. Which entries are left is decided by the
kinds that are taken out and by whether regular expressions are. -/
theorem reduce_ofPlainValues {q : Query} (h : q.OfPlainValues) (steps : List Reduction) :
    (q.reduce steps).predicates.Sublist q.predicates ∧
    ((q.reduce steps).predicates.map (·.name)).Nodup ∧
    (∀ p ∈ (q.reduce steps).predicates, p.name ≠ "" ∧ p.kind = Kind.ofKey p.name ∧
      ((∃ regex, p.criterion = .pattern regex) ∨
        (p.kind = .index ∧ ∃ n, 0 ≤ n ∧ p.criterion = .index n) ∨
        p.kind ≠ .index ∧ ∃ text, p.criterion = .literal text)) ∧
    (∀ kind, kind ≠ .named →
      (q.reduce steps).predicates.filter (·.kind == kind) = ((q.reduce steps).get? kind).toList) ∧
    ∀ steps' : List Reduction,
      (∀ kind, (∃ step ∈ steps, kind ∈ step.kinds) ↔ ∃ step ∈ steps', kind ∈ step.kinds) →
      (.literals ∈ steps ↔ .literals ∈ steps') → q.reduce steps = q.reduce steps' := by
  have hwell : (q.reduce steps).WellFormed := h.wellFormed.reduce steps
  refine ⟨q.reduce_sublist steps, hwell.names, ?_, fun _ => hwell.filter_kind_eq, ?_⟩
  · intro p hp
    have hentry := hwell.entries p hp
    exact ⟨hentry.name_ne, hentry.kind_eq, hentry.fits.cases⟩
  · exact fun _ hkinds hliterals => Query.reduce_congr hkinds hliterals q

/-- The tag, the index and the regular expressions are taken out in two ways; the text is left. -/
theorem reduce_ofPlainValues_two_ways :
    let q : Query := ⟨[⟨"class", .named, .pattern ⟨"x", .none, .code 120⟩⟩,
      ⟨"tag", .tag, .literal "a"⟩, ⟨"text", .text, .literal "b"⟩, ⟨"index", .index, .index 2⟩]⟩
    let once : List Reduction := [.without [.tag, .index], .literals]
    let often : List Reduction :=
      [.literals, .withoutTag, .without [.index], .withoutTag, .literals]
    q.reduce once = ⟨[⟨"text", .text, .literal "b"⟩]⟩ ∧ q.reduce once = q.reduce often ∧
      (q.reduce once).predicates.filter (·.kind == .text) =
        ((q.reduce once).get? .text).toList := by
  intro q once often
  have hplain : q.OfPlainValues :=
    ⟨[(.text "class", .regex ⟨"x", .none, .code 120⟩), (.text "tag", .text "a"),
      (.text "text", .text "b"), (.text "index", .int 2)], by simp [Value.IsPlain], rfl⟩
  obtain ⟨-, -, -, hlookup, hsame⟩ := reduce_ofPlainValues hplain once
  refine ⟨rfl, hsame often ?_ (by decide), hlookup .text (by decide)⟩
  intro kind
  cases kind <;> decide

end ElementQuery
