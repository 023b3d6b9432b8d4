import ElementQuery.Proofs.Outcome
import ElementQuery.Query.Basic
import Mathlib.Data.List.Nodup

/-!
# Queries made from keys with their values

What holds of every query that is made from keys with plain values: names are neither empty nor
repeated, the name decides the kind, and the kind decides which criteria there can be.

## Main definitions

* `Value.IsPlain` : the values that are not criteria made beforehand.
* `Query.OfPlainValues` : the queries that are made from keys with plain values.
* `Predicate.IsOf` : the entry that a key with its value becomes.
* `Query.WellFormed` : what all of these have in common.

## Main statements

* `Predicate.ofPair_eq_ok_iff`, `Predicate.forall₂_of_ofPairs` : entries stand for their pairs.
* `Query.OfPlainValues.wellFormed` : a query of plain values is well-formed.
* `Query.WellFormed.eq_of_kind` : a well-formed query has one entry of a reserved kind at most.
-/

namespace ElementQuery

/-- The values that are not criteria made beforehand. -/
def Value.IsPlain : Value → Prop
  | .criterion _ => False
  | _ => True

/-- The queries that are made from keys with plain values. -/
def Query.OfPlainValues (q : Query) : Prop :=
  ∃ pairs, (∀ pair ∈ pairs, pair.2.IsPlain) ∧ Query.ofPairs pairs = .ok q

/-- The name under which a key with a value is an entry. A key that cannot be written has none. -/
def entryName? (pair : Value × Value) : Option String := pair.1.keyName?

/-- An entry under the name of a key, of the kind of the name, compared by what the value becomes
under that kind. -/
structure Predicate.IsOf (pair : Value × Value) (p : Predicate) : Prop where
  name : entryName? pair = some p.name
  kind : p.kind = Kind.ofKey p.name
  criterion : Criterion.ofValue p.kind pair.2 = .ok p.criterion

/-- Whether an entry of a kind can have a criterion. Only an index has a position, which is not
negative, and an index is never compared with a text. -/
def Criterion.Fits (kind : Kind) : Criterion → Prop
  | .literal _ => kind ≠ .index
  | .pattern _ => True
  | .index position => kind = .index ∧ 0 ≤ position

/-- An entry whose name decides its kind and whose criterion fits it. -/
structure Predicate.WellFormed (p : Predicate) : Prop where
  name_ne : p.name ≠ ""
  /-- The kind is the one of the name. -/
  kind_eq : p.kind = Kind.ofKey p.name
  /-- The criterion can stand under the kind. -/
  fits : p.criterion.Fits p.kind

/-- A query of well-formed entries with names of their own. -/
structure Query.WellFormed (q : Query) : Prop where
  entries : ∀ p ∈ q.predicates, p.WellFormed
  names : (q.predicates.map (·.name)).Nodup

/-- A value stands for a position that is not negative, or makes no criterion of an index. -/
theorem Criterion.ofIndex_eq_ok_iff {v : Value} {c : Criterion} : Criterion.ofIndex v = .ok c ↔
    ∃ position, positionOf? v = some position ∧ 0 ≤ position ∧ c = .index position := by
  rw [ofIndex]
  cases positionOf? v with
  | none =>
    refine iff_of_false (fun h => ?_) (by rintro ⟨_, ⟨⟩, -⟩)
    obtain ⟨_, -, h⟩ := bind_eq_ok_iff.1 h
    cases h
  | some position =>
    dsimp only
    by_cases hneg : position < 0
    · rw [if_pos hneg]
      refine iff_of_false (fun h => ?_) (by rintro ⟨_, ⟨⟩, hposition, -⟩; omega)
      obtain ⟨_, -, h⟩ := bind_eq_ok_iff.1 h
      cases h
    · rw [if_neg hneg]
      constructor
      · rintro ⟨⟩
        exact ⟨position, rfl, Int.not_lt.1 hneg, rfl⟩
      · rintro ⟨_, ⟨⟩, -, rfl⟩
        rfl

theorem Criterion.ofIndex_fits {v : Value} {c : Criterion} (h : Criterion.ofIndex v = .ok c) :
    c.Fits .index := by
  obtain ⟨position, -, hposition, rfl⟩ := Criterion.ofIndex_eq_ok_iff.1 h
  exact ⟨rfl, hposition⟩

/-- What is made of a plain value fits its kind. -/
theorem Criterion.ofValue_fits {kind : Kind} {v : Value} {c : Criterion} (hv : v.IsPlain)
    (h : Criterion.ofValue kind v = .ok c) : c.Fits kind := by
  unfold Criterion.ofValue at h
  split at h
  · exact hv.elim
  · cases h
    trivial
  · split at h
    · next hkind => exact hkind ▸ Criterion.ofIndex_fits h
    · next hkind =>
      split at h
      · cases h
      · obtain ⟨_, -, rfl⟩ := map_eq_ok_iff.1 h
        exact hkind

/-- A whole number that can be written is compared by its digits, except as an index. -/
theorem Criterion.ofValue_int {kind : Kind} {n : Int} (hkind : kind ≠ .index)
    (h : Number.Printable n) : Criterion.ofValue kind (.int n) = .ok (.literal (toString n)) := by
  have htext : (Value.int n).symbolName? = some (toString n) := Number.writeInt?_eq_some h
  simp only [ofValue, if_neg hkind, htext]
  rfl

section OfPair

variable {taken : List String} {pair : Value × Value} {pairs : List (Value × Value)}

namespace Predicate

/-- The name of a pair is looked at before its value. -/
theorem ofPair_eq : ofPair taken pair = written (entryName? pair) >>= fun name =>
    if name = "" then .error (.invalidValue .emptyKey)
    else if name ∈ taken then .error (.invalidValue (.duplicateKey name))
    else (⟨name, Kind.ofKey name, ·⟩) <$> Criterion.ofValue (Kind.ofKey name) pair.2 := by
  simp only [ofPair, entryName?, List.contains_iff_mem, bind_pure_comp]
  refine bind_congr fun name => ?_
  by_cases hname : name = ""
  · rw [if_pos hname, if_pos hname]
    rfl
  · rw [if_neg hname, if_neg hname]
    by_cases htaken : name ∈ taken
    · rw [if_pos htaken, if_pos htaken]
      rfl
    · rw [if_neg htaken, if_neg htaken]

/-- A pair makes an entry if its name is there and not taken and its value makes sense. -/
theorem ofPair_eq_ok_iff {p : Predicate} :
    ofPair taken pair = .ok p ↔ p.name ≠ "" ∧ p.name ∉ taken ∧ p.IsOf pair := by
  rw [ofPair_eq, bind_eq_ok_iff]
  constructor
  · rintro ⟨name, hname, h⟩
    split at h
    · cases h
    · next hne =>
      split at h
      · cases h
      · next hfresh =>
        obtain ⟨c, hc, rfl⟩ := map_eq_ok_iff.1 h
        exact ⟨hne, hfresh, written_eq_ok_iff.1 hname, rfl, hc⟩
  · rintro ⟨hne, hfresh, hof⟩
    refine ⟨p.name, written_eq_ok_iff.2 hof.name, ?_⟩
    rw [if_neg hne, if_neg hfresh, ← hof.kind]
    exact map_eq_ok_iff.2 ⟨p.criterion, hof.criterion, rfl⟩

/-- An entry of a plain value is well-formed, and its name was not taken. -/
theorem ofPair_wellFormed {p : Predicate} (hv : pair.2.IsPlain) (h : ofPair taken pair = .ok p) :
    p.WellFormed ∧ p.name ∉ taken := by
  obtain ⟨hname, hfresh, hof⟩ := ofPair_eq_ok_iff.1 h
  exact ⟨⟨hname, hof.kind, Criterion.ofValue_fits hv hof.criterion⟩, hfresh⟩

/-- Behind a pair its name is taken. -/
theorem ofPairs_cons : ofPairs taken (pair :: pairs) =
    ofPair taken pair >>= fun p => (p :: ·) <$> ofPairs (p.name :: taken) pairs := rfl

/-- The entries stand for the pairs one by one. -/
theorem forall₂_of_ofPairs {ps : List Predicate} (h : ofPairs taken pairs = .ok ps) :
    List.Forall₂ IsOf pairs ps := by
  induction pairs generalizing taken ps with
  | nil =>
    cases h
    exact .nil
  | cons pair pairs ih =>
    rw [ofPairs_cons, bind_eq_ok_iff] at h
    obtain ⟨p, hp, h⟩ := h
    obtain ⟨qs, hqs, rfl⟩ := map_eq_ok_iff.1 h
    exact .cons (ofPair_eq_ok_iff.1 hp).2.2 (ih hqs)

/-- The entries of a query have the names of their pairs, in order. -/
theorem map_name_eq {ps : List Predicate} (h : List.Forall₂ IsOf pairs ps) :
    pairs.map entryName? = (ps.map (·.name)).map some := by
  induction h with
  | nil => rfl
  | cons hp _ ih => rw [List.map_cons, hp.name, ih, List.map_cons, List.map_cons]

end Predicate

end OfPair

/-- The entries of plain values are well-formed and have names of their own, none of which was
taken. -/
theorem Predicate.ofPairs_wellFormed {pairs : List (Value × Value)} {seen : List String}
    {ps : List Predicate} (hv : ∀ pair ∈ pairs, pair.2.IsPlain)
    (h : Predicate.ofPairs seen pairs = .ok ps) :
    (∀ p ∈ ps, p.WellFormed ∧ p.name ∉ seen) ∧ (ps.map (·.name)).Nodup := by
  -- Every name that is taken is passed on to the entries behind it.
  induction pairs generalizing seen ps with
  | nil =>
    cases h
    simp
  | cons pair rest ih =>
    obtain ⟨p, hp, h⟩ := bind_eq_ok_iff.1 h
    obtain ⟨qs, hqs, h⟩ := bind_eq_ok_iff.1 h
    cases h
    obtain ⟨hpw, hpn⟩ := Predicate.ofPair_wellFormed (hv pair List.mem_cons_self) hp
    obtain ⟨hall, hnodup⟩ := ih (fun q hq => hv q (List.mem_cons_of_mem _ hq)) hqs
    constructor
    · intro q hq
      rcases List.mem_cons.1 hq with rfl | hq
      · exact ⟨hpw, hpn⟩
      · obtain ⟨hqw, hqn⟩ := hall q hq
        exact ⟨hqw, fun hmem => hqn (List.mem_cons_of_mem _ hmem)⟩
    · rw [List.map_cons, List.nodup_cons]
      refine ⟨?_, hnodup⟩
      intro hmem
      obtain ⟨q, hq, hname⟩ := List.mem_map.1 hmem
      exact (hall q hq).2 (hname ▸ List.mem_cons_self)

/-- A query of plain values is well-formed. -/
theorem Query.OfPlainValues.wellFormed {q : Query} (h : q.OfPlainValues) : q.WellFormed := by
  obtain ⟨pairs, hv, h⟩ := h
  obtain ⟨ps, hps, rfl⟩ := map_eq_ok_iff.1 h
  obtain ⟨hall, hnodup⟩ := Predicate.ofPairs_wellFormed hv hps
  exact ⟨fun p hp => (hall p hp).1, hnodup⟩

/-- A key that asks for a kind of its own is the name of the kind. -/
theorem Kind.eq_name_of_ofKey {key : String} {kind : Kind} (hkind : kind ≠ .named)
    (h : Kind.ofKey key = kind) : key = kind.name := by
  unfold Kind.ofKey at h
  cases hf : Kind.ofName? key with
  | none =>
    rw [hf] at h
    exact absurd h.symm hkind
  | some k =>
    rw [hf, Option.getD_some] at h
    subst h
    have hname := List.find?_some hf
    exact (beq_iff_eq.1 hname).symm

/-- A well-formed query has one entry of a reserved kind at most. -/
theorem Query.WellFormed.eq_of_kind {q : Query} (h : q.WellFormed) {p p' : Predicate}
    (hp : p ∈ q.predicates) (hp' : p' ∈ q.predicates) (hkind : p.kind ≠ .named)
    (heq : p.kind = p'.kind) : p = p' := by
  have hname : p.name = p.kind.name :=
    Kind.eq_name_of_ofKey hkind (h.entries p hp).kind_eq.symm
  have hname' : p'.name = p.kind.name :=
    Kind.eq_name_of_ofKey hkind ((h.entries p' hp').kind_eq.symm.trans heq.symm)
  exact List.inj_on_of_nodup_map h.names hp hp' (hname.trans hname'.symm)

end ElementQuery
