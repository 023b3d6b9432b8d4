import ElementQuery.Proofs.Query.Acceptance

/-!
# Names taken as keys

A key may be written with a colon in front, which is dropped from it to give the name of an entry.
A name that is taken as a key again loses a colon of its own, unless the colon stands alone. So the
names that lead back to their entries are those without a colon that something follows; any other
name has to be written with the colon that its key had.

## Main definitions

* `IsBareName` : the names that are keys as they stand.
* `Query.ownPairs` : the entries of a query as keys with values.

## Main statements

* `bareName_eq_self_iff` : the bare names are the keys that nothing is dropped from.
* `Query.ofPairs_ownPairs` : a query of bare names is made again from its own entries.
* `ofPairs_ownPairs_iff` : which names are found again, and which queries are made again.
-/

namespace ElementQuery

/-- The names that are keys as they stand: they do not start with a colon that something follows. -/
def IsBareName (name : String) : Prop := ∀ c rest, name.toList ≠ ':' :: c :: rest

/-- The entries of a query as keys with values. -/
def Query.ownPairs (q : Query) : List (Value × Value) :=
  q.predicates.map fun p => (.text p.name, .criterion p.criterion)

theorem dropColon_cons {c : Char} {rest : List Char} : dropColon (':' :: c :: rest) = c :: rest :=
  rfl

theorem dropColon_eq_self {cs : List Char} (h : ∀ c rest, cs ≠ ':' :: c :: rest) :
    dropColon cs = cs := by
  rw [dropColon]
  exact h

/-- A text as a key can always be written. -/
theorem keyName?_text (s : String) : (Value.text s).keyName? = some (bareName s) := rfl

/-- A name is a key as it stands exactly if nothing is dropped from it. -/
theorem bareName_eq_self_iff {name : String} : bareName name = name ↔ IsBareName name := by
  rw [bareName, ← String.toList_inj, String.toList_ofList]
  constructor
  · intro h c rest hname
    rw [hname, dropColon_cons] at h
    have hlength := congrArg List.length h
    simp at hlength
  · exact dropColon_eq_self

/-- A colon in front of a name is dropped from it, whatever the name starts with. -/
theorem bareName_colon_append {name : String} (h : name ≠ "") :
    bareName (":" ++ name) = name := by
  have hne : name.toList ≠ [] := fun hnil => h (String.toList_inj.1 (hnil.trans rfl))
  obtain ⟨c, rest, hname⟩ := List.exists_cons_of_ne_nil hne
  have hchars : (":" ++ name).toList = ':' :: c :: rest := by
    rw [String.toList_append, hname]
    rfl
  rw [bareName, hchars, dropColon_cons, ← hname, String.ofList_toList]

theorem Criterion.same_refl (c : Criterion) : c.same c = true := by
  cases c <;> simp [same, Regex.same]

/-- Queries are equal if their entries are, one by one. -/
theorem Query.same_iff {q r : Query} :
    q.same r = true ↔ List.Forall₂ (fun a b => a.same b = true) q.predicates r.predicates := by
  rw [same, Bool.and_eq_true_iff, beq_iff_eq, List.all_eq_true, List.forall₂_iff_zip]
  exact and_congr_right fun _ => Prod.forall

theorem Query.same_refl (q : Query) : q.same q = true := by
  rw [same_iff, List.forall₂_same]
  intro p _
  simp [Predicate.same, Criterion.same_refl]

/-- Equal queries have the same names in the same order. -/
theorem Query.map_name_eq_of_same {q r : Query} (h : q.same r = true) :
    q.predicates.map (·.name) = r.predicates.map (·.name) := by
  rw [← List.forall₂_eq_eq_eq, List.forall₂_map_left_iff, List.forall₂_map_right_iff]
  refine (same_iff.1 h).imp fun a b hab => ?_
  rw [Predicate.same, Bool.and_eq_true_iff, Bool.and_eq_true_iff, beq_iff_eq] at hab
  exact hab.1.1

/-- A pair stands for one entry only. -/
theorem Predicate.isOf_rightUnique : Relator.RightUnique Predicate.IsOf := by
  rintro pair ⟨name, kind, c⟩ ⟨name', kind', c'⟩ h h'
  obtain rfl : name = name' := Option.some.inj (h.name.symm.trans h'.name)
  obtain rfl : kind = kind' := h.kind.trans h'.kind.symm
  obtain rfl : c = c' := Except.ok.inj (h.criterion.symm.trans h'.criterion)
  rfl

/-- A text is a key of a query exactly if its name without a colon is one of the query. -/
theorem Query.contains_text_eq {q : Query} (s : String) :
    q.contains (.text s) = .ok (q.predicates.any (·.name == bareName s)) := by
  rw [contains, keyName?_text]
  cases q.predicates <;> rfl

/-- A text is found in a query exactly if an entry has it as a name, less a colon. -/
theorem Query.contains_text_iff {q : Query} {s : String} :
    q.contains (.text s) = .ok true ↔ bareName s ∈ q.predicates.map (·.name) := by
  simp [contains_text_eq]

namespace Query

variable {pairs : List (Value × Value)} {q : Query}

/-- The names of the pairs of a query are those of its entries, less a colon each. -/
theorem map_entryName_ownPairs (q : Query) :
    q.ownPairs.map entryName? = (q.predicates.map (bareName ·.name)).map some := by
  rw [ownPairs, List.map_map, List.map_map]
  rfl

/-- A query of bare names is made again from its own entries. -/
theorem ofPairs_ownPairs (h : ofPairs pairs = .ok q)
    (hbare : ∀ p ∈ q.predicates, IsBareName p.name) : ofPairs q.ownPairs = .ok q := by
  have hrules : MakeQuery pairs := exists_ofPairs_iff.1 ⟨q, h⟩
  have hentries := Predicate.forall₂_of_ofPairs (ofPairs_eq_ok_iff.1 h)
  have hnames := Predicate.map_name_eq hentries
  -- Each entry is the one of its own name and criterion.
  have hown : List.Forall₂ Predicate.IsOf q.ownPairs q.predicates := by
    rw [ownPairs, List.forall₂_map_left_iff, List.forall₂_same]
    intro p hp
    obtain ⟨pair, -, hof⟩ := exists_of_forall₂_of_mem hentries.flip hp
    exact ⟨congrArg some (bareName_eq_self_iff.2 (hbare p hp)), hof.kind, rfl⟩
  have hownNames : q.ownPairs.map entryName? = pairs.map entryName? :=
    (Predicate.map_name_eq hown).trans hnames.symm
  have hagain : MakeQuery q.ownPairs := by
    refine ⟨fun pair hpair => ?_, hownNames ▸ hrules.names⟩
    obtain ⟨p, -, hof⟩ := exists_of_forall₂_of_mem hown hpair
    have hmem : entryName? pair ∈ pairs.map entryName? := hownNames ▸ List.mem_map_of_mem hpair
    obtain ⟨given, hgiven, heq⟩ := List.mem_map.1 hmem
    obtain ⟨name, hname, hne, -⟩ := hrules.entries given hgiven
    obtain rfl : p.name = name := Option.some.inj (hof.name.symm.trans (heq.symm.trans hname))
    exact ⟨p.name, hof.name, hne, p.criterion, hof.kind ▸ hof.criterion⟩
  obtain ⟨r, hr⟩ := exists_ofPairs_iff.2 hagain
  have hmade := Predicate.forall₂_of_ofPairs (ofPairs_eq_ok_iff.1 hr)
  have hsame : r.predicates = q.predicates :=
    List.right_unique_forall₂' Predicate.isOf_rightUnique hmade hown
  exact hr.trans (congrArg (fun ps => Except.ok (Query.mk ps)) hsame)

end Query

/-- In a query that is made from pairs, a name is found as a key exactly if the name that this key
stands for is one of the query, as it is for a bare name; with a colon in front every name is found.
The entries taken as keys with values make an equal query exactly if all names are bare. -/
theorem ofPairs_ownPairs_iff {pairs : List (Value × Value)} {q : Query}
    (h : Query.ofPairs pairs = .ok q) :
    (∀ p ∈ q.predicates, q.contains (.text p.name) = .ok true ↔
      IsBareName p.name ∨ bareName p.name ∈ q.predicates.map (·.name)) ∧
    (∀ p ∈ q.predicates, q.contains (.text (":" ++ p.name)) = .ok true) ∧
    ((∃ r, Query.ofPairs q.ownPairs = .ok r ∧ r.same q = true) ↔
      ∀ p ∈ q.predicates, IsBareName p.name) := by
  refine ⟨fun p hp => ?_, fun p hp => ?_, ?_, ?_⟩
  · rw [Query.contains_text_iff]
    refine ⟨.inr, ?_⟩
    rintro (hbare | hname)
    · rw [bareName_eq_self_iff.2 hbare]
      exact List.mem_map_of_mem hp
    · exact hname
  · have hentries := Predicate.forall₂_of_ofPairs (Query.ofPairs_eq_ok_iff.1 h)
    obtain ⟨pair, hpair, hof⟩ := exists_of_forall₂_of_mem hentries.flip hp
    obtain ⟨name, hname, hne, -⟩ := (Query.exists_ofPairs_iff.1 ⟨q, h⟩).entries pair hpair
    obtain rfl : p.name = name := Option.some.inj (hof.name.symm.trans hname)
    rw [Query.contains_text_iff, bareName_colon_append hne]
    exact List.mem_map_of_mem hp
  · rintro ⟨r, hr, hsame⟩
    have hnames :=
      Predicate.map_name_eq (Predicate.forall₂_of_ofPairs (Query.ofPairs_eq_ok_iff.1 hr))
    rw [Query.map_name_eq_of_same hsame, Query.map_entryName_ownPairs] at hnames
    have hbare := (List.map_inj_right fun _ _ => Option.some.inj).1 hnames
    intro p hp
    exact bareName_eq_self_iff.1 (List.map_inj_left.1 hbare p hp)
  · exact fun hbare => ⟨q, Query.ofPairs_ownPairs h hbare, q.same_refl⟩

/-- A colon that stands alone behind the colon of its key is a bare name, and so is a tag. -/
theorem ofPairs_ownPairs_iff_lone_colon :
    let pairs : List (Value × Value) := [(.text ":tag", .text "a"), (.text "::", .int 1)]
    let q : Query := ⟨[⟨"tag", .tag, .literal "a"⟩, ⟨":", .named, .literal "1"⟩]⟩
    Query.ofPairs pairs = .ok q ∧ q.contains (.text ":") = .ok true ∧
      ∃ r, Query.ofPairs q.ownPairs = .ok r ∧ r.same q = true := by
  intro pairs q
  have hone : Criterion.ofValue .named (.int 1) = .ok (.literal "1") :=
    Criterion.ofValue_int (by decide) (Number.printable_of_natAbs_le (by decide))
  have hcolon : Predicate.ofPair ["tag"] (.text "::", .int 1) =
      .ok ⟨":", .named, .literal "1"⟩ :=
    Predicate.ofPair_eq_ok_iff.2 ⟨by decide, by decide, rfl, rfl, hone⟩
  have hsecond : Predicate.ofPairs ["tag"] [(.text "::", .int 1)] =
      .ok [⟨":", .named, .literal "1"⟩] := by
    rw [Predicate.ofPairs_cons, hcolon]
    rfl
  have hq : Query.ofPairs pairs = .ok q := by
    rw [Query.ofPairs_eq_ok_iff, Predicate.ofPairs_cons]
    exact congrArg (Functor.map (⟨"tag", .tag, .literal "a"⟩ :: ·)) hsecond
  have hbare : ∀ p ∈ q.predicates, IsBareName p.name := by
    refine List.forall_mem_cons.2 ⟨?_, List.forall_mem_singleton.2 ?_⟩ <;> rintro c rest ⟨⟩
  obtain ⟨hfound, -, hmade⟩ := ofPairs_ownPairs_iff hq
  have hmem : ⟨":", .named, .literal "1"⟩ ∈ q.predicates := by simp [q]
  exact ⟨hq, (hfound _ hmem).2 (.inl (hbare _ hmem)), hmade.2 hbare⟩

/-- With two colons in front of its key, the name of an entry starts with one. It is not found
again, and the query is not made again from its own entries. -/
theorem not_ofPairs_ownPairs_two_colons :
    ∃ q, Query.ofPairs [(.text "::a", .text "x")] = .ok q ∧
      (∃ p ∈ q.predicates, q.contains (.text p.name) = .ok false) ∧
      ¬∃ r, Query.ofPairs q.ownPairs = .ok r ∧ r.same q = true := by
  refine ⟨⟨[⟨":a", .named, .literal "x"⟩]⟩, rfl, ⟨_, List.mem_singleton_self _, by decide⟩, ?_⟩
  rintro ⟨r, hr, hsame⟩
  cases hr
  revert hsame
  decide

end ElementQuery
