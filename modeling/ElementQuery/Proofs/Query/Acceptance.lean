import ElementQuery.Proofs.Query.Construction

/-!
# Which keys with values make a query

Keys with values make a query exactly if every key has a name, no name is given twice, and each
value makes sense under its key. A key that holds a number with too many digits has no name, as it
cannot be written. Otherwise the first pair that breaks one of these rules is complained about, and
its key counts before its value. Hence the pairs in front of others decide first, and what comes
behind them adds nothing but names that may be taken.

## Main definitions

* `MakesEntry` : the rules for a key with a value by themselves.
* `MakeQuery` : the rules for keys with values.
* `Breaks` : how a pair breaks a rule when names are taken.

## Main statements

* `makeQuery_append` : the rules for pairs in front of others.
* `Predicate.exists_ofPairs_iff`, `Predicate.ofPairs_eq_error_iff` : success and failure.
* `ofPairs_accepts_iff` : which pairs make a query, which one, and what is complained about.
-/

namespace ElementQuery

/-- A pair has a name, and its value makes sense under this name. -/
def MakesEntry (pair : Value × Value) (name : String) : Prop :=
  entryName? pair = some name ∧ name ≠ "" ∧ ∃ c, Criterion.ofValue (Kind.ofKey name) pair.2 = .ok c

/-- The rules for keys with values: names are there and differ, and values make sense. -/
structure MakeQuery (pairs : List (Value × Value)) : Prop where
  entries : ∀ pair ∈ pairs, ∃ name, MakesEntry pair name
  names : (pairs.map entryName?).Nodup

/-- How a pair breaks a rule when names are taken. A name is looked at only if it can be written,
and a value only under a name that is there and not taken. -/
inductive Breaks (taken : List String) (pair : Value × Value) : Fault → Prop
  | unwritable (h : entryName? pair = none) : Breaks taken pair .numberTooLong
  | noName (h : entryName? pair = some "") : Breaks taken pair (.invalidValue .emptyKey)
  | taken {name : String} (hname : name ≠ "") (h : entryName? pair = some name)
      (htaken : name ∈ taken) : Breaks taken pair (.invalidValue (.duplicateKey name))
  | badValue {name : String} {e : Fault} (hname : name ≠ "") (h : entryName? pair = some name)
      (hfresh : name ∉ taken) (hvalue : Criterion.ofValue (Kind.ofKey name) pair.2 = .error e) :
      Breaks taken pair e

variable {taken : List String} {pair : Value × Value} {pairs front back : List (Value × Value)}
  {name : String} {e : Fault}

/-- A pair breaks no other rule where the same names are taken in another order. -/
theorem Breaks.congr {taken' : List String} (h : ∀ name, name ∈ taken ↔ name ∈ taken') :
    Breaks taken pair e ↔ Breaks taken' pair e := by
  suffices hmono : ∀ {as bs : List String}, (∀ name, name ∈ as ↔ name ∈ bs) →
      Breaks as pair e → Breaks bs pair e from ⟨hmono h, hmono fun name => (h name).symm⟩
  intro as bs hsame hbreaks
  cases hbreaks with
  | unwritable hname => exact .unwritable hname
  | noName hname => exact .noName hname
  | taken hname hpair htaken => exact .taken hname hpair ((hsame _).1 htaken)
  | badValue hname hpair hfresh hvalue =>
    exact .badValue hname hpair (fun htaken => hfresh ((hsame _).2 htaken)) hvalue

namespace Predicate

/-- A pair is complained about by the first rule that it breaks. -/
theorem ofPair_eq_error_iff : ofPair taken pair = .error e ↔ Breaks taken pair e := by
  rw [ofPair_eq, bind_eq_error_iff, written_eq_error_iff]
  simp only [written_eq_ok_iff]
  constructor
  · rintro (⟨hnone, rfl⟩ | ⟨name, hpair, h⟩)
    · exact .unwritable hnone
    · by_cases hname : name = ""
      · subst hname
        rw [if_pos rfl] at h
        cases h
        exact .noName hpair
      · rw [if_neg hname] at h
        by_cases htaken : name ∈ taken
        · rw [if_pos htaken] at h
          cases h
          exact .taken hname hpair htaken
        · rw [if_neg htaken] at h
          exact .badValue hname hpair htaken (map_eq_error_iff.1 h)
  · intro h
    cases h with
    | unwritable hnone => exact .inl ⟨hnone, rfl⟩
    | noName hpair => exact .inr ⟨_, hpair, if_pos rfl⟩
    | taken hname hpair htaken => exact .inr ⟨_, hpair, by rw [if_neg hname, if_pos htaken]⟩
    | badValue hname hpair hfresh hvalue =>
      refine .inr ⟨_, hpair, ?_⟩
      rw [if_neg hname, if_neg hfresh]
      exact map_eq_error_iff.2 hvalue

/-- A pair makes an entry exactly if it is one of a name that is not taken. -/
theorem exists_ofPair_iff : (∃ p, ofPair taken pair = .ok p) ↔
    ∃ name, MakesEntry pair name ∧ name ∉ taken := by
  simp only [ofPair_eq_ok_iff]
  constructor
  · rintro ⟨p, hname, hfresh, hof⟩
    exact ⟨p.name, ⟨hof.name, hname, p.criterion, hof.kind ▸ hof.criterion⟩, hfresh⟩
  · rintro ⟨name, ⟨hpair, hname, c, hc⟩, hfresh⟩
    exact ⟨⟨name, _, c⟩, hname, hfresh, hpair, rfl, hc⟩

/-- Pairs make entries if the first one does and those behind it do where its name is taken. -/
theorem exists_ofPairs_cons_iff : (∃ ps, ofPairs taken (pair :: pairs) = .ok ps) ↔
    ∃ p, ofPair taken pair = .ok p ∧ ∃ ps, ofPairs (p.name :: taken) pairs = .ok ps := by
  simp only [ofPairs_cons, bind_eq_ok_iff, map_eq_ok_iff]
  constructor
  · rintro ⟨_, p, hp, ps, hps, -⟩
    exact ⟨p, hp, ps, hps⟩
  · rintro ⟨p, hp, ps, hps⟩
    exact ⟨_, p, hp, ps, hps, rfl⟩

/-- Pairs fail with the first one, or with those behind it where its name is taken. -/
theorem ofPairs_cons_eq_error_iff : ofPairs taken (pair :: pairs) = .error e ↔
    Breaks taken pair e ∨
      ∃ p, ofPair taken pair = .ok p ∧ ofPairs (p.name :: taken) pairs = .error e := by
  rw [ofPairs_cons, bind_eq_error_iff, ofPair_eq_error_iff]
  simp only [map_eq_error_iff]

end Predicate

/-- Pairs keep to the rules if the first one makes an entry of a name that those behind it do not
have, and these keep to the rules. -/
theorem makeQuery_cons : MakeQuery (pair :: pairs) ↔
    (∃ name, MakesEntry pair name ∧ some name ∉ pairs.map entryName?) ∧ MakeQuery pairs := by
  constructor
  · intro h
    obtain ⟨⟨name, hfirst⟩, hentries⟩ := List.forall_mem_cons.1 h.entries
    obtain ⟨hfresh, hnames⟩ := List.nodup_cons.1 h.names
    exact ⟨⟨name, hfirst, hfirst.1 ▸ hfresh⟩, hentries, hnames⟩
  · rintro ⟨⟨name, hfirst, hfresh⟩, h⟩
    exact ⟨List.forall_mem_cons.2 ⟨⟨name, hfirst⟩, h.entries⟩,
      List.nodup_cons.2 ⟨hfirst.1 ▸ hfresh, h.names⟩⟩

/-- Pairs in front of and behind each other make a query if both parts do and share no name. -/
theorem makeQuery_append : MakeQuery (front ++ back) ↔
    MakeQuery front ∧ MakeQuery back ∧
      ∀ pair ∈ front, ∀ pair' ∈ back, entryName? pair ≠ entryName? pair' := by
  constructor
  · intro h
    have hnames := h.names
    rw [List.map_append, List.nodup_append] at hnames
    obtain ⟨hfront, hback, hapart⟩ := hnames
    exact ⟨⟨fun pair hpair => h.entries pair (List.mem_append_left _ hpair), hfront⟩,
      ⟨fun pair hpair => h.entries pair (List.mem_append_right _ hpair), hback⟩,
      fun pair hpair pair' hpair' =>
        hapart _ (List.mem_map_of_mem hpair) _ (List.mem_map_of_mem hpair')⟩
  · rintro ⟨hfront, hback, hapart⟩
    refine ⟨fun pair hpair => ?_, ?_⟩
    · exact (List.mem_append.1 hpair).elim (hfront.entries pair) (hback.entries pair)
    · rw [List.map_append, List.nodup_append]
      refine ⟨hfront.names, hback.names, ?_⟩
      simpa only [List.forall_mem_map] using hapart

/-- The rules do not depend on the order of the pairs. -/
theorem MakeQuery.perm (h : MakeQuery front) (hperm : front.Perm back) : MakeQuery back where
  entries pair hpair := h.entries pair (hperm.mem_iff.2 hpair)
  names := (hperm.map entryName?).nodup_iff.1 h.names

/-- A pair anywhere among others counts as one in front of them. -/
theorem makeQuery_middle : MakeQuery (front ++ pair :: back) ↔
    (∃ name, MakesEntry pair name ∧ some name ∉ (front ++ back).map entryName?) ∧
      MakeQuery (front ++ back) := by
  rw [← makeQuery_cons]
  exact ⟨fun h => h.perm List.perm_middle, fun h => h.perm List.perm_middle.symm⟩

namespace Predicate

/-- Pairs make entries exactly if they keep to the rules and use no name that is taken. -/
theorem exists_ofPairs_iff : (∃ ps, ofPairs taken pairs = .ok ps) ↔
    MakeQuery pairs ∧ ∀ name ∈ taken, some name ∉ pairs.map entryName? := by
  induction pairs generalizing taken with
  | nil => exact iff_of_true ⟨[], rfl⟩ ⟨⟨nofun, List.nodup_nil⟩, fun _ _ => List.not_mem_nil⟩
  | cons pair pairs ih =>
    simp only [exists_ofPairs_cons_iff, ih, makeQuery_cons, List.map_cons, List.mem_cons, not_or]
    constructor
    · rintro ⟨p, hp, hrules, hfresh⟩
      obtain ⟨hname, htaken, hof⟩ := ofPair_eq_ok_iff.1 hp
      refine ⟨⟨⟨p.name, ⟨hof.name, hname, p.criterion, hof.kind ▸ hof.criterion⟩,
        hfresh _ (.inl rfl)⟩, hrules⟩, fun name hmem => ⟨?_, hfresh name (.inr hmem)⟩⟩
      rw [hof.name, Option.some.injEq]
      rintro rfl
      exact htaken hmem
    · rintro ⟨⟨⟨name, hfirst, hbehind⟩, hrules⟩, hfresh⟩
      have htaken : name ∉ taken := fun hmem => (hfresh name hmem).1 hfirst.1.symm
      obtain ⟨p, hp⟩ := exists_ofPair_iff.2 ⟨name, hfirst, htaken⟩
      obtain rfl : p.name = name :=
        Option.some.inj ((ofPair_eq_ok_iff.1 hp).2.2.name.symm.trans hfirst.1)
      refine ⟨p, hp, hrules, ?_⟩
      rintro other (rfl | hmem)
      · exact hbehind
      · exact (hfresh other hmem).2

/-- Pairs are complained about at the first one that breaks a rule. -/
theorem ofPairs_eq_error_iff : ofPairs taken pairs = .error e ↔
    ∃ before pair after, pairs = before ++ pair :: after ∧
      (∃ ps, ofPairs taken before = .ok ps) ∧
        Breaks (taken ++ before.filterMap entryName?) pair e := by
  induction pairs generalizing taken with
  | nil =>
    constructor
    · intro h
      cases h
    · rintro ⟨before, pair, after, h, -⟩
      simp at h
  | cons first pairs ih =>
    -- Whether a name is taken by what stood in front or by the first pair makes no difference.
    have hmoved : ∀ {name : String}, entryName? first = some name →
        ∀ (before : List (Value × Value)) (pair : Value × Value),
          Breaks (name :: taken ++ before.filterMap entryName?) pair e ↔
            Breaks (taken ++ (first :: before).filterMap entryName?) pair e := by
      intro name hname before pair
      apply Breaks.congr
      intro other
      simp [hname, or_left_comm]
    rw [ofPairs_cons_eq_error_iff]
    constructor
    · rintro (hfirst | ⟨p, hp, h⟩)
      · exact ⟨[], first, pairs, rfl, ⟨[], rfl⟩, by simpa using hfirst⟩
      · obtain ⟨before, pair, after, rfl, hbefore, hpair⟩ := ih.1 h
        exact ⟨first :: before, pair, after, rfl, exists_ofPairs_cons_iff.2 ⟨p, hp, hbefore⟩,
          (hmoved (ofPair_eq_ok_iff.1 hp).2.2.name before pair).1 hpair⟩
    · rintro ⟨before, pair, after, hpairs, hbefore, hpair⟩
      cases before with
      | nil =>
        cases hpairs
        exact .inl (by simpa using hpair)
      | cons first before =>
        cases hpairs
        obtain ⟨p, hp, hbefore⟩ := exists_ofPairs_cons_iff.1 hbefore
        exact .inr ⟨p, hp, ih.2 ⟨before, pair, after, rfl, hbefore,
          (hmoved (ofPair_eq_ok_iff.1 hp).2.2.name before pair).2 hpair⟩⟩

end Predicate

namespace Query

theorem ofPairs_eq_ok_iff {q : Query} :
    ofPairs pairs = .ok q ↔ Predicate.ofPairs [] pairs = .ok q.predicates := by
  rw [ofPairs, map_eq_ok_iff]
  constructor
  · rintro ⟨ps, hps, rfl⟩
    exact hps
  · exact fun h => ⟨_, h, rfl⟩

/-- Pairs make a query exactly if they keep to the rules. -/
theorem exists_ofPairs_iff : (∃ q, ofPairs pairs = .ok q) ↔ MakeQuery pairs := by
  have hentries := @Predicate.exists_ofPairs_iff [] pairs
  rw [and_iff_left fun _ h => absurd h List.not_mem_nil] at hentries
  rw [← hentries]
  constructor
  · rintro ⟨q, hq⟩
    exact ⟨q.predicates, ofPairs_eq_ok_iff.1 hq⟩
  · rintro ⟨ps, hps⟩
    exact ⟨⟨ps⟩, ofPairs_eq_ok_iff.2 hps⟩

/-- A pair whose value makes sense takes its name, and that is all that it does to other pairs. -/
theorem exists_ofPairs_middle_iff (h : MakesEntry pair name) :
    (∃ q, ofPairs (front ++ pair :: back) = .ok q) ↔
      MakeQuery (front ++ back) ∧ some name ∉ (front ++ back).map entryName? := by
  rw [exists_ofPairs_iff, makeQuery_middle, and_comm]
  refine and_congr_right fun _ => ⟨?_, fun hfresh => ⟨name, h, hfresh⟩⟩
  rintro ⟨other, hother, hfresh⟩
  rwa [← Option.some.inj (hother.1.symm.trans h.1)]

/-- The entry for a pair stands where the pair does. -/
theorem exists_predicates_middle {c : Criterion} {q : Query} (hname : entryName? pair = some name)
    (hvalue : Criterion.ofValue (Kind.ofKey name) pair.2 = .ok c)
    (h : ofPairs (front ++ pair :: back) = .ok q) : ∃ before after,
      q.predicates = before ++ ⟨name, Kind.ofKey name, c⟩ :: after ∧
        List.Forall₂ Predicate.IsOf front before ∧ List.Forall₂ Predicate.IsOf back after := by
  obtain ⟨before, ⟨name', kind, c'⟩, after, hsplit, hbefore, hof, hafter⟩ :=
    exists_split_of_forall₂ (Predicate.forall₂_of_ofPairs (ofPairs_eq_ok_iff.1 h))
  obtain rfl : name' = name := Option.some.inj (hof.name.symm.trans hname)
  obtain rfl : kind = Kind.ofKey name' := hof.kind
  obtain rfl : c' = c := Except.ok.inj (hof.criterion.symm.trans hvalue)
  exact ⟨before, after, hsplit, hbefore, hafter⟩

/-- Pairs are complained about at the first one that breaks a rule. -/
theorem ofPairs_eq_error_iff : ofPairs pairs = .error e ↔
    ∃ before pair after, pairs = before ++ pair :: after ∧ MakeQuery before ∧
      Breaks (before.filterMap entryName?) pair e := by
  rw [ofPairs, map_eq_error_iff, Predicate.ofPairs_eq_error_iff]
  simp only [Predicate.exists_ofPairs_iff, List.nil_append,
    and_iff_left fun (_ : String) h => absurd h List.not_mem_nil]

end Query

/-- Pairs make a query exactly if their names are there and differ and their values make sense, and
the entries then stand for the pairs one by one. Otherwise the first pair that breaks a rule is
complained about, for its key before its value. Pairs with others behind them make a query exactly
if both do and share no name, and a complaint about those in front is the one about all. -/
theorem ofPairs_accepts_iff (pairs : List (Value × Value)) :
    ((∃ q, Query.ofPairs pairs = .ok q) ↔ MakeQuery pairs) ∧
    (∀ q, Query.ofPairs pairs = .ok q → List.Forall₂ Predicate.IsOf pairs q.predicates) ∧
    (∀ e, Query.ofPairs pairs = .error e ↔
      ∃ before pair after, pairs = before ++ pair :: after ∧ MakeQuery before ∧
        Breaks (before.filterMap entryName?) pair e) ∧
    ∀ further : List (Value × Value),
      ((∃ q, Query.ofPairs (pairs ++ further) = .ok q) ↔
        (∃ q, Query.ofPairs pairs = .ok q) ∧ (∃ q, Query.ofPairs further = .ok q) ∧
          ∀ pair ∈ pairs, ∀ pair' ∈ further, entryName? pair ≠ entryName? pair') ∧
      ∀ e, Query.ofPairs pairs = .error e → Query.ofPairs (pairs ++ further) = .error e := by
  refine ⟨Query.exists_ofPairs_iff, fun q hq => ?_, fun e => Query.ofPairs_eq_error_iff,
    fun further => ⟨?_, fun e he => ?_⟩⟩
  · exact Predicate.forall₂_of_ofPairs (Query.ofPairs_eq_ok_iff.1 hq)
  · simp only [Query.exists_ofPairs_iff, makeQuery_append]
  · obtain ⟨before, pair, after, rfl, hbefore, hpair⟩ := Query.ofPairs_eq_error_iff.1 he
    refine Query.ofPairs_eq_error_iff.2 ⟨before, pair, after ++ further, ?_, hbefore, hpair⟩
    rw [List.append_assoc, List.cons_append]

/-- A truth value and a text are the same key. The second one is complained about, though its value
makes no sense either, and so it is with an empty key behind it. -/
theorem ofPairs_accepts_iff_two_spellings :
    let pairs : List (Value × Value) := [(.text ":tag", .text "a"), (.bool true, .int 3)]
    let repeated : List (Value × Value) := [(.text ":true", .none)]
    (∃ q, Query.ofPairs pairs = .ok q ∧ q.predicates.map (·.name) = ["tag", "true"]) ∧
      Query.ofPairs (pairs ++ repeated) = .error (.invalidValue (.duplicateKey "true")) ∧
      Query.ofPairs ((pairs ++ repeated) ++ [(.text "", .none)]) =
        .error (.invalidValue (.duplicateKey "true")) := by
  intro pairs repeated
  have hthree : Criterion.ofValue .named (.int 3) = .ok (.literal "3") :=
    Criterion.ofValue_int (by decide) (Number.printable_of_natAbs_le (by decide))
  have hrules : MakeQuery pairs := by
    refine ⟨List.forall_mem_cons.2 ⟨⟨"tag", rfl, by decide, _, rfl⟩, ?_⟩, by decide⟩
    exact List.forall_mem_singleton.2 ⟨"true", rfl, by decide, _, hthree⟩
  obtain ⟨haccepts, hentries, -⟩ := ofPairs_accepts_iff pairs
  obtain ⟨-, -, hfails, hfurther⟩ := ofPairs_accepts_iff (pairs ++ repeated)
  have hrepeated :
      Query.ofPairs (pairs ++ repeated) = .error (.invalidValue (.duplicateKey "true")) :=
    (hfails _).2 ⟨pairs, (.text ":true", .none), [], rfl, hrules,
      .taken (by decide) rfl (by decide)⟩
  refine ⟨?_, hrepeated, (hfurther _).2 _ hrepeated⟩
  obtain ⟨q, hq⟩ := haccepts.2 hrules
  refine ⟨q, hq, (List.map_inj_right fun _ _ => Option.some.inj).1 ?_⟩
  exact (Predicate.map_name_eq (hentries q hq)).symm

end ElementQuery
