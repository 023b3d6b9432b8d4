import ElementQuery.Proofs.Selector.Outcomes

/-!
# Selectors as names with parts behind them

A selector is the name of an element with parts behind it. Names stand in a selector as they are,
so that from its start a text does not tell where a name ends. From its end it does: the marks that
a part ends with tell of which sort it is and where it starts.

## Main definitions

* `Subject` : what a part of a selector is about.
* `Shields` : the texts that hold a character behind backslashes only.

## Main statements

* `eq_of_parts` : if parts are known from their ends, so is all that a text is put together from.
* `forall₂_of_checksIn` : the part behind the element name is a part for each entry.
-/

namespace ElementQuery

open ElementQuery.Number ElementQuery.Text

/-- What a part of a selector is about: an attribute, the text of the element, or a position. -/
inductive Subject where
  | named (name : List Char)
  | text
  | position
  deriving DecidableEq, Repr

/-- What the check for an entry is about. -/
def Predicate.subject (p : Predicate) : Subject :=
  match p.kind with
  | .text => .text
  | .index => .position
  | _ => .named p.name.toList

/-- What the checks of a query are about. -/
def Query.subjects (q : Query) : List Subject := q.checks.map Predicate.subject

/-- Where the same mark stands in front of two texts without it, the texts are the same, and so is
what lies in front of the mark. -/
theorem append_cons_inj_left {α : Type} {x : α} {as bs front front' : List α} (ha : x ∉ as)
    (hb : x ∉ bs) (h : front ++ x :: as = front' ++ x :: bs) : front = front' ∧ as = bs := by
  have hreverse : as.reverse ++ x :: front.reverse = bs.reverse ++ x :: front'.reverse := by
    simpa using congrArg List.reverse h
  obtain ⟨htexts, hfronts⟩ := append_cons_inj (fun hx => ha (List.mem_reverse.1 hx))
    (fun hx => hb (List.mem_reverse.1 hx)) hreverse
  exact ⟨List.reverse_inj.1 hfronts, List.reverse_inj.1 htexts⟩

/-- The texts that hold a character behind backslashes only. -/
def Shields (x : Char) (cs : List Char) : Prop :=
  ∀ front back, cs = front ++ x :: back → front.getLast? = some '\\'

theorem Shields.of_not_mem {x : Char} {cs : List Char} (h : x ∉ cs) : Shields x cs := by
  rintro front back rfl
  exact absurd (List.mem_append_right front List.mem_cons_self) h

theorem Shields.append {x : Char} {as bs : List Char} (ha : Shields x as) (hb : Shields x bs) :
    Shields x (as ++ bs) := by
  intro front back h
  rcases List.append_eq_append_iff.1 h with ⟨between, rfl, hbetween⟩ | ⟨between, rfl, hbetween⟩
  · rw [List.getLast?_append, hb between back hbetween]
    rfl
  · cases between with
    | nil =>
      -- The character stands at the start of the second text, where it cannot.
      have hnone := hb [] back hbetween.symm
      cases hnone
    | cons c between =>
      obtain ⟨rfl, -⟩ := List.cons.inj hbetween
      exact ha front between rfl

theorem Shields.flatten {x : Char} {css : List (List Char)} (h : ∀ cs ∈ css, Shields x cs) :
    Shields x css.flatten := by
  induction css with
  | nil => exact .of_not_mem List.not_mem_nil
  | cons cs css ih =>
    obtain ⟨hcs, hcss⟩ := List.forall_mem_cons.1 h
    exact hcs.append (ih hcss)

/-- Two readings of a text as parts behind a start. If a part that was written is told by the text
up to its end, provided that its subject is known or that the text up to it can be an end, then the
start and all subjects are told. -/
theorem eq_of_parts {Written Part : Subject → List Char → Prop} {E : List Char → Prop}
    (hends : ∀ {x r σ}, Written σ r → E (x ++ r))
    (hpart : ∀ {x y r g σ τ}, Written σ r → Part τ g → σ = τ ∨ E x → x ++ r = y ++ g →
      x = y ∧ σ = τ)
    {σs τs : List Subject} {rs gs : List (List Char)} {x y : List Char}
    (hwritten : List.Forall₂ Written σs rs) (hparts : List.Forall₂ Part τs gs)
    (hlength : σs.length = τs.length) (hstart : σs = τs ∨ E x)
    (h : x ++ rs.flatten = y ++ gs.flatten) : x = y ∧ σs = τs := by
  -- By induction on the parts from the last one to the first one.
  have hrun : ∀ {σs τs : List Subject} {rs gs : List (List Char)},
      List.Forall₂ Written σs rs → List.Forall₂ Part τs gs → σs.length = τs.length →
      (σs = τs ∨ E x) → x ++ rs.reverse.flatten = y ++ gs.reverse.flatten →
      x = y ∧ σs = τs := by
    intro σs τs rs gs hwritten hparts hlength hstart h
    induction hwritten generalizing τs gs with
    | nil =>
      cases hparts with
      | nil => simpa using h
      | cons => cases hlength
    | @cons σ r σs rs hσ hrest ih =>
      cases hparts with
      | nil => cases hlength
      | @cons τ g τs gs hτ hparts =>
        simp only [List.reverse_cons, List.flatten_append, List.flatten_singleton,
          ← List.append_assoc] at h
        have hfront : σ = τ ∨ E (x ++ rs.reverse.flatten) := by
          rcases hstart with hstart | hstart
          · exact .inl (List.cons.inj hstart).1
          · right
            cases hrest with
            | nil => simpa using hstart
            | @cons _ r' _ rs hr' _ =>
              rw [List.reverse_cons, List.flatten_append, List.flatten_singleton,
                ← List.append_assoc]
              exact hends hr'
        obtain ⟨hbefore, rfl⟩ := hpart hσ hτ hfront h
        obtain ⟨hxy, rfl⟩ := ih hparts (Nat.succ.inj hlength)
          (hstart.imp_left fun heq => (List.cons.inj heq).2) hbefore
        exact ⟨hxy, rfl⟩
  have hreverse : σs.reverse = τs.reverse ∨ E x := hstart.imp_left (congrArg List.reverse)
  obtain ⟨hxy, hsubjects⟩ := hrun (List.forall₂_reverse_iff.2 hwritten)
    (List.forall₂_reverse_iff.2 hparts) (by simpa using hlength) hreverse (by simpa using h)
  exact ⟨hxy, List.reverse_inj.1 hsubjects⟩

/-- A position that is not negative is written as digits. -/
theorem Criterion.digits_of_ordinal {n : Int} {s : String} (hn : 0 ≤ n)
    (h : (Criterion.index n).ordinal = .ok s) :
    s.toList ≠ [] ∧ ∀ c ∈ s.toList, isAsciiDigit c = true := by
  obtain ⟨m, hm, rfl⟩ := ordinal_eq_ok h
  obtain rfl := Criterion.index.inj hm
  obtain ⟨k, hk⟩ := Int.eq_ofNat_of_zero_le (show 0 ≤ n + 1 by omega)
  have hdigits : (toString (n + 1)).toList = Nat.toDigits 10 k := by
    rw [hk]
    change (Nat.repr k).toList = _
    simp [Nat.repr]
  rw [hdigits]
  exact ⟨Nat.toDigits_ne_nil, fun c hc => isAsciiDigit_of_mem_toDigits hc⟩

/-- If the check for each entry is a part about its subject, what stands behind the element name is
a part for each entry. -/
theorem forall₂_of_checksIn {language : Language} {q : Query} {s : String}
    {Part : Subject → List Char → Prop} (hpattern : q.hasPattern = false)
    (hcheck : ∀ p ∈ q.checks, ∀ s, checkIn language p = .ok s → Part p.subject s.toList)
    (h : checksIn language q = .ok s) :
    ∃ parts, List.Forall₂ Part q.subjects parts ∧ s.toList = parts.flatten := by
  rw [checksIn_of_literals hpattern, map_eq_ok_iff] at h
  obtain ⟨texts, htexts, rfl⟩ := h
  refine ⟨texts.map String.toList, ?_, ?_⟩
  · have hall := mapM_eq_ok_iff.1 htexts
    rw [Query.subjects, List.forall₂_map_left_iff, List.forall₂_map_right_iff]
    clear htexts hpattern
    generalize q.checks = ps at hcheck hall
    induction hall with
    | nil => exact .nil
    | @cons p t ps ts hp _ ih =>
      rw [List.forall_mem_cons] at hcheck
      exact .cons (hcheck.1 t hp) (ih hcheck.2)
  · rw [String.toList_join, List.flatMap_def]

end ElementQuery
