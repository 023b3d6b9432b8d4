import Mathlib.Data.List.Forall2

/-!
# Outcomes of steps that can fail

What it means that a sequence of steps succeeds: each step succeeds, and the results fit together.

## Main definitions

* `FailsWhen` : what the failures of a step are, and when there is one.

## Main statements

* `bind_eq_ok_iff`, `map_eq_ok_iff`, `mapError_eq_ok_iff` : success of composed steps.
* `bind_eq_error_iff`, `map_eq_error_iff`, `mapError_eq_error_iff` : failure of composed steps.
* `mapM_eq_ok_iff`, `exists_of_mapM_eq_ok` : success of a step on every item of a list.
* `mapM_eq_error_iff`, `exists_mapM_eq_error_and_iff` : the first failure of a step on a list.
* `exists_of_mapM_eq_error`, `exists_mapM_eq_error_iff` : failure of a step on a list.
* `FailsWhen.bind`, `FailsWhen.mapM` : steps that all fail for the same reason.
* `mapM_eq_map` : a step on a list that transforms the results of another one.
* `mapM_id_eq_some_iff` : results that are all there.
* `filterM_eq_ok` : a check that succeeds on every item keeps what it says.
-/

namespace ElementQuery

variable {ε ε' α β : Type}

/-- Two steps succeed exactly when the first does and the second does on its result. -/
theorem bind_eq_ok_iff {x : Except ε α} {f : α → Except ε β} {b : β} :
    (x >>= f) = .ok b ↔ ∃ a, x = .ok a ∧ f a = .ok b := by
  cases x with
  | ok a => simp [bind, Except.bind]
  | error e => simp [bind, Except.bind]

/-- A result is transformed exactly when there is one. -/
theorem map_eq_ok_iff {x : Except ε α} {f : α → β} {b : β} :
    (f <$> x) = .ok b ↔ ∃ a, x = .ok a ∧ f a = b := by
  cases x with
  | ok a => simp [Functor.map, Except.map]
  | error e => simp [Functor.map, Except.map]

/-- Renaming failures changes no success. -/
theorem mapError_eq_ok_iff {x : Except ε α} {f : ε → ε'} {a : α} :
    x.mapError f = .ok a ↔ x = .ok a := by
  cases x with
  | ok b => simp [Except.mapError]
  | error e => simp [Except.mapError]

/-- Two steps fail exactly when the first does, or the second does on the result of the first. -/
theorem bind_eq_error_iff {x : Except ε α} {f : α → Except ε β} {e : ε} :
    (x >>= f) = .error e ↔ x = .error e ∨ ∃ a, x = .ok a ∧ f a = .error e := by
  cases x with
  | ok a => simp [bind, Except.bind]
  | error e => simp [bind, Except.bind]

/-- Transforming the result changes no failure. -/
theorem map_eq_error_iff {x : Except ε α} {f : α → β} {e : ε} :
    (f <$> x) = .error e ↔ x = .error e := by
  cases x with
  | ok a => simp [Functor.map, Except.map]
  | error e => simp [Functor.map, Except.map]

/-- Failures are renamed exactly when there are some. -/
theorem mapError_eq_error_iff {x : Except ε α} {f : ε → ε'} {e : ε'} :
    x.mapError f = .error e ↔ ∃ e', x = .error e' ∧ f e' = e := by
  cases x with
  | ok a => simp [Except.mapError]
  | error e => simp [Except.mapError]

/-- A step succeeds on every item exactly when the results are its results, item by item. -/
theorem mapM_eq_ok_iff {f : α → Except ε β} {xs : List α} {ys : List β} :
    xs.mapM f = .ok ys ↔ List.Forall₂ (fun x y => f x = .ok y) xs ys := by
  induction xs generalizing ys with
  | nil =>
    rw [List.mapM_nil, List.forall₂_nil_left_iff]
    exact ⟨fun h => (Except.ok.inj h).symm, fun h => h ▸ rfl⟩
  | cons x xs ih =>
    rw [List.mapM_cons, bind_eq_ok_iff]
    constructor
    · rintro ⟨y, hy, h⟩
      obtain ⟨zs, hzs, h⟩ := bind_eq_ok_iff.1 h
      cases h
      exact .cons hy (ih.1 hzs)
    · intro h
      cases h with
      | cons hy hys => exact ⟨_, hy, bind_eq_ok_iff.2 ⟨_, ih.2 hys, rfl⟩⟩

/-- What stands in a list has a counterpart in a list that is related to it item by item. -/
theorem exists_of_forall₂_of_mem {R : α → β → Prop} {as : List α} {bs : List β} {a : α}
    (h : List.Forall₂ R as bs) (ha : a ∈ as) : ∃ b ∈ bs, R a b := by
  induction h with
  | nil => cases ha
  | @cons a' b as bs hab _ ih =>
    rcases List.mem_cons.1 ha with rfl | ha
    · exact ⟨b, List.mem_cons_self, hab⟩
    · obtain ⟨b', hb', hab'⟩ := ih ha
      exact ⟨b', List.mem_cons_of_mem b hb', hab'⟩

/-- What a list is related to item by item splits where the list does. -/
theorem exists_split_of_forall₂ {R : α → β → Prop} {front back : List α} {a : α} {bs : List β}
    (h : List.Forall₂ R (front ++ a :: back) bs) : ∃ before b after, bs = before ++ b :: after ∧
      List.Forall₂ R front before ∧ R a b ∧ List.Forall₂ R back after := by
  induction front generalizing bs with
  | nil =>
    cases h with
    | cons hab h => exact ⟨[], _, _, rfl, .nil, hab, h⟩
  | cons a' front ih =>
    cases h with
    | cons hab' h =>
      obtain ⟨before, b, after, rfl, hfront, hab, hback⟩ := ih h
      exact ⟨_ :: before, b, after, rfl, .cons hab' hfront, hab, hback⟩

/-- Each result of a step on a list is the result on one of the items. -/
theorem exists_of_mapM_eq_ok {f : α → Except ε β} {xs : List α} {ys : List β}
    (h : xs.mapM f = .ok ys) {y : β} (hy : y ∈ ys) : ∃ x ∈ xs, f x = .ok y :=
  exists_of_forall₂_of_mem (mapM_eq_ok_iff.1 h).flip hy

/-- A failure on a list is the failure on the first item on which there is one. -/
theorem mapM_eq_error_iff {f : α → Except ε β} {xs : List α} {e : ε} :
    xs.mapM f = .error e ↔ ∃ before x after, xs = before ++ x :: after ∧
      (∀ y ∈ before, ∃ b, f y = .ok b) ∧ f x = .error e := by
  induction xs with
  | nil =>
    constructor
    · intro h
      cases h
    · rintro ⟨before, x, after, hxs, -⟩
      simp at hxs
  | cons x xs ih =>
    rw [List.mapM_cons, bind_eq_error_iff]
    constructor
    · rintro (hx | ⟨b, hb, h⟩)
      · exact ⟨[], x, xs, rfl, by simp, hx⟩
      · rcases bind_eq_error_iff.1 h with hxs | ⟨bs, -, h⟩
        · obtain ⟨before, y, after, rfl, hbefore, hy⟩ := ih.1 hxs
          exact ⟨x :: before, y, after, rfl, List.forall_mem_cons.2 ⟨⟨b, hb⟩, hbefore⟩, hy⟩
        · cases h
    · rintro ⟨before, y, after, hxs, hbefore, hy⟩
      cases before with
      | nil =>
        cases hxs
        exact .inl hy
      | cons z before =>
        cases hxs
        obtain ⟨⟨b, hb⟩, hbefore⟩ := List.forall_mem_cons.1 hbefore
        exact .inr ⟨b, hb, bind_eq_error_iff.2 (.inl (ih.2 ⟨before, y, after, rfl, hbefore, hy⟩))⟩

/-- There is a failure of some sort on a list exactly when the first failure is of that sort. -/
theorem exists_mapM_eq_error_and_iff {f : α → Except ε β} {xs : List α} {P : ε → Prop} :
    (∃ e, xs.mapM f = .error e ∧ P e) ↔ ∃ before x after, xs = before ++ x :: after ∧
      (∀ y ∈ before, ∃ b, f y = .ok b) ∧ ∃ e, f x = .error e ∧ P e := by
  simp only [mapM_eq_error_iff]
  constructor
  · rintro ⟨e, ⟨before, x, after, hxs, hbefore, hx⟩, he⟩
    exact ⟨before, x, after, hxs, hbefore, e, hx, he⟩
  · rintro ⟨before, x, after, hxs, hbefore, e, hx, he⟩
    exact ⟨e, ⟨before, x, after, hxs, hbefore, hx⟩, he⟩

/-- A failure on a list is a failure on one of its items. -/
theorem exists_of_mapM_eq_error {f : α → Except ε β} {xs : List α} {e : ε}
    (h : xs.mapM f = .error e) : ∃ x ∈ xs, f x = .error e := by
  obtain ⟨before, x, after, rfl, -, hx⟩ := mapM_eq_error_iff.1 h
  exact ⟨x, by simp, hx⟩

/-- There is a failure on a list exactly when there is one on some item. -/
theorem exists_mapM_eq_error_iff {f : α → Except ε β} {xs : List α} :
    (∃ e, xs.mapM f = .error e) ↔ ∃ x ∈ xs, ∃ e, f x = .error e := by
  constructor
  · rintro ⟨e, h⟩
    obtain ⟨x, hx, hfail⟩ := exists_of_mapM_eq_error h
    exact ⟨x, hx, e, hfail⟩
  · rintro ⟨x, hx, e, hfail⟩
    cases h : xs.mapM f with
    | error e' => exact ⟨e', rfl⟩
    | ok ys =>
      -- A list of successes has none at the item that fails.
      have hall : ∀ x ∈ xs, ∃ y, f x = .ok y := by
        have hys := mapM_eq_ok_iff.1 h
        clear h hx
        induction hys with
        | nil => simp
        | cons hy _ ih => exact List.forall_mem_cons.2 ⟨⟨_, hy⟩, ih⟩
      obtain ⟨y, hy⟩ := hall x hx
      rw [hfail] at hy
      cases hy

/-- The failures of a step are those of a sort, and there is one exactly if a condition holds. -/
def FailsWhen (x : Except ε α) (A : ε → Prop) (P : Prop) : Prop := ∀ e, x = .error e ↔ A e ∧ P

section FailsWhen

variable {A : ε → Prop} {P Q : Prop}

theorem FailsWhen.pure (h : ¬P) (a : α) : FailsWhen (pure a) A P :=
  fun _ => iff_of_false nofun fun hP => h hP.2

/-- Two steps in a row fail when one of them does. -/
theorem FailsWhen.bind {x : Except ε α} {f : α → Except ε β} (hx : FailsWhen x A P)
    (hf : ∀ a, x = .ok a → FailsWhen (f a) A Q) : FailsWhen (x >>= f) A (P ∨ Q) := by
  intro e
  rw [bind_eq_error_iff, hx e]
  constructor
  · rintro (⟨hA, hP⟩ | ⟨a, ha, he⟩)
    · exact ⟨hA, .inl hP⟩
    · obtain ⟨hA, hQ⟩ := (hf a ha e).1 he
      exact ⟨hA, .inr hQ⟩
  · rintro ⟨hA, hPQ⟩
    cases hresult : x with
    | error e' => exact .inl ⟨hA, ((hx e').1 hresult).2⟩
    | ok a =>
      -- Without a failure of the first step, the second one is left.
      have hP : ¬P := fun hP => by
        rw [(hx e).2 ⟨hA, hP⟩] at hresult
        cases hresult
      exact .inr ⟨a, rfl, (hf a hresult e).2 ⟨hA, hPQ.resolve_left hP⟩⟩

/-- A step for each item fails when it does for one of them. -/
theorem FailsWhen.mapM {f : α → Except ε β} {R : α → Prop} {xs : List α}
    (h : ∀ x ∈ xs, FailsWhen (f x) A (R x)) : FailsWhen (xs.mapM f) A (∃ x ∈ xs, R x) := by
  induction xs with
  | nil =>
    exact fun e => iff_of_false nofun fun ⟨_, _, hx, _⟩ => List.not_mem_nil hx
  | cons x xs ih =>
    obtain ⟨hx, hxs⟩ := List.forall_mem_cons.1 h
    have hcons := hx.bind fun y _ => (ih hxs).bind fun ys _ => FailsWhen.pure not_false (y :: ys)
    rw [or_false] at hcons
    rw [List.mapM_cons, List.exists_mem_cons_iff]
    exact hcons

end FailsWhen

/-- A step that transforms the results of another one transforms its list of results. -/
theorem mapM_eq_map {γ : Type} {f : α → Except ε γ} {g : α → Except ε β} {k : β → γ} {xs : List α}
    (h : ∀ x ∈ xs, f x = k <$> g x) : xs.mapM f = List.map k <$> xs.mapM g := by
  induction xs with
  | nil => rfl
  | cons x xs ih =>
    obtain ⟨hx, hxs⟩ := List.forall_mem_cons.1 h
    rw [List.mapM_cons, List.mapM_cons, hx, ih hxs]
    cases g x with
    | error e => rfl
    | ok y =>
      cases xs.mapM g with
      | error e => rfl
      | ok ys => rfl

/-- A list of results has all of them exactly when each is there. -/
theorem mapM_id_eq_some_iff {os : List (Option α)} {xs : List α} :
    os.mapM id = some xs ↔ os = xs.map some := by
  induction os generalizing xs with
  | nil =>
    rw [List.mapM_nil]
    cases xs with
    | nil => simp
    | cons x xs => simp
  | cons o os ih =>
    cases o with
    | none =>
      rw [List.mapM_cons]
      cases xs <;> simp
    | some y =>
      rw [List.mapM_cons]
      cases xs with
      | nil => simp [Option.bind_eq_some_iff]
      | cons x xs => simp [Option.bind_eq_some_iff, ih, and_comm]

/-- A check that succeeds on every item keeps the items on which it says so. -/
theorem filterM_eq_ok {f : α → Except ε Bool} {keep : α → Bool} {xs : List α}
    (h : ∀ x ∈ xs, f x = .ok (keep x)) : xs.filterM f = .ok (xs.filter keep) := by
  -- What has been kept so far is collected in reverse.
  have hrun : ∀ (ys kept : List α), (∀ y ∈ ys, f y = .ok (keep y)) →
      ys.filterAuxM f kept = .ok ((ys.filter keep).reverse ++ kept) := by
    intro ys
    induction ys with
    | nil =>
      intro kept _
      rfl
    | cons y ys ih =>
      intro kept hys
      have hrest := ih (bif keep y then y :: kept else kept)
        (fun z hz => hys z (List.mem_cons_of_mem y hz))
      rw [List.filterAuxM, hys y List.mem_cons_self]
      cases hkeep : keep y with
      | true =>
        rw [hkeep] at hrest
        rw [List.filter_cons_of_pos hkeep, List.reverse_cons, List.append_assoc]
        exact hrest
      | false =>
        rw [hkeep] at hrest
        rw [List.filter_cons_of_neg (by simp [hkeep])]
        exact hrest
  have hall := hrun xs [] h
  rw [List.append_nil] at hall
  rw [List.filterM, hall]
  change Except.ok (xs.filter keep).reverse.reverse = _
  rw [List.reverse_reverse]

end ElementQuery
