import ElementQuery.Proofs.Number.Numerals
import ElementQuery.Proofs.Query.Acceptance

/-!
# Values that can be written

A whole number with too many digits cannot be written, and neither can a list or a keyed value that
holds one. All other values can. Where the keys can be written and the values can be shown, making a
query of them fails with a complaint about one of them, and with nothing else.

## Main definitions

* `Value.IsShowable` : the values that a message can show.
* `Value.IsWritable` : those that, as an index, spell nothing that is too long either.

## Main statements

* `Value.isSome_shown?_iff` : the values that are shown are these.
* `Query.exists_invalid_of_ofPairs` : pairs that can be written fail with a complaint.
-/

namespace ElementQuery

open ElementQuery.Number

/-- The numbers and texts that can be written. -/
def Scalar.IsShowable : Scalar → Prop
  | int n => Printable n
  | float _ | text _ => True

/-- The values that a message can show: no whole number in them has too many digits. -/
inductive Value.IsShowable : Value → Prop where
  | none : IsShowable .none
  | bool (b : Bool) : IsShowable (.bool b)
  | int {n : Int} (h : Printable n) : IsShowable (.int n)
  | float (x : Binary64) : IsShowable (.float x)
  | text (s : String) : IsShowable (.text s)
  | regex (r : Regex) : IsShowable (.regex r)
  | symbol {v : Value} (h : IsShowable v) : IsShowable (.symbol v)
  | member {scalar : Scalar} (h : scalar.IsShowable) (byName : Bool) :
      IsShowable (.member scalar byName)
  | list {items : List Value} (h : ∀ v ∈ items, IsShowable v) : IsShowable (.list items)
  | dict {entries : List (Value × Value)} (hkeys : ∀ e ∈ entries, IsShowable e.1)
      (hvalues : ∀ e ∈ entries, IsShowable e.2) : IsShowable (.dict entries)
  | criterion {c : Criterion} (h : ∀ n, c = .index n → Printable n) : IsShowable (.criterion c)

/-- The values that can be shown and that spell no negative number with too many digits. -/
structure Value.IsWritable (v : Value) : Prop where
  showable : v.IsShowable
  position : ∀ n, positionOf? v = some n → n < 0 → Printable n

theorem isSome_writeInt?_iff {n : Int} : (writeInt? n).isSome = true ↔ Printable n := by
  simp only [Option.isSome_iff_exists, writeInt?_eq_some_iff, exists_and_left, exists_eq, and_true]

/-- A number or a text is shown exactly if it can be. -/
theorem Scalar.isSome_shown?_iff (scalar : Scalar) :
    scalar.shown?.isSome = true ↔ scalar.IsShowable := by
  cases scalar with
  | int n => exact isSome_writeInt?_iff
  | float x => exact iff_of_true rfl trivial
  | text s => exact iff_of_true rfl trivial

/-- A criterion is shown unless it is an index with too many digits. -/
theorem Criterion.isSome_shown?_iff (c : Criterion) :
    c.shown?.isSome = true ↔ ∀ n, c = .index n → Printable n := by
  cases c with
  | index n =>
    simp only [shown?, Option.map_eq_map, Option.isSome_map, isSome_writeInt?_iff]
    exact ⟨fun h m hm => Criterion.index.inj hm ▸ h, fun h => h n rfl⟩
  | literal | pattern => exact iff_of_true rfl nofun

namespace Value

mutual

/-- A value is shown exactly if it can be. -/
theorem isSome_shown?_iff : ∀ v : Value, v.shown?.isSome = true ↔ v.IsShowable
  | .none => iff_of_true rfl .none
  | .bool b => iff_of_true rfl (.bool b)
  | .int n => isSome_writeInt?_iff.trans ⟨.int, fun | .int h => h⟩
  | .float x => iff_of_true rfl (.float x)
  | .text s => iff_of_true rfl (.text s)
  | .regex r => iff_of_true rfl (.regex r)
  | .symbol v => by
    rw [shown?, Option.map_eq_map, Option.isSome_map, isSome_shown?_iff v]
    exact ⟨.symbol, fun | .symbol h => h⟩
  | .member scalar byName => by
    rw [shown?, Option.map_eq_map, Option.isSome_map, scalar.isSome_shown?_iff]
    exact ⟨fun h => .member h byName, fun | .member h _ => h⟩
  | .list items => by
    rw [shown?, Option.map_eq_map, Option.isSome_map, isSome_shownItems?_iff items]
    exact ⟨.list, fun | .list h => h⟩
  | .dict entries => by
    rw [shown?, Option.map_eq_map, Option.isSome_map, isSome_shownEntries?_iff entries]
    exact ⟨fun h => .dict (fun e he => (h e he).1) fun e he => (h e he).2,
      fun | .dict hkeys hvalues => fun e he => ⟨hkeys e he, hvalues e he⟩⟩
  | .criterion c => c.isSome_shown?_iff.trans ⟨.criterion, fun | .criterion h => h⟩

theorem isSome_shownItems?_iff : ∀ items : List Value,
    (shownItems? items).isSome = true ↔ ∀ v ∈ items, v.IsShowable
  | [] => iff_of_true rfl nofun
  | v :: rest => by
    rw [List.forall_mem_cons, ← isSome_shown?_iff v, ← isSome_shownItems?_iff rest, shownItems?]
    cases v.shown? <;> cases shownItems? rest <;> simp

theorem isSome_shownEntries?_iff : ∀ entries : List (Value × Value),
    (shownEntries? entries).isSome = true ↔ ∀ e ∈ entries, e.1.IsShowable ∧ e.2.IsShowable
  | [] => iff_of_true rfl nofun
  | (k, v) :: rest => by
    rw [List.forall_mem_cons, ← isSome_shown?_iff k, ← isSome_shown?_iff v,
      ← isSome_shownEntries?_iff rest, shownEntries?]
    cases k.shown? <;> cases v.shown? <;> cases shownEntries? rest <;> simp

end

/-- A value that can be shown can be given as text. -/
theorem IsShowable.isSome_display? {v : Value} (h : v.IsShowable) : v.display?.isSome = true := by
  cases v with
  | text s => rfl
  | symbol v => rfl
  | member scalar byName =>
    cases h with
    | member hscalar =>
      cases byName with
      | true => rfl
      | false =>
        cases scalar with
        | int n => exact isSome_writeInt?_iff.2 hscalar
        | float | text => rfl
  | _ => exact (isSome_shown?_iff _).2 h

/-- What a value that can be shown stands for can be shown, too. -/
theorem IsShowable.meaning {v : Value} (h : v.IsShowable) : v.meaning.IsShowable := by
  cases v with
  | symbol v =>
    cases h with
    | symbol h => exact h
  | member scalar byName =>
    cases h with
    | member hscalar =>
      cases scalar with
      | int n => exact .int hscalar
      | float x => exact .float x
      | text s => exact .text s
  | _ => exact h

/-- A value that can be shown has a name. -/
theorem IsShowable.isSome_symbolName? {v : Value} (h : v.IsShowable) :
    v.symbolName?.isSome = true := by
  rw [symbolName?]
  split
  · rfl
  · exact h.meaning.isSome_display?

/-- Every text can be written, whatever number it spells. -/
theorem isWritable_text (s : String) : (Value.text s).IsWritable :=
  ⟨.text s, fun _ h _ => printable_of_readInt? h⟩

theorem isWritable_int {n : Int} (h : Printable n) : (Value.int n).IsWritable :=
  ⟨.int h, fun _ hn _ => Option.some.inj hn ▸ h⟩

theorem isWritable_regex (r : Regex) : (Value.regex r).IsWritable := ⟨.regex r, nofun⟩

end Value

/-- What can be written and makes no criterion of an index is complained about under it. -/
theorem Criterion.exists_invalid_of_ofIndex {v : Value} {e : Fault} (hv : v.IsWritable)
    (h : Criterion.ofIndex v = .error e) :
    ∃ cause, e = .invalidValue cause ∧ cause.field? = some "index" := by
  rw [ofIndex] at h
  cases hposition : positionOf? v with
  | none =>
    obtain ⟨shown, hshown⟩ := Option.isSome_iff_exists.1 (v.isSome_shown?_iff.2 hv.showable)
    rw [hposition, hshown] at h
    cases h
    exact ⟨_, rfl, rfl⟩
  | some n =>
    rw [hposition] at h
    dsimp only at h
    by_cases hneg : n < 0
    · rw [if_pos hneg, writeInt?_eq_some (hv.position n hposition hneg)] at h
      cases h
      exact ⟨_, rfl, rfl⟩
    · rw [if_neg hneg] at h
      cases h

/-- What can be written and makes no criterion is complained about. -/
theorem Criterion.exists_invalid_of_ofValue {kind : Kind} {v : Value} {e : Fault}
    (hv : v.IsWritable) (h : Criterion.ofValue kind v = .error e) :
    ∃ cause, e = .invalidValue cause := by
  unfold Criterion.ofValue at h
  split at h
  · cases h
  · cases h
  · split at h
    · obtain ⟨cause, he, -⟩ := exists_invalid_of_ofIndex hv h
      exact ⟨cause, he⟩
    · split at h
      · cases h
        exact ⟨_, rfl⟩
      · obtain ⟨hnone, -⟩ := written_eq_error_iff.1 (map_eq_error_iff.1 h)
        have hname := hv.showable.isSome_symbolName?
        rw [hnone] at hname
        cases hname

/-- Pairs that can be written and make no query are complained about. -/
theorem Query.exists_invalid_of_ofPairs {pairs : List (Value × Value)} {e : Fault}
    (hpairs : ∀ pair ∈ pairs, (entryName? pair).isSome = true ∧ pair.2.IsWritable)
    (h : Query.ofPairs pairs = .error e) : ∃ cause, e = .invalidValue cause := by
  obtain ⟨before, pair, after, rfl, -, hbreaks⟩ := Query.ofPairs_eq_error_iff.1 h
  obtain ⟨hname, hvalue⟩ := hpairs pair (by simp)
  cases hbreaks with
  | unwritable hnone =>
    rw [hnone] at hname
    cases hname
  | noName => exact ⟨_, rfl⟩
  | taken => exact ⟨_, rfl⟩
  | badValue _ _ _ hbad => exact Criterion.exists_invalid_of_ofValue hvalue hbad

end ElementQuery
