import ElementQuery.Proofs.Notation.Spelling
import ElementQuery.Proofs.Outcome
import ElementQuery.Selector.Basic
import Std.Data.String.ToInt

/-!
# What a selector has to tell

A selector is written from what the entries of a query ask for. Both languages write positions in
the same way, and both take names as they are, so that only names that could be keywords keep a
selector readable.

## Main definitions

* `Ask` : what an entry asks for.

## Main statements

* `toList_join_checks` : the checks of a selector are what the entries ask for, one by one.
* `append_cons_inj` : where a mark stands behind texts without it, the texts are known.
* `toString_append_inj` : a written number in front of a mark is known.
* `flatMap_injective` : a text that tells its first part tells all of its parts.
-/

namespace ElementQuery

open ElementQuery.Notation ElementQuery.Number ElementQuery.Text

/-- What an entry of a query asks for: a position, or a field with a text. -/
inductive Ask where
  | position (n : Int)
  | field (name text : String)

/-- What an entry asks for. -/
def Predicate.ask (p : Predicate) : Ask :=
  match p.kind, p.criterion with
  | .index, .index n => .position n
  | _, c => .field p.name c.text

/-- The entry of an index asks for a position. -/
theorem Predicate.ask_of_index {p : Predicate} {n : Int} (hkind : p.kind = .index)
    (hcriterion : p.criterion = .index n) : p.ask = .position n := by
  rw [ask, hkind, hcriterion]

/-- Any other entry asks for a field with a text. -/
theorem Predicate.ask_of_ne_index {p : Predicate} (hkind : p.kind ≠ .index) :
    p.ask = .field p.name p.criterion.text := by
  rw [ask]
  split
  · next h _ => exact absurd h hkind
  · rfl

theorem Predicate.ask_name {p : Predicate} {name text : String} (h : p.ask = .field name text) :
    p.name = name := by
  rw [ask] at h
  split at h
  · cases h
  · cases h
    rfl

/-- What can be asked for so that its name could be a keyword. -/
def Ask.IsReadable : Ask → Prop
  | position _ => True
  | field name _ => IsKeywordText name

/-- What is asked for by a keyword can be read back. -/
theorem Predicate.isReadable_ask {p : Predicate} (h : IsKeywordText p.name) :
    p.ask.IsReadable := by
  cases hask : p.ask with
  | position n => trivial
  | field name text => exact ask_name hask ▸ h

/-- Only a position can be written as one, counted from 1. -/
theorem Criterion.ordinal_eq_ok {c : Criterion} {s : String} (h : c.ordinal = .ok s) :
    ∃ n, c = .index n ∧ s = toString (n + 1) := by
  cases c with
  | index n =>
    exact ⟨n, rfl, (Number.writeInt?_eq_some_iff.1 (written_eq_ok_iff.1 h)).2⟩
  | literal | pattern => cases h

theorem Query.checks_withoutTag (q : Query) : q.withoutTag.checks = q.checks := by
  simp only [checks, withoutTag, without, List.filter_filter]
  refine List.filter_congr ?_
  intro p _
  cases p.kind <;> rfl

/-- The checks of a selector, one after the other, are written as what the entries ask for. -/
theorem toList_join_checks {check : Predicate → Except Fault String} {chars : Predicate → List Char}
    {ps : List Predicate} {texts : List String}
    (hcheck : ∀ p ∈ ps, ∀ s, check p = .ok s → s.toList = chars p)
    (h : ps.mapM check = .ok texts) : (String.join texts).toList = ps.flatMap chars := by
  rw [String.toList_join]
  have hall := mapM_eq_ok_iff.1 h
  clear h
  induction hall with
  | nil => rfl
  | @cons p s ps texts hp _ ih =>
    rw [List.flatMap_cons, List.flatMap_cons, hcheck p List.mem_cons_self s hp,
      ih fun q hq => hcheck q (List.mem_cons_of_mem p hq)]

/-- Where the same mark stands behind two texts without it, the texts are the same. -/
theorem append_cons_inj {α : Type} {x : α} {as bs rest rest' : List α} (ha : x ∉ as) (hb : x ∉ bs)
    (h : as ++ x :: rest = bs ++ x :: rest') : as = bs ∧ rest = rest' := by
  induction as generalizing bs with
  | nil =>
    cases bs with
    | nil => exact ⟨rfl, (List.cons.inj h).2⟩
    | cons b bs =>
      obtain ⟨rfl, _⟩ := List.cons.inj h
      exact absurd List.mem_cons_self hb
  | cons a as ih =>
    cases bs with
    | nil =>
      obtain ⟨rfl, _⟩ := List.cons.inj h
      exact absurd List.mem_cons_self ha
    | cons b bs =>
      obtain ⟨rfl, htail⟩ := List.cons.inj h
      obtain ⟨rfl, rfl⟩ := ih (fun hx => ha (List.mem_cons_of_mem a hx))
        (fun hx => hb (List.mem_cons_of_mem a hx)) htail
      exact ⟨rfl, rfl⟩

/-- A whole number is written in digits, with a minus at most. -/
theorem mem_toString {n : Int} {c : Char} (h : c ∈ (toString n).toList) :
    c = '-' ∨ isAsciiDigit c = true := by
  cases n with
  | ofNat m =>
    right
    have hdigits : (toString (Int.ofNat m)).toList = Nat.toDigits 10 m := by
      change (Nat.repr m).toList = _
      simp [Nat.repr]
    rw [hdigits] at h
    exact isAsciiDigit_of_mem_toDigits h
  | negSucc m =>
    have hdigits : (toString (Int.negSucc m)).toList = '-' :: Nat.toDigits 10 (m + 1) := by
      change ("-" ++ Nat.repr (m + 1)).toList = _
      simp [Nat.repr]
    rw [hdigits] at h
    rcases List.mem_cons.1 h with rfl | h
    · exact .inl rfl
    · exact .inr (isAsciiDigit_of_mem_toDigits h)

theorem not_mem_toString {n : Int} {c : Char} (hsign : c ≠ '-') (hdigit : isAsciiDigit c = false) :
    c ∉ (toString n).toList := by
  intro h
  rcases mem_toString h with rfl | h
  · exact hsign rfl
  · rw [hdigit] at h
    cases h

/-- A number that is written in front of a mark is known. -/
theorem toString_append_inj {m n : Int} {x : Char} {rest rest' : List Char} (hsign : x ≠ '-')
    (hdigit : isAsciiDigit x = false)
    (h : (toString m).toList ++ x :: rest = (toString n).toList ++ x :: rest') :
    m = n ∧ rest = rest' := by
  obtain ⟨hnumber, hrest⟩ :=
    append_cons_inj (not_mem_toString hsign hdigit) (not_mem_toString hsign hdigit) h
  exact ⟨Int.repr_injective (String.toList_injective hnumber), hrest⟩

/-- Two texts that could be keywords, in front of what cannot go on with a keyword, are the
same. -/
theorem keywordText_append_inj {s t : String} {rest rest' : List Char} (hs : IsKeywordText s)
    (ht : IsKeywordText t) (hrest : IsBoundary rest) (hrest' : IsBoundary rest')
    (h : s.toList ++ rest = t.toList ++ rest') : s = t ∧ rest = rest' := by
  have htake : s.toList = t.toList := by
    rw [← takeWhile_append_eq hs hrest, h, takeWhile_append_eq ht hrest']
  rw [htake] at h
  exact ⟨String.toList_injective htake, List.append_cancel_left h⟩

/-- If the text of a sequence tells its first part and the text behind it, the text tells the
sequence. -/
theorem flatMap_injective {α : Type} {chars : α → List Char} {readable : α → Prop}
    (hne : ∀ a, chars a ≠ [])
    (hcons : ∀ a b as bs, readable a → readable b → (∀ c ∈ as, readable c) →
      (∀ c ∈ bs, readable c) → (a :: as).flatMap chars = (b :: bs).flatMap chars →
      a = b ∧ as.flatMap chars = bs.flatMap chars)
    {as bs : List α} (has : ∀ a ∈ as, readable a) (hbs : ∀ b ∈ bs, readable b)
    (h : as.flatMap chars = bs.flatMap chars) : as = bs := by
  have hsome : ∀ a rest, (a :: rest).flatMap chars ≠ [] := by
    intro a rest hnil
    rw [List.flatMap_cons] at hnil
    exact hne a (List.append_eq_nil_iff.1 hnil).1
  induction as generalizing bs with
  | nil =>
    cases bs with
    | nil => rfl
    | cons b bs => exact absurd h.symm (hsome b bs)
  | cons a as ih =>
    cases bs with
    | nil => exact absurd h (hsome a as)
    | cons b bs =>
      rw [List.forall_mem_cons] at has hbs
      obtain ⟨rfl, hrest⟩ := hcons a b as bs has.1 hbs.1 has.2 hbs.2 h
      rw [ih has.2 hbs.2 hrest]

end ElementQuery
