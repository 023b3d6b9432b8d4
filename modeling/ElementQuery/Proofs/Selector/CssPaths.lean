import ElementQuery.Proofs.Selector.CssReadings

/-!
# CSS selectors tell their queries

The selector of an ancestry is a sequence of marks: the names of the levels, and what is asked for
on each level. The first character of a mark says of which sort it is, and each mark is told by the
text from there on, so that the selector tells the levels with what they ask for.

## Main definitions

* `Mark`, `render` : marks, and how they are written.
* `Query.outline` : the name of a level with what the level asks for.
* `Query.HasKeywordNames` : the queries whose names could be written as keywords.

## Main statements

* `render_injective` : a text tells the marks that it was written from.
* `path_injective` : the selector of an ancestry tells the outlines of its levels.
-/

namespace ElementQuery

open ElementQuery.Notation ElementQuery.Text

/-- The name of the element that a query means, with what the query asks for. -/
def Query.outline (q : Query) : String × List Ask := (q.tagName, q.checks.map Predicate.ask)

/-- The queries whose names could be written as keywords. Without a tag the name of the element is
`*`, which could be. -/
structure Query.HasKeywordNames (q : Query) : Prop where
  tagName_ne : q.tagName ≠ ""
  tagName : IsKeywordText q.tagName
  names : ∀ p ∈ q.checks, IsKeywordText p.name

namespace Css

/-- A part of a selector: the start of a level, or what is asked for on a level. -/
inductive Mark where
  | level (tag : String)
  | ask (a : Ask)

/-- How a mark is written. A space stands in front of every level. -/
def Mark.chars : Mark → List Char
  | level tag => ' ' :: tag.toList
  | ask (.position n) => ":nth-child(".toList ++ ((toString (n + 1)).toList ++ [')'])
  | ask (.field name text) => '[' :: (name.toList ++ '=' :: (quoteChars text.toList ++ [']']))

theorem chars_position (n : Int) : (Mark.ask (.position n)).chars =
    ":nth-child(".toList ++ ((toString (n + 1)).toList ++ [')']) := rfl

theorem chars_field (name text : String) : (Mark.ask (.field name text)).chars =
    '[' :: (name.toList ++ '=' :: (quoteChars text.toList ++ [']'])) := rfl

/-- The marks whose names could be keywords. -/
def Mark.IsReadable : Mark → Prop
  | level tag => IsKeywordText tag
  | ask a => a.IsReadable

/-- How marks are written. -/
def render (marks : List Mark) : List Char := marks.flatMap Mark.chars

theorem render_level (tag : String) (marks : List Mark) :
    render (.level tag :: marks) = ' ' :: (tag.toList ++ render marks) := rfl

theorem render_position (n : Int) (marks : List Mark) :
    render (.ask (.position n) :: marks) =
      ":nth-child(".toList ++ ((toString (n + 1)).toList ++ ')' :: render marks) := by
  rw [render, List.flatMap_cons, chars_position, List.append_assoc, List.append_assoc,
    List.singleton_append, render]

theorem render_field (name text : String) (marks : List Mark) :
    render (.ask (.field name text) :: marks) =
      '[' :: (name.toList ++ '=' :: '\'' ::
        (text.toList.flatMap escape ++ '\'' :: ']' :: render marks)) := by
  have hstring : quoteChars text.toList ++ (']' :: render marks) =
      '\'' :: (text.toList.flatMap escape ++ '\'' :: ']' :: render marks) := by
    rw [quoteChars, List.append_assoc, List.cons_append, List.singleton_append]
  rw [← hstring, render, List.flatMap_cons, chars_field, List.cons_append, List.append_assoc,
    List.cons_append, List.append_assoc, List.singleton_append, render]

theorem isBoundary_render (marks : List Mark) : IsBoundary (render marks) := by
  cases marks with
  | nil =>
    intro c hc
    cases hc
  | cons mark marks =>
    match mark with
    | .level tag =>
      rw [render_level]
      exact isBoundary_cons.2 (by decide)
    | .ask (.position n) =>
      rw [render_position]
      exact isBoundary_cons.2 (by decide)
    | .ask (.field name text) =>
      rw [render_field]
      exact isBoundary_cons.2 (by decide)

theorem head?_render_ne (marks : List Mark) : (render marks).head? ≠ some ']' := by
  match marks with
  | [] => simp [render]
  | .level tag :: marks => simp [render_level]
  | .ask (.position n) :: marks => simp [render_position]
  | .ask (.field name text) :: marks => simp [render_field]

theorem isOutside_render {marks : List Mark} (h : ∀ mark ∈ marks, mark.IsReadable) :
    IsOutside (render marks) := by
  induction marks with
  | nil => exact .nil
  | cons mark marks ih =>
    obtain ⟨hmark, hmarks⟩ := List.forall_mem_cons.1 h
    have hmarks := ih hmarks
    match mark with
    | .level tag =>
      rw [render_level, ← List.cons_append]
      refine hmarks.append ?_ (head?_render_ne marks)
      rw [List.mem_cons, not_or]
      exact ⟨by decide, not_mem_of_isKeywordChar (by decide) hmark⟩
    | .ask (.position n) =>
      have hparen : IsOutside (')' :: render marks) :=
        .plain (fun hc => absurd hc (by decide)) hmarks
      rw [render_position, ← List.append_assoc]
      refine hparen.append ?_ (by simp)
      rw [List.mem_append, not_or]
      exact ⟨by decide, not_mem_toString (by decide) (by decide)⟩
    | .ask (.field name text) =>
      rw [render_field, ← List.cons_append]
      refine IsOutside.append (.string hmarks) ?_ (by simp)
      rw [List.mem_cons, not_or]
      exact ⟨by decide, not_mem_of_isKeywordChar (by decide) hmark⟩

/-- Where a name ends, no matter which apostrophes it holds. -/
theorem name_append_inj {k v w r rest : List Char} (hk : ']' ∉ k) (hr : IsOutside r)
    (hrest : IsOutside rest)
    (h : '=' :: '\'' :: (v.flatMap escape ++ '\'' :: ']' :: r) =
      k ++ '=' :: '\'' :: (w.flatMap escape ++ '\'' :: ']' :: rest)) : k = [] := by
  -- What lies behind the start of the string is inside of it or outside, by the reading.
  have hinside : ∀ p, ']' ∉ p →
      p ++ '=' :: '\'' :: (w.flatMap escape ++ '\'' :: ']' :: rest) ≠
        v.flatMap escape ++ '\'' :: ']' :: r := by
    intro p hp
    exact IsOutside.ne_string v (IsOutside.append (.string hrest) hp (by simp)) hr
  match k with
  | [] => rfl
  | [c] =>
    have hquote := (List.cons.inj h).2
    exact absurd (List.cons.inj hquote).1 (by decide)
  | c :: d :: p =>
    obtain ⟨_, htail⟩ := List.cons.inj h
    obtain ⟨_, hinner⟩ := List.cons.inj htail
    rw [List.mem_cons, List.mem_cons, not_or, not_or] at hk
    exact absurd hinner.symm (hinside p hk.2.2)

/-- A field is told by how it is written, and so is what stands behind it. -/
theorem field_append_inj {m m' v w r rest : List Char} (hm : ']' ∉ m) (hm' : ']' ∉ m')
    (hr : IsOutside r) (hrest : IsOutside rest)
    (h : m ++ '=' :: '\'' :: (v.flatMap escape ++ '\'' :: ']' :: r) =
      m' ++ '=' :: '\'' :: (w.flatMap escape ++ '\'' :: ']' :: rest)) :
    m = m' ∧ v = w ∧ r = rest := by
  have hname : m = m' := by
    rcases List.append_eq_append_iff.1 h with ⟨k, rfl, hk⟩ | ⟨k, rfl, hk⟩
    · rw [List.mem_append, not_or] at hm'
      rw [name_append_inj hm'.2 hr hrest hk, List.append_nil]
    · rw [List.mem_append, not_or] at hm
      rw [name_append_inj hm.2 hrest hr hk, List.append_nil]
  subst hname
  have hstring := (List.cons.inj (List.cons.inj (List.append_cancel_left h)).2).2
  obtain ⟨rfl, hbehind⟩ := escapes_append_inj hstring
  exact ⟨rfl, rfl, (List.cons.inj hbehind).2⟩

theorem chars_ne_nil (mark : Mark) : mark.chars ≠ [] := by
  match mark with
  | .level tag => exact List.cons_ne_nil _ _
  | .ask (.position n) => simp [chars_position]
  | .ask (.field name text) => exact List.cons_ne_nil _ _

/-- The first mark is told by a text, and what lies behind it. -/
theorem render_cons_inj {mark mark' : Mark} {marks marks' : List Mark} (hmark : mark.IsReadable)
    (hmark' : mark'.IsReadable) (hmarks : ∀ m ∈ marks, m.IsReadable)
    (hmarks' : ∀ m ∈ marks', m.IsReadable) (h : render (mark :: marks) = render (mark' :: marks')) :
    mark = mark' ∧ render marks = render marks' := by
  -- Marks of different sorts start with different characters.
  match mark, mark' with
  | .level tag, .level tag' =>
    rw [render_level, render_level] at h
    obtain ⟨rfl, hrest⟩ := keywordText_append_inj hmark hmark' (isBoundary_render marks)
      (isBoundary_render marks') (List.cons.inj h).2
    exact ⟨rfl, hrest⟩
  | .ask (.position n), .ask (.position n') =>
    rw [render_position, render_position] at h
    obtain ⟨hnumber, hrest⟩ :=
      toString_append_inj (by decide) (by decide) (List.append_cancel_left h)
    rw [(Int.add_left_inj 1).1 hnumber]
    exact ⟨rfl, hrest⟩
  | .ask (.field name text), .ask (.field name' text') =>
    rw [render_field, render_field] at h
    obtain ⟨hname, htext, hrest⟩ := field_append_inj
      (not_mem_of_isKeywordChar (by decide) hmark) (not_mem_of_isKeywordChar (by decide) hmark')
      (isOutside_render hmarks) (isOutside_render hmarks') (List.cons.inj h).2
    rw [String.toList_injective hname, String.toList_injective htext]
    exact ⟨rfl, hrest⟩
  | .level _, .ask (.position _) => cases h
  | .level _, .ask (.field _ _) => cases h
  | .ask (.position _), .level _ => cases h
  | .ask (.position _), .ask (.field _ _) => cases h
  | .ask (.field _ _), .level _ => cases h
  | .ask (.field _ _), .ask (.position _) => cases h

/-- A text tells the marks that it was written from. -/
theorem render_injective {marks marks' : List Mark} (hmarks : ∀ mark ∈ marks, mark.IsReadable)
    (hmarks' : ∀ mark ∈ marks', mark.IsReadable) (h : render marks = render marks') :
    marks = marks' :=
  flatMap_injective chars_ne_nil (fun _ _ _ _ => render_cons_inj) hmarks hmarks' h

/-- A check is written as the mark of what it asks for. -/
theorem chars_of_check {p : Predicate} {s : String} (h : check p = .ok s) :
    s.toList = (Mark.ask p.ask).chars := by
  have hfield : p.kind ≠ .index → s = "[" ++ p.name ++ "=" ++ quote p.criterion.text ++ "]" →
      s.toList = (Mark.ask p.ask).chars := by
    rintro hkind rfl
    rw [Predicate.ask_of_ne_index hkind, chars_field]
    simp [quote]
  rw [check] at h
  split at h
  · cases h
  · next hkind =>
    obtain ⟨ordinal, hordinal, rfl⟩ := map_eq_ok_iff.1 h
    obtain ⟨n, hcriterion, rfl⟩ := Criterion.ordinal_eq_ok hordinal
    rw [Predicate.ask_of_index hkind hcriterion, chars_position]
    simp
  · next hkind =>
    cases h
    exact hfield hkind rfl

/-- The marks of a level. -/
def levelMarks (outline : String × List Ask) : List Mark :=
  .level outline.1 :: outline.2.map .ask

/-- The selector of a query is its marks, with a blank in front. -/
theorem render_levelMarks {q : Query} {s : String}
    (h : selector (.text q.tagName) q = .ok (some s)) :
    ' ' :: s.toList = render (levelMarks q.outline) := by
  rw [selector] at h
  split at h
  · cases h
  · obtain ⟨name, hname, h⟩ := bind_eq_ok_iff.1 h
    cases hname
    obtain ⟨behind, hbehind, h⟩ := bind_eq_ok_iff.1 h
    obtain ⟨_, _, hbehind⟩ := bind_eq_ok_iff.1 hbehind
    obtain ⟨texts, htexts, hbehind⟩ := bind_eq_ok_iff.1 hbehind
    cases hbehind
    cases h
    rw [Query.checks_withoutTag] at htexts
    have hjoin := toList_join_checks (fun p _ s hs => chars_of_check hs) htexts
    rw [levelMarks, Query.outline, render_level, String.toList_append, hjoin, render,
      List.flatMap_map, List.flatMap_map]

/-- The selectors of levels, each behind a space, are written from the marks of the levels. -/
theorem render_levels {levels : List Query} {texts : List String}
    (h : List.Forall₂ (fun q t => selector (.text q.tagName) q = .ok (some t)) levels texts) :
    texts.flatMap (fun t => ' ' :: t.toList) =
      render ((levels.map Query.outline).flatMap levelMarks) := by
  induction h with
  | nil => rfl
  | @cons q t levels texts hq _ ih =>
    rw [List.flatMap_cons, ih, render_levelMarks hq, List.map_cons, List.flatMap_cons]
    exact List.flatMap_append.symm

/-- Texts with a space between them are texts behind a space each, but for the first space. -/
theorem cons_intercalate_eq_flatMap {texts : List (List Char)} (h : texts ≠ []) :
    ' ' :: [' '].intercalate texts = texts.flatMap (' ' :: ·) := by
  induction texts with
  | nil => exact absurd rfl h
  | cons t texts ih =>
    cases texts with
    | nil => simp
    | cons u texts =>
      rw [List.intercalate_cons_cons, List.flatMap_cons, ← ih (by simp)]
      simp

/-- The selector of an ancestry is the marks of its levels. -/
theorem render_of_path {a : Ancestry} {s : String} (h : path a = .ok (some s)) :
    a.levels = [] ∧ s = "" ∨
      ' ' :: s.toList = render ((a.levels.map Query.outline).flatMap levelMarks) := by
  obtain ⟨_, _, h⟩ := bind_eq_ok_iff.1 h
  split at h
  · cases h
  · obtain ⟨selectors, hselectors, h⟩ := bind_eq_ok_iff.1 h
    -- Without regular expressions there is a selector for every level.
    obtain ⟨texts, htexts, rfl⟩ := Option.map_eq_some_iff.1 (Except.ok.inj h)
    rw [mapM_id_eq_some_iff.1 htexts, mapM_eq_ok_iff, List.forall₂_map_right_iff] at hselectors
    cases texts with
    | nil =>
      left
      exact ⟨List.forall₂_nil_right_iff.1 hselectors, rfl⟩
    | cons t texts =>
      right
      rw [String.toList_intercalate, ← render_levels hselectors]
      have hne : (t :: texts).map String.toList ≠ [] := by simp
      have hspaces := cons_intercalate_eq_flatMap hne
      rw [List.flatMap_map] at hspaces
      exact hspaces

/-- The marks of a level are told from those of the levels behind it. -/
theorem asks_append_inj {as as' : List Ask} {levels levels' : List (String × List Ask)}
    (h : as.map Mark.ask ++ levels.flatMap levelMarks =
      as'.map Mark.ask ++ levels'.flatMap levelMarks) :
    as = as' ∧ levels.flatMap levelMarks = levels'.flatMap levelMarks := by
  induction as generalizing as' with
  | nil =>
    cases as' with
    | nil => exact ⟨rfl, h⟩
    | cons a' as' => cases levels <;> cases h
  | cons a as ih =>
    cases as' with
    | nil => cases levels' <;> cases h
    | cons a' as' =>
      obtain ⟨hhead, htail⟩ := List.cons.inj h
      obtain ⟨rfl, hlevels⟩ := ih htail
      exact ⟨by rw [Mark.ask.inj hhead], hlevels⟩

/-- Levels are told by their marks. -/
theorem flatMap_levelMarks_injective {levels levels' : List (String × List Ask)}
    (h : levels.flatMap levelMarks = levels'.flatMap levelMarks) : levels = levels' := by
  induction levels generalizing levels' with
  | nil =>
    cases levels' with
    | nil => rfl
    | cons => cases h
  | cons level levels ih =>
    cases levels' with
    | nil => cases h
    | cons level' levels' =>
      obtain ⟨htag, hasks⟩ := List.cons.inj h
      obtain ⟨hasks, hlevels⟩ := asks_append_inj hasks
      rw [Prod.ext (Mark.level.inj htag) hasks, ih hlevels]

/-- The marks of levels whose names are keywords can be read back. -/
theorem isReadable_of_hasKeywordNames {levels : List Query}
    (h : ∀ q ∈ levels, q.HasKeywordNames) :
    ∀ mark ∈ (levels.map Query.outline).flatMap levelMarks, mark.IsReadable := by
  intro mark hmark
  obtain ⟨_, houtline, hmark⟩ := List.mem_flatMap.1 hmark
  obtain ⟨q, hq, rfl⟩ := List.mem_map.1 houtline
  rcases List.mem_cons.1 hmark with rfl | hmark
  · exact (h q hq).tagName
  · obtain ⟨ask, hask, rfl⟩ := List.mem_map.1 hmark
    obtain ⟨p, hp, rfl⟩ := List.mem_map.1 hask
    exact Predicate.isReadable_ask ((h q hq).names p hp)

theorem render_levels_ne {levels : List Query} (h : ∀ q ∈ levels, q.HasKeywordNames) :
    [' '] ≠ render ((levels.map Query.outline).flatMap levelMarks) := by
  intro heq
  cases levels with
  | nil => cases heq
  | cons q levels =>
    have htag := (List.append_eq_nil_iff.1 (List.cons.inj heq).2.symm).1
    exact (h q List.mem_cons_self).tagName_ne (String.toList_injective htag)

/-- If two ancestries whose names could be keywords have the same selector, they have as many
levels, and on each level the same element name and the same entries: as many of them, in the same
order, with the same names and texts or positions. -/
theorem path_injective {a b : Ancestry} {s : String} (ha : ∀ q ∈ a.levels, q.HasKeywordNames)
    (hb : ∀ q ∈ b.levels, q.HasKeywordNames) (hsa : path a = .ok (some s))
    (hsb : path b = .ok (some s)) : a.levels.map Query.outline = b.levels.map Query.outline := by
  rcases render_of_path hsa with ⟨hla, rfl⟩ | hra <;> rcases render_of_path hsb with ⟨hlb, hs⟩ | hrb
  · rw [hla, hlb]
  · exact absurd hrb (render_levels_ne hb)
  · subst hs
    exact absurd hra (render_levels_ne ha)
  · have hmarks := render_injective (isReadable_of_hasKeywordNames ha)
      (isReadable_of_hasKeywordNames hb) (hra.symm.trans hrb)
    exact flatMap_levelMarks_injective hmarks

/-- A name with an apostrophe, a text with the end of a string in it, and a tag that is given
last. -/
theorem path_injective_apostrophes :
    let first : Ancestry := ⟨[⟨[⟨"tag", .tag, .literal "a"⟩, ⟨"b='c", .named, .literal "x']"⟩]⟩]⟩
    let second : Ancestry := ⟨[⟨[⟨"b='c", .named, .literal "x']"⟩, ⟨"tag", .tag, .literal "a"⟩]⟩]⟩
    path first = .ok (some "a[b='c='x\\']']") ∧ path second = .ok (some "a[b='c='x\\']']") ∧
      first.levels.map Query.outline = second.levels.map Query.outline := by
  refine ⟨rfl, rfl, ?_⟩
  refine path_injective (s := "a[b='c='x\\']']") ?_ ?_ rfl rfl
  · intro q hq
    rw [List.mem_singleton.1 hq]
    exact ⟨by decide, by decide, by decide⟩
  · intro q hq
    rw [List.mem_singleton.1 hq]
    exact ⟨by decide, by decide, by decide⟩

end Css

end ElementQuery
