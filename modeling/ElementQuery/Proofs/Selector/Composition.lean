import ElementQuery.Plan.Basic
import ElementQuery.Proofs.Selector.Outcomes

/-!
# Ancestries put together

The selector of an ancestry is put together from its levels, unless a level has no place in it or
holds a regular expression. What comes of levels in front of others follows from what comes of the
two parts, failures included.

## Main definitions

* `Fault.behind` : a fault of levels that stand behind others.
* `joined` : what comes of an ancestry, from what comes of two parts of it.
* `levelwise` : what comes of levels that are written one by one.

## Main statements

* `checkLevels_append` : the first level that has no place is looked for in the front part first.
* `levelwise_append` : two parts that are written one by one are put together.
* `path_append` : the selectors of two parts of an ancestry are put together.
-/

namespace ElementQuery

/-- A fault of levels as it is when other levels stand in front. -/
def Fault.behind (n : Nat) : Fault → Fault
  | invalidLevel level cause => invalidLevel (level + n) cause
  | e => e

/-- A particular of a fault as it is when other levels stand in front. -/
def Detail.behind (n : Nat) : String × Detail → String × Detail
  | ("level", .number level) => ("level", .number (level + n))
  | detail => detail

/-- Behind other levels the level of a fault is counted on. -/
theorem Fault.level?_behind (n : Nat) (e : Fault) : (e.behind n).level? = e.level?.map (· + n) := by
  cases e <;> rfl

theorem Fault.details_behind (n : Nat) (e : Fault) :
    (e.behind n).details = e.details.map (Detail.behind n) := by
  cases e with
  | invalidLevel level cause => cases cause <;> rfl
  | incompatible cause => cases cause <;> rfl
  | invalidValue | textInCss | misuse | numberTooLong => rfl

variable {fault? : Query → Option InvalidLevel} {levels : List Query}

/-- Checking levels fails with a level that has no place. -/
theorem checkLevels_eq_error {n : Nat} {e : Fault} (h : checkLevels fault? n levels = .error e) :
    ∃ level cause, e = .invalidLevel level cause := by
  induction levels generalizing n with
  | nil => cases h
  | cons q levels ih =>
    rw [checkLevels] at h
    cases hfault : fault? q with
    | none =>
      rw [hfault] at h
      exact ih h
    | some cause =>
      rw [hfault] at h
      cases h
      exact ⟨n, cause, rfl⟩

/-- Levels pass if nothing is wrong with any of them. -/
theorem checkLevels_eq_ok_iff {n : Nat} :
    checkLevels fault? n levels = .ok () ↔ ∀ q ∈ levels, fault? q = none := by
  induction levels generalizing n with
  | nil => exact ⟨fun _ => List.forall_mem_nil _, fun _ => rfl⟩
  | cons q levels ih =>
    rw [checkLevels, List.forall_mem_cons, ← ih (n := n + 1)]
    cases fault? q with
    | none => simp
    | some cause => simp [throw, throwThe, MonadExceptOf.throw]

/-- Levels that are counted from further on have the same fault further on. -/
theorem checkLevels_add (m n : Nat) : checkLevels fault? (m + n) levels =
    (checkLevels fault? m levels).mapError (Fault.behind n) := by
  induction levels generalizing m with
  | nil => rfl
  | cons q levels ih =>
    rw [checkLevels, checkLevels]
    cases fault? q with
    | none =>
      have hnext := ih (m + 1)
      rwa [Nat.add_right_comm] at hnext
    | some cause => rfl

/-- Levels behind others are checked if those in front have a place. -/
theorem checkLevels_append {n : Nat} {front back : List Query} :
    checkLevels fault? n (front ++ back) =
      checkLevels fault? n front >>= fun _ => checkLevels fault? (n + front.length) back := by
  induction front generalizing n with
  | nil => rfl
  | cons q front ih =>
    rw [List.cons_append, checkLevels, checkLevels]
    cases fault? q with
    | none =>
      have hnext := ih (n := n + 1)
      rwa [Nat.add_right_comm] at hnext
    | some cause => rfl

/-- What comes of an ancestry whose levels all have a place, from what comes of two parts of it. A
regular expression counts more than a check that cannot be written; of two faults the first one
counts. -/
def glued (glue : String) :
    Except Fault (Option String) → Except Fault (Option String) → Except Fault (Option String)
  | .ok none, _ => .ok none
  | _, .ok none => .ok none
  | .error e, _ => .error e
  | _, .error e => .error e
  | .ok (some s), .ok (some t) => .ok (some (s ++ glue ++ t))

/-- What comes of an ancestry, from what comes of its first `n` levels and of the ones behind them.
The first level that has no place counts more than anything else. -/
def joined (glue : String) (n : Nat) :
    Except Fault (Option String) → Except Fault (Option String) → Except Fault (Option String)
  | .error (.invalidLevel level cause), _ => .error (.invalidLevel level cause)
  | _, .error (.invalidLevel level cause) => .error (Fault.behind n (.invalidLevel level cause))
  | x, y => glued glue x y

/-- What is written does not fail because of a level that has no place. -/
def HasPlaces {α : Type} (x : Except Fault α) : Prop := ∀ e, x = .error e → e.level? = none

variable {glue : String} {n : Nat} {x y : Except Fault (Option String)}

/-- Without faulty levels two parts are joined by what is between them. -/
theorem joined_of_hasPlaces (hx : HasPlaces x) (hy : HasPlaces y) :
    joined glue n x y = glued glue x y := by
  unfold joined
  split
  · cases hx _ rfl
  · cases hy _ rfl
  · rfl

/-- A fault in the second part is moved behind the levels of the first. -/
theorem joined_invalidLevel (hx : HasPlaces x) (level : Nat) (cause : InvalidLevel) :
    joined glue n x (.error (.invalidLevel level cause)) =
      .error (Fault.behind n (.invalidLevel level cause)) := by
  unfold joined
  split
  · cases hx _ rfl
  · next h =>
    cases h
    rfl
  · next h => exact absurd rfl (h level cause)

theorem glued_none_right : glued glue x (.ok none) = .ok none := by
  match x with
  | .error _ | .ok none | .ok (some _) => rfl

/-- What comes of levels that are written one by one. -/
def levelwise (fault? : Query → Option InvalidLevel) (text : Query → Except Fault String)
    (write : List String → String) (levels : List Query) : Except Fault (Option String) := do
  checkLevels fault? 0 levels
  if levels.any (·.hasPattern) then return none
  return some (write (← levels.mapM text))

variable {text : Query → Except Fault String} {write : List String → String}

/-- A level that cannot be written is told before anything else. -/
theorem levelwise_of_error {e : Fault} (h : checkLevels fault? 0 levels = .error e) :
    levelwise fault? text write levels = .error e := by
  rw [levelwise, h]
  rfl

/-- Levels that can be written have no selector if there is a regular expression. -/
theorem levelwise_of_hasPattern (h : checkLevels fault? 0 levels = .ok ())
    (hpattern : levels.any (·.hasPattern) = true) :
    levelwise fault? text write levels = .ok none := by
  rw [levelwise, h, hpattern]
  rfl

/-- Levels without regular expressions are written one by one. -/
theorem levelwise_of_literals (h : checkLevels fault? 0 levels = .ok ())
    (hpattern : levels.any (·.hasPattern) = false) :
    levelwise fault? text write levels = (fun ss => some (write ss)) <$> levels.mapM text := by
  rw [levelwise, h, hpattern, bind_pure_comp]
  rfl

/-- Levels fail with one that has no place, or with a text that cannot be written. -/
theorem levelwise_eq_error_iff {e : Fault} :
    levelwise fault? text write levels = .error e ↔
      checkLevels fault? 0 levels = .error e ∨
        checkLevels fault? 0 levels = .ok () ∧ levels.any (·.hasPattern) = false ∧
          levels.mapM text = .error e := by
  cases hcheck : checkLevels fault? 0 levels with
  | error e' => simp [levelwise_of_error hcheck]
  | ok _ =>
    cases hpattern : levels.any (·.hasPattern) with
    | true => simp [levelwise_of_hasPattern hcheck hpattern]
    | false => simp [levelwise_of_literals hcheck hpattern, map_eq_error_iff]

/-- Once levels are found to have a place, nothing fails because of it. -/
theorem hasPlaces_levelwise (htext : ∀ q, HasPlaces (text q))
    (h : checkLevels fault? 0 levels = .ok ()) :
    HasPlaces (levelwise fault? text write levels) := by
  intro e he
  rcases levelwise_eq_error_iff.1 he with hcheck | ⟨-, -, hfail⟩
  · rw [h] at hcheck
    cases hcheck
  · obtain ⟨q, -, hq⟩ := exists_of_mapM_eq_error hfail
    exact htext q e hq

section Append

variable {writeFront writeBack : List String → String} {front back : List Query}

/-- The texts of two parts are put together if both parts have theirs. -/
theorem glued_texts
    (hwrite : ∀ ss ts, ss ≠ [] → ts ≠ [] → write (ss ++ ts) = writeFront ss ++ glue ++ writeBack ts)
    (hfront : front ≠ []) (hback : back ≠ []) :
    glued glue ((fun ss => some (writeFront ss)) <$> front.mapM text)
        ((fun ts => some (writeBack ts)) <$> back.mapM text) =
      (fun ss => some (write ss)) <$> (front ++ back).mapM text := by
  have hsome : ∀ {levels : List Query} {ss : List String}, levels ≠ [] →
      levels.mapM text = .ok ss → ss ≠ [] := by
    rintro levels ss hne h rfl
    exact hne (List.forall₂_nil_right_iff.1 (mapM_eq_ok_iff.1 h))
  rw [List.mapM_append]
  cases hf : front.mapM text with
  | error e => cases back.mapM text <;> rfl
  | ok ss =>
    cases hb : back.mapM text with
    | error e => rfl
    | ok ts =>
      change Except.ok (some (writeFront ss ++ glue ++ writeBack ts)) =
        .ok (some (write (ss ++ ts)))
      rw [hwrite ss ts (hsome hfront hf) (hsome hback hb)]

/-- Two parts that are written one by one are put together. -/
theorem levelwise_append (htext : ∀ q, HasPlaces (text q))
    (hwrite : ∀ ss ts, ss ≠ [] → ts ≠ [] → write (ss ++ ts) = writeFront ss ++ glue ++ writeBack ts)
    (hfront : front ≠ []) (hback : back ≠ []) :
    levelwise fault? text write (front ++ back) =
      joined glue front.length (levelwise fault? text writeFront front)
        (levelwise fault? text writeBack back) := by
  have hcheck : checkLevels fault? 0 (front ++ back) = checkLevels fault? 0 front >>= fun _ =>
      (checkLevels fault? 0 back).mapError (Fault.behind front.length) := by
    rw [checkLevels_append, checkLevels_add]
  -- The check of the front part comes first, then the one of the back part, then both are written.
  cases hcf : checkLevels fault? 0 front with
  | error e =>
    obtain ⟨level, cause, rfl⟩ := checkLevels_eq_error hcf
    rw [hcf] at hcheck
    rw [levelwise_of_error hcheck, levelwise_of_error hcf]
    rfl
  | ok _ =>
    have hplaces : HasPlaces (levelwise fault? text writeFront front) :=
      hasPlaces_levelwise htext hcf
    rw [hcf] at hcheck
    cases hcb : checkLevels fault? 0 back with
    | error e =>
      obtain ⟨level, cause, rfl⟩ := checkLevels_eq_error hcb
      rw [hcb] at hcheck
      rw [levelwise_of_error hcheck, levelwise_of_error hcb, joined_invalidLevel hplaces]
    | ok _ =>
      have hplacesBack : HasPlaces (levelwise fault? text writeBack back) :=
        hasPlaces_levelwise htext hcb
      rw [hcb] at hcheck
      rw [joined_of_hasPlaces hplaces hplacesBack]
      cases hpf : front.any (·.hasPattern) with
      | true =>
        rw [levelwise_of_hasPattern hcheck (by simp [hpf]), levelwise_of_hasPattern hcf hpf]
        rfl
      | false =>
        cases hpb : back.any (·.hasPattern) with
        | true =>
          rw [levelwise_of_hasPattern hcheck (by simp [hpb]), levelwise_of_hasPattern hcb hpb,
            glued_none_right]
        | false =>
          have hpattern : (front ++ back).any (·.hasPattern) = false := by
            rw [List.any_append, hpf, hpb, Bool.or_false]
          rw [levelwise_of_literals hcheck hpattern, levelwise_of_literals hcf hpf,
            levelwise_of_literals hcb hpb, glued_texts hwrite hfront hback]

end Append

/-- Why a level has no place in an ancestry in a language. -/
def levelFault? : Language → Query → Option InvalidLevel
  | .css, q => q.overrideFault?
  | .xpath, q => q.overrideFault?.or q.metaTagFault?

/-- The selector in a language of a level that stands behind others and holds no regular
expression. -/
def levelText (language : Language) (q : Query) : Except Fault String :=
  (leadIn language .document ++ q.tagName ++ ·) <$> checksIn language q

/-- The selector of an ancestry from the ones of its levels. -/
def writeLevels : Language → Scope → List String → String
  | .css, _ => String.intercalate " "
  | .xpath, scope => fun ss => scope.lead ++ String.join ss

/-- What stands between the selectors of two parts. -/
def glueOf : Language → String
  | .css => " "
  | .xpath => ""

variable {language : Language} {scope : Scope}

/-- Two rows of levels are written with what joins them between, the second one from the document.
-/
theorem writeLevels_append {ss ts : List String} (hss : ss ≠ []) (hts : ts ≠ []) :
    writeLevels language scope (ss ++ ts) =
      writeLevels language scope ss ++ glueOf language ++ writeLevels language .document ts := by
  cases language with
  | css => exact String.intercalate_append_of_ne_nil hss hts
  | xpath => simp [writeLevels, glueOf, Scope.lead, String.append_assoc]

theorem Criterion.hasPlaces_ordinal (c : Criterion) : HasPlaces c.ordinal := by
  intro e he
  obtain rfl | ⟨cause, rfl⟩ := Criterion.eq_of_ordinal_eq_error he <;> rfl

/-- No check fails over a level. -/
theorem hasPlaces_checkIn (p : Predicate) : HasPlaces (checkIn language p) := by
  intro e he
  cases language with
  | css =>
    rw [checkIn, Css.check] at he
    split at he
    · cases he
      rfl
    · exact Criterion.hasPlaces_ordinal _ e (map_eq_error_iff.1 he)
    · cases he
  | xpath =>
    rw [checkIn, XPath.check] at he
    split at he
    · cases he
    · exact Criterion.hasPlaces_ordinal _ e (map_eq_error_iff.1 he)
    · cases he

/-- No check of a selector says that a level has no place. -/
theorem hasPlaces_levelText (q : Query) : HasPlaces (levelText language q) := by
  intro e he
  rw [levelText, map_eq_error_iff, checksIn_eq, bind_eq_error_iff] at he
  rcases he with hliterals | ⟨_, -, hchecks⟩
  · rw [Query.requireLiterals] at hliterals
    split at hliterals
    · cases hliterals
    · cases hliterals
      rfl
  · rw [map_eq_error_iff] at hchecks
    obtain ⟨p, -, hp⟩ := exists_of_mapM_eq_error hchecks
    exact hasPlaces_checkIn p e hp

/-- A level without regular expressions is written as its text. -/
theorem writeIn_of_level {q : Query} (h : q.hasPattern = false) :
    writeIn language .document (.text q.tagName) q = some <$> levelText language q := by
  rw [writeIn_eq rfl rfl h, levelText, ← comp_map]
  rfl

/-- Levels without regular expressions are written as their texts. -/
theorem writeIn_of_levels (h : levels.any (·.hasPattern) = false) (language : Language) :
    (levels.mapM fun q => writeIn language .document (.text q.tagName) q) =
      List.map some <$> levels.mapM (levelText language) :=
  mapM_eq_map fun q hq => writeIn_of_level (any_hasPattern_iff.1 h q hq)

/-- In CSS the texts of levels are joined by blanks. -/
theorem css_of_levels (h : levels.any (·.hasPattern) = false) (scope : Scope) :
    (fun all : List (Option String) => (all.mapM id).map (String.intercalate " ")) <$>
        (levels.mapM fun q => Css.selector (.text q.tagName) q) =
      (fun ss => some (writeLevels .css scope ss)) <$> levels.mapM (levelText .css) := by
  have hlevels : (levels.mapM fun q => Css.selector (.text q.tagName) q) =
      List.map some <$> levels.mapM (levelText .css) := writeIn_of_levels h .css
  rw [hlevels]
  cases levels.mapM (levelText .css) with
  | error e => rfl
  | ok ss =>
    have hall : (ss.map some).mapM id = some ss := mapM_id_eq_some_iff.2 rfl
    change Except.ok (((ss.map some).mapM id).map (String.intercalate " ")) =
      .ok (some (writeLevels .css scope ss))
    rw [hall]
    rfl

/-- The XPath of the first level starts to search in the scope. -/
theorem xpath_of_level {q : Query} (h : q.hasPattern = false) :
    XPath.selector (.text q.tagName) q scope =
      (fun s => some (scope.lead ++ s)) <$> levelText .xpath q := by
  change writeIn .xpath scope (.text q.tagName) q = _
  rw [writeIn_eq rfl rfl h, levelText, ← comp_map]
  have hlead : leadIn .xpath scope = scope.lead ++ leadIn .xpath .document := by
    simp [leadIn, Scope.lead]
  rw [hlead]
  simp only [Function.comp_def, String.append_assoc]

/-- In an XPath the texts of levels follow each other, the first one with the lead of its scope. -/
theorem xpath_of_levels {q : Query} (h : (q :: levels).any (·.hasPattern) = false) :
    (fun all : List (Option String) => (all.mapM id).map String.join) <$>
        XPath.levelSelectors scope (q :: levels) =
      (fun ss => some (writeLevels .xpath scope ss)) <$> (q :: levels).mapM (levelText .xpath) := by
  rw [List.any_cons, Bool.or_eq_false_iff] at h
  have hlevels : (levels.mapM fun q => XPath.selector (.text q.tagName) q .document) =
      List.map some <$> levels.mapM (levelText .xpath) := writeIn_of_levels h.2 .xpath
  rw [XPath.levelSelectors, xpath_of_level h.1, hlevels, List.mapM_cons]
  cases levelText .xpath q with
  | error e => rfl
  | ok s =>
    cases levels.mapM (levelText .xpath) with
    | error e => rfl
    | ok ss =>
      have hall : (some (scope.lead ++ s) :: ss.map some).mapM id =
          some ((scope.lead ++ s) :: ss) := mapM_id_eq_some_iff.2 rfl
      have htext : String.join ((scope.lead ++ s) :: ss) = writeLevels .xpath scope (s :: ss) := by
        simp [writeLevels, String.append_assoc]
      change Except.ok (((some (scope.lead ++ s) :: ss.map some).mapM id).map String.join) =
        .ok (some (writeLevels .xpath scope (s :: ss)))
      rw [hall, ← htext]
      rfl

/-- A query is written with the name of its tag. -/
theorem selectorIn_eq_writeIn {q : Query} :
    selectorIn language scope q = writeIn language scope (.text q.tagName) q := by
  cases language <;> rfl

/-- The selector of an ancestry is written level by level. -/
theorem pathIn_eq (hne : levels ≠ []) : pathIn language scope ⟨levels⟩ =
    levelwise (levelFault? language) (levelText language) (writeLevels language scope) levels := by
  cases language with
  | css =>
    rw [pathIn, Css.path, levelwise, Ancestry.check, Ancestry.hasPattern]
    cases hpattern : levels.any (·.hasPattern) with
    | true => rfl
    | false =>
      simp only [bind_pure_comp, css_of_levels hpattern scope]
      rfl
  | xpath =>
    obtain ⟨q, levels, rfl⟩ := List.exists_cons_of_ne_nil hne
    rw [pathIn, XPath.path, levelwise, Ancestry.check, Ancestry.hasPattern]
    cases hpattern : (q :: levels).any (·.hasPattern) with
    | true => rfl
    | false =>
      simp only [bind_pure_comp, xpath_of_levels hpattern]
      rfl

/-- The selector of an ancestry is put together from the ones of its parts. -/
theorem pathIn_append {front back : List Query} (hfront : front ≠ []) (hback : back ≠ []) :
    pathIn language scope ⟨front ++ back⟩ =
      joined (glueOf language) front.length (pathIn language scope ⟨front⟩)
        (pathIn language .document ⟨back⟩) := by
  rw [pathIn_eq hfront, pathIn_eq hback, pathIn_eq (List.append_ne_nil_of_left_ne_nil hfront back),
    levelwise_append hasPlaces_levelText (fun _ _ => writeLevels_append) hfront hback]

variable {e : Fault}

/-- What can be written fails as a level only over a text in CSS. -/
theorem levelText_eq_textInCss {q : Query} (h : q.IsWritable) (hpattern : q.hasPattern = false)
    (hfail : levelText language q = .error e) :
    language = .css ∧ ∃ name, e = .textInCss name := by
  obtain ⟨hcss, -, hname⟩ := h.eq_textInCss hpattern (map_eq_error_iff.1 hfail)
  exact ⟨hcss, hname⟩

/-- The selector of levels that can be written fails only with a level that has no place, or with a
text in CSS. -/
theorem pathIn_eq_error (hne : levels ≠ []) (h : ∀ q ∈ levels, q.IsWritable)
    (hfail : pathIn language scope ⟨levels⟩ = .error e) :
    (∃ level cause, e = .invalidLevel level cause) ∨
      language = .css ∧ ∃ name, e = .textInCss name := by
  rw [pathIn_eq hne, levelwise_eq_error_iff] at hfail
  rcases hfail with hcheck | ⟨-, hpattern, hfail⟩
  · exact .inl (checkLevels_eq_error hcheck)
  · obtain ⟨q, hq, hfail⟩ := exists_of_mapM_eq_error hfail
    exact .inr (levelText_eq_textInCss (h q hq) (any_hasPattern_iff.1 hpattern q hq) hfail)

/-- Overrides are all that can be wrong with a level in CSS. -/
theorem Query.overrideFault?_eq_none_iff {q : Query} :
    q.overrideFault? = none ↔ q.overrideKeys = [] := by
  rw [overrideFault?]
  cases q.overrideKeys <;> simp

/-- A text is what a CSS selector of levels fails with exactly if one of them has a text and all of
them have a place and no regular expression. -/
theorem css_eq_textInCss_iff (hne : levels ≠ []) (h : ∀ q ∈ levels, q.IsWritable) :
    (∃ name, Css.path ⟨levels⟩ = .error (.textInCss name)) ↔
      (∀ q ∈ levels, q.overrideKeys = [] ∧ q.hasPattern = false) ∧
        ∃ q ∈ levels, q.hasKind .text = true := by
  have hwrite : ∀ language, pathIn language .document ⟨levels⟩ = levelwise (levelFault? language)
      (levelText language) (writeLevels language .document) levels := fun _ => pathIn_eq hne
  have hpath : Css.path ⟨levels⟩ = levelwise Query.overrideFault? (levelText .css)
      (writeLevels .css .document) levels := hwrite .css
  simp only [hpath, levelwise_eq_error_iff]
  constructor
  · rintro ⟨name, hcheck | ⟨hcheck, hpattern, hfail⟩⟩
    · obtain ⟨level, cause, hcause⟩ := checkLevels_eq_error hcheck
      cases hcause
    · have hliteral := any_hasPattern_iff.1 hpattern
      obtain ⟨q, hq, hfail⟩ := exists_of_mapM_eq_error hfail
      obtain ⟨-, htext, -⟩ := (h q hq).eq_textInCss (hliteral q hq) (map_eq_error_iff.1 hfail)
      refine ⟨fun r hr => ⟨?_, hliteral r hr⟩, q, hq, htext⟩
      exact Query.overrideFault?_eq_none_iff.1 (checkLevels_eq_ok_iff.1 hcheck r hr)
  · rintro ⟨hall, q, hq, htext⟩
    have hcheck : checkLevels Query.overrideFault? 0 levels = .ok () :=
      checkLevels_eq_ok_iff.2 fun r hr => Query.overrideFault?_eq_none_iff.2 (hall r hr).1
    have hpattern : levels.any (·.hasPattern) = false :=
      any_hasPattern_iff.2 fun r hr => (hall r hr).2
    obtain ⟨name, hname⟩ := ((h q hq).exists_textInCss_iff (hall q hq).2).2 ⟨rfl, htext⟩
    have hlevel : levelText .css q = .error (.textInCss name) := map_eq_error_iff.2 hname
    -- Another level may be the first one with a text.
    obtain ⟨e, he⟩ := exists_mapM_eq_error_iff.2 ⟨q, hq, _, hlevel⟩
    obtain ⟨r, hr, hfail⟩ := exists_of_mapM_eq_error he
    obtain ⟨-, name, rfl⟩ := levelText_eq_textInCss (h r hr) (hall r hr).2 hfail
    exact ⟨name, .inr ⟨hcheck, hpattern, he⟩⟩

/-- What comes of an ancestry of queries of plain values whose positions are short enough, put
together from what comes of two parts of it. For XPath the scope is the one of the front part, and
the parts fail only with a level that has no place. CSS also fails with a text, and does so exactly
if some level has one, all levels have a place, and none has a regular expression. -/
theorem path_append {front back : List Query} (hfront : front ≠ []) (hback : back ≠ [])
    (h : ∀ q ∈ front ++ back, q.OfPlainValues ∧ q.HasPrintablePositions) (scope : Scope) :
    XPath.path ⟨front ++ back⟩ scope =
      joined "" front.length (XPath.path ⟨front⟩ scope) (XPath.path ⟨back⟩ .document) ∧
    (∀ e, XPath.path ⟨front⟩ scope = .error e ∨ XPath.path ⟨back⟩ .document = .error e →
      ∃ level cause, e = .invalidLevel level cause) ∧
    Css.path ⟨front ++ back⟩ =
      joined " " front.length (Css.path ⟨front⟩) (Css.path ⟨back⟩) ∧
    (∀ e, Css.path ⟨front⟩ = .error e ∨ Css.path ⟨back⟩ = .error e →
      (∃ level cause, e = .invalidLevel level cause) ∨ ∃ name, e = .textInCss name) ∧
    ((∃ name, Css.path ⟨front ++ back⟩ = .error (.textInCss name)) ↔
      (∀ q ∈ front ++ back, q.overrideKeys = [] ∧ q.hasPattern = false) ∧
        ∃ q ∈ front ++ back, q.hasKind .text = true) ∧
    ∀ e : Fault, (e.behind front.length).level? = e.level?.map (· + front.length) ∧
      (e.behind front.length).details = e.details.map (Detail.behind front.length) := by
  have hwritable : ∀ q ∈ front ++ back, q.IsWritable := fun q hq => (h q hq).1.isWritable (h q hq).2
  obtain ⟨hwf, hwb⟩ := List.forall_mem_append.1 hwritable
  have hjoined : ∀ language, pathIn language scope ⟨front ++ back⟩ =
      joined (glueOf language) front.length (pathIn language scope ⟨front⟩)
        (pathIn language .document ⟨back⟩) := fun _ => pathIn_append hfront hback
  have hfail : ∀ language e,
      pathIn language scope ⟨front⟩ = .error e ∨ pathIn language .document ⟨back⟩ = .error e →
      (∃ level cause, e = .invalidLevel level cause) ∨
        language = .css ∧ ∃ name, e = .textInCss name := by
    rintro language e (he | he)
    · exact pathIn_eq_error hfront hwf he
    · exact pathIn_eq_error hback hwb he
  refine ⟨hjoined .xpath, ?_, hjoined .css, ?_, ?_, ?_⟩
  · intro e he
    rcases hfail .xpath e he with hplace | ⟨hcss, -⟩
    · exact hplace
    · cases hcss
  · intro e he
    exact (hfail .css e he).imp_right And.right
  · exact css_eq_textInCss_iff (List.append_ne_nil_of_left_ne_nil hfront back) hwritable
  · exact fun e => ⟨Fault.level?_behind _ e, Fault.details_behind _ e⟩

/-- The text on the first level cannot be checked in CSS and the second level has a regular
expression, but the third level has no place and is complained about, in both languages. -/
theorem path_append_third_level :
    let text : Query := ⟨[⟨"text", .text, .literal "a"⟩]⟩
    let pattern : Query := ⟨[⟨"id", .named, .pattern ⟨"x", .none, .code 120⟩⟩]⟩
    let override : Query := ⟨[⟨"css", .css, .literal "b"⟩]⟩
    XPath.path ⟨[text] ++ [pattern, override]⟩ .context =
        .error (.invalidLevel 2 (.overrides ["css"])) ∧
      Css.path ⟨[text] ++ [pattern, override]⟩ = .error (.invalidLevel 2 (.overrides ["css"])) := by
  intro text pattern override
  have hplain : ∀ q ∈ [text] ++ [pattern, override],
      q.OfPlainValues ∧ q.HasPrintablePositions := by
    have hpositions : ∀ q ∈ [text, pattern, override], q.HasPrintablePositions := by
      simp [text, pattern, override, Query.HasPrintablePositions]
    have htext : text.OfPlainValues := ⟨[(.text "text", .text "a")], by simp [Value.IsPlain], rfl⟩
    have hpattern : pattern.OfPlainValues :=
      ⟨[(.text "id", .regex ⟨"x", .none, .code 120⟩)], by simp [Value.IsPlain], rfl⟩
    have hoverride : override.OfPlainValues :=
      ⟨[(.text "css", .text "b")], by simp [Value.IsPlain], rfl⟩
    intro q hq
    refine ⟨?_, hpositions q hq⟩
    simp only [List.cons_append, List.nil_append, List.mem_cons, List.not_mem_nil, or_false] at hq
    rcases hq with rfl | rfl | rfl
    · exact htext
    · exact hpattern
    · exact hoverride
  obtain ⟨hxpath, -, hcss, -⟩ :=
    path_append (List.cons_ne_nil _ _) (List.cons_ne_nil _ _) hplain .context
  exact ⟨hxpath.trans rfl, hcss.trans rfl⟩

end ElementQuery
