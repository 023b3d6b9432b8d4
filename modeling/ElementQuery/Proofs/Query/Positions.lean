import ElementQuery.Proofs.Plan.Cases
import ElementQuery.Proofs.Query.Names
import ElementQuery.Proofs.Query.Writing
import ElementQuery.Proofs.Selector.Outcomes

/-!
# Positions in every spelling

An index may be given as a whole number, as a floating point number that is whole, as a numeral, or
as the member of an enumeration that is one of these itself. However it is spelled, it is the same
position: a query counts it from 0, a selector of either language has its successor in plain digits,
and a plan with regular expressions keeps it as it is. Whatever spells no natural number and can be
written is refused, with the index as the field at fault.

## Main definitions

* `Value.SpellsPosition` : the values that spell a natural number.

## Main statements

* `Criterion.ofIndex_eq_index_iff` : a value is taken as a position exactly if it spells it.
* `checksIn_middle_eq_ok_iff` : the check for an entry stands where the entry does.
* `position_spellings` : a position in a query, in selectors and in plans, and what is refused.
-/

namespace ElementQuery

open ElementQuery.Number

/-- The values that spell a natural number. -/
inductive Value.SpellsPosition (n : Nat) : Value → Prop where
  | int : SpellsPosition n (.int n)
  | float {x : Binary64} (h : x.value? = some (n : ℚ)) : SpellsPosition n (.float x)
  | text {s : String} (h : IsNumeral n s.toList) : SpellsPosition n (.text s)
  | member {scalar : Scalar} (h : SpellsPosition n scalar.value) (byName : Bool) :
      SpellsPosition n (.member scalar byName)

/-- A number or a text is read as a position exactly if it spells it. -/
theorem Scalar.positionOf?_eq_some_iff {scalar : Scalar} {n : Nat} :
    positionOf? scalar.value = some (n : Int) ↔ scalar.value.SpellsPosition n := by
  cases scalar with
  | int m =>
    refine ⟨fun h => ?_, fun h => ?_⟩
    · obtain rfl : m = n := Option.some.inj h
      exact .int
    · cases h
      rfl
  | float x =>
    have hposition : positionOf? (Scalar.float x).value = x.toInt? := rfl
    rw [hposition, Binary64.toInt?_eq_some_iff]
    exact ⟨.float, fun | .float h => h⟩
  | text s => exact readInt?_eq_some_iff.trans ⟨.text, fun | .text h => h⟩

/-- A value stands for a position exactly if it spells it. -/
theorem positionOf?_eq_some_iff {v : Value} {n : Nat} :
    positionOf? v = some (n : Int) ↔ v.SpellsPosition n := by
  cases v with
  | int m => exact @Scalar.positionOf?_eq_some_iff (.int m) n
  | float x => exact @Scalar.positionOf?_eq_some_iff (.float x) n
  | text s => exact @Scalar.positionOf?_eq_some_iff (.text s) n
  | member scalar byName =>
    have hposition : positionOf? (.member scalar byName) = positionOf? scalar.value := by
      cases scalar <;> rfl
    rw [hposition, Scalar.positionOf?_eq_some_iff]
    exact ⟨fun h => .member h byName, fun | .member h _ => h⟩
  | _ => exact iff_of_false nofun nofun

/-- A value is taken as a position exactly if it spells it. -/
theorem Criterion.ofIndex_eq_index_iff {v : Value} {c : Criterion} :
    Criterion.ofIndex v = .ok c ↔ ∃ n : Nat, v.SpellsPosition n ∧ c = .index n := by
  simp only [Criterion.ofIndex_eq_ok_iff, ← positionOf?_eq_some_iff]
  constructor
  · rintro ⟨position, hposition, hnonneg, rfl⟩
    obtain ⟨n, rfl⟩ := Int.eq_ofNat_of_zero_le hnonneg
    exact ⟨n, hposition, rfl⟩
  · rintro ⟨n, hposition, rfl⟩
    exact ⟨n, hposition, Int.natCast_nonneg n, rfl⟩

/-- What spells a position makes the index of it. -/
theorem Value.SpellsPosition.ofValue_eq {v : Value} {n : Nat} (h : v.SpellsPosition n) :
    Criterion.ofValue .index v = .ok (.index n) := by
  have hindex : Criterion.ofIndex v = .ok (.index n) :=
    Criterion.ofIndex_eq_index_iff.2 ⟨n, h, rfl⟩
  cases h <;> exact hindex

/-- A key of an index with a value that spells a position makes an entry. -/
theorem Value.SpellsPosition.makesEntry {key v : Value} {n : Nat} (h : v.SpellsPosition n)
    (hkey : key.keyName? = some "index") : MakesEntry (key, v) "index" :=
  ⟨hkey, by decide, _, h.ofValue_eq⟩

/-- Plain values other than regular expressions are read as positions under an index. -/
theorem Criterion.ofValue_index {v : Value} (hv : v.IsPlain) (hregex : ∀ r, v ≠ .regex r) :
    Criterion.ofValue .index v = Criterion.ofIndex v := by
  cases v with
  | criterion => exact hv.elim
  | regex r => exact absurd rfl (hregex r)
  | _ => rfl

section Selectors

variable {language : Language} {scope : Scope} {tag : Value} {q : Query} {s : String}

/-- The checks of a query are written exactly if it has no regular expression and each one is. -/
theorem checksIn_eq_ok_iff : checksIn language q = .ok s ↔ q.hasPattern = false ∧
    ∃ parts, q.checks.mapM (checkIn language) = .ok parts ∧ String.join parts = s := by
  cases hpattern : q.hasPattern with
  | true =>
    obtain ⟨p, hp⟩ := Query.exists_find?_isPattern hpattern
    simp [checksIn_of_find? hp]
  | false => simp [checksIn_of_literals hpattern, map_eq_ok_iff]

/-- The check for an entry stands where the entry does. -/
theorem checksIn_middle_eq_ok_iff {before after : List Predicate} {p : Predicate} {check : String}
    (hkind : p.kind ≠ .tag) (hliteral : p.isPattern = false)
    (hcheck : checkIn language p = .ok check) :
    checksIn language ⟨before ++ p :: after⟩ = .ok s ↔
      ∃ a b, checksIn language ⟨before⟩ = .ok a ∧ checksIn language ⟨after⟩ = .ok b ∧
        s = a ++ check ++ b := by
  have hchecks : Query.checks ⟨before ++ p :: after⟩ =
      Query.checks ⟨before⟩ ++ p :: Query.checks ⟨after⟩ := by
    simp [Query.checks, hkind]
  have hpattern : Query.hasPattern ⟨before ++ p :: after⟩ = false ↔
      Query.hasPattern ⟨before⟩ = false ∧ Query.hasPattern ⟨after⟩ = false := by
    simp [Query.hasPattern, hliteral]
  simp only [checksIn_eq_ok_iff, hpattern, hchecks]
  constructor
  · rintro ⟨⟨hbefore, hafter⟩, parts, hparts, rfl⟩
    obtain ⟨as, c, bs, rfl, has, hc, hbs⟩ := exists_split_of_forall₂ (mapM_eq_ok_iff.1 hparts)
    obtain rfl : c = check := Except.ok.inj (hc.symm.trans hcheck)
    refine ⟨_, _, ⟨hbefore, as, mapM_eq_ok_iff.2 has, rfl⟩, ⟨hafter, bs, mapM_eq_ok_iff.2 hbs, rfl⟩,
      ?_⟩
    rw [String.join_append, String.join_cons, String.append_assoc]
  · rintro ⟨_, _, ⟨hbefore, as, has, rfl⟩, ⟨hafter, bs, hbs, rfl⟩, rfl⟩
    refine ⟨⟨hbefore, hafter⟩, as ++ check :: bs, mapM_eq_ok_iff.2 ?_, ?_⟩
    · exact List.rel_append (mapM_eq_ok_iff.1 has) (.cons hcheck (mapM_eq_ok_iff.1 hbs))
    · rw [String.join_append, String.join_cons, String.append_assoc]

/-- There is a selector exactly if nothing is a regular expression, the element name can be written
and all checks are there. -/
theorem writeIn_eq_ok_some_iff : writeIn language scope tag q = .ok (some s) ↔
    tag.isPattern = false ∧ ∃ name t, elementName tag = .ok name ∧ checksIn language q = .ok t ∧
      s = leadIn language scope ++ name ++ t := by
  cases htag : tag.isPattern with
  | true =>
    have hnone : writeIn language scope tag q = .ok none := by
      cases language with
      | css =>
        rw [writeIn, Css.selector, htag]
        rfl
      | xpath =>
        rw [writeIn, XPath.selector, htag]
        rfl
    simp [hnone]
  | false =>
    cases hpattern : q.hasPattern with
    | true =>
      have hchecks : ∀ t, checksIn language q ≠ .ok t := fun t ht => by
        have hliteral := (checksIn_eq_ok_iff.1 ht).1
        rw [hpattern] at hliteral
        cases hliteral
      simp [(hasPattern_iff_writeIn htag).1 hpattern, hchecks]
    | false =>
      simp only [writeIn_eq_bind htag hpattern, bind_eq_ok_iff, map_eq_ok_iff, Option.some_inj,
        true_and, exists_and_left, @eq_comm _ s]

/-- The check for an entry stands in a selector where the entry does. -/
theorem writeIn_middle_eq_ok_some_iff {before after : List Predicate} {p : Predicate}
    {check : String} (hq : q.predicates = before ++ p :: after) (hkind : p.kind ≠ .tag)
    (hliteral : p.isPattern = false) (hcheck : checkIn language p = .ok check) :
    writeIn language scope tag q = .ok (some s) ↔ tag.isPattern = false ∧
      ∃ name a b, elementName tag = .ok name ∧ checksIn language ⟨before⟩ = .ok a ∧
        checksIn language ⟨after⟩ = .ok b ∧
          s = leadIn language scope ++ name ++ (a ++ check ++ b) := by
  obtain ⟨ps⟩ := q
  obtain rfl : ps = before ++ p :: after := hq
  simp only [writeIn_eq_ok_some_iff, checksIn_middle_eq_ok_iff hkind hliteral hcheck]
  refine and_congr_right fun _ => ⟨?_, ?_⟩
  · rintro ⟨name, _, hname, ⟨a, b, ha, hb, rfl⟩, rfl⟩
    exact ⟨name, a, b, hname, ha, hb, rfl⟩
  · rintro ⟨name, a, b, hname, ha, hb, rfl⟩
    exact ⟨name, _, hname, ⟨a, b, ha, hb, rfl⟩, rfl⟩

end Selectors

/-- The entry for a position. -/
def positionEntry (n : Nat) : Predicate := ⟨"index", .index, .index n⟩

section PositionEntry

variable {q : Query} {n : Nat}

theorem positionEntry_kind_ne : (positionEntry n).kind ≠ .tag := nofun

theorem ordinal_position (h : Printable (n + 1)) :
    (Criterion.index n).ordinal = .ok (toString (n + 1)) := by
  rw [Criterion.ordinal, writeInt?_eq_some h]
  rfl

/-- A position is counted from one in CSS. -/
theorem checkIn_css_positionEntry (h : Printable (n + 1)) :
    checkIn .css (positionEntry n) = .ok (":nth-child(" ++ toString (n + 1) ++ ")") := by
  rw [checkIn, Css.check, positionEntry]
  simp only [ordinal_position h]
  rfl

/-- A position is counted from one in an XPath. -/
theorem checkIn_xpath_positionEntry (h : Printable (n + 1)) :
    checkIn .xpath (positionEntry n) = .ok ("[" ++ toString (n + 1) ++ "]") := by
  rw [checkIn, XPath.check, positionEntry]
  simp only [ordinal_position h]
  rfl

/-- Beside a regular expression a position is kept for the elements that are left. -/
theorem plan_of_positionEntry (hindex : q.get? .index = some (positionEntry n))
    (hover : q.overrideKeys = []) (hpattern : q.hasPattern = true) (language : Language)
    (scope : Scope) : q.plan language scope =
      (fun selector => ⟨.filtered, language, selector, q.patterns, some n⟩) <$>
        selectorIn language scope q.structuralPart := by
  have hall : q.allPatterns = false := by
    rw [Query.allPatterns, Bool.and_eq_false_iff, List.all_eq_false]
    exact .inr ⟨_, (Query.mem_of_get? hindex).1, Bool.false_ne_true⟩
  have hliteral : (q.get? .index).any (·.isPattern) = false := by
    rw [hindex]
    rfl
  rw [Query.plan_of_patterns (Query.override?_eq_none hover) hliteral hpattern, hindex, hall]
  rfl

/-- The entry under the key of an index is the one that is looked up. -/
theorem get?_index_of_forall₂ {front : List (Value × Value)} {before after : List Predicate}
    (hfront : some "index" ∉ front.map entryName?)
    (hbefore : List.Forall₂ Predicate.IsOf front before)
    (h : q.predicates = before ++ positionEntry n :: after) :
    q.get? .index = some (positionEntry n) := by
  have hnone : before.find? (·.kind == .index) = none := by
    rw [List.find?_eq_none]
    intro p hp hkind
    obtain ⟨pair, hpair, hof⟩ := exists_of_forall₂_of_mem hbefore.flip hp
    have hname : p.name = Kind.index.name :=
      Kind.eq_name_of_ofKey (by decide) (hof.kind.symm.trans (beq_iff_eq.1 hkind))
    exact hfront (List.mem_map.2 ⟨pair, hpair, hof.name.trans (congrArg some hname)⟩)
  rw [Query.get?, h, List.find?_append, hnone]
  rfl

end PositionEntry

/-- However a natural number is spelled under the key of an index, the pairs make a query exactly if
the others do and do not have the key, and the query asks for this number. A selector has its
successor at the place of the entry, and a plan that leaves regular expressions to be checked has
the number itself. A value that can be written and spells no natural number is refused for the
index, unless a pair in front of it is refused. -/
theorem position_spellings :
    (∀ (n : Nat) v key front back, v.SpellsPosition n → key.keyName? = some "index" →
      ((∃ q, Query.ofPairs (front ++ (key, v) :: back) = .ok q) ↔
        MakeQuery (front ++ back) ∧ some "index" ∉ (front ++ back).map entryName?) ∧
      ∀ q, Query.ofPairs (front ++ (key, v) :: back) = .ok q →
        q.get? .index = some (positionEntry n) ∧
        (∃ before after, q.predicates = before ++ positionEntry n :: after ∧
          List.Forall₂ Predicate.IsOf front before ∧ List.Forall₂ Predicate.IsOf back after ∧
          (Printable (n + 1) →
            (∀ tag s, Css.selector tag q = .ok (some s) ↔ tag.isPattern = false ∧
              ∃ name a b, elementName tag = .ok name ∧ Css.checks ⟨before⟩ = .ok a ∧
                Css.checks ⟨after⟩ = .ok b ∧
                  s = name ++ (a ++ (":nth-child(" ++ toString (n + 1) ++ ")") ++ b)) ∧
            ∀ tag scope s, XPath.selector tag q scope = .ok (some s) ↔ tag.isPattern = false ∧
              ∃ name a b, elementName tag = .ok name ∧ XPath.checks ⟨before⟩ = .ok a ∧
                XPath.checks ⟨after⟩ = .ok b ∧
                  s = scope.lead ++ "//" ++ name ++
                    (a ++ ("[" ++ toString (n + 1) ++ "]") ++ b))) ∧
        (q.overrideKeys = [] → q.hasPattern = true → ∀ language scope,
          q.plan language scope =
            (fun selector => ⟨.filtered, language, selector, q.patterns, some n⟩) <$>
              selectorIn language scope q.structuralPart)) ∧
    ∀ v key front back, v.IsPlain → (∀ r, v ≠ .regex r) → v.IsWritable →
      (∀ n, ¬v.SpellsPosition n) → key.keyName? = some "index" → MakeQuery front →
      some "index" ∉ front.map entryName? →
      ∃ cause, Query.ofPairs (front ++ (key, v) :: back) = .error (.invalidValue cause) ∧
        cause.field? = some "index" := by
  constructor
  · intro n v key front back hv hkey
    have hentry : MakesEntry (key, v) "index" := hv.makesEntry hkey
    have hmakes := @Query.exists_ofPairs_middle_iff (key, v) front back "index" hentry
    refine ⟨hmakes, fun q hq => ?_⟩
    obtain ⟨before, after, hsplit, hbefore, hafter⟩ :=
      Query.exists_predicates_middle hentry.1 hv.ofValue_eq hq
    change q.predicates = before ++ positionEntry n :: after at hsplit
    have hfront : some "index" ∉ front.map entryName? := fun hmem =>
      (hmakes.1 ⟨q, hq⟩).2 (List.map_append ▸ List.mem_append_left _ hmem)
    have hindex := get?_index_of_forall₂ hfront hbefore hsplit
    refine ⟨hindex, ⟨before, after, hsplit, hbefore, hafter, fun hprintable => ⟨?_, ?_⟩⟩,
      fun hover hpattern => plan_of_positionEntry hindex hover hpattern⟩
    · intro tag s
      have hcss := checkIn_css_positionEntry hprintable
      have hselector : writeIn .css .document tag q = .ok (some s) ↔ _ :=
        writeIn_middle_eq_ok_some_iff hsplit positionEntry_kind_ne rfl hcss
      simp only [leadIn, String.empty_append] at hselector
      exact hselector
    · intro tag scope s
      have hxpath := checkIn_xpath_positionEntry hprintable
      exact writeIn_middle_eq_ok_some_iff hsplit positionEntry_kind_ne rfl hxpath
  · intro v key front back hv hregex hwritable hnone hkey hfront hfresh
    cases hvalue : Criterion.ofIndex v with
    | ok c =>
      obtain ⟨n, hn, -⟩ := Criterion.ofIndex_eq_index_iff.1 hvalue
      exact absurd hn (hnone n)
    | error e =>
      obtain ⟨cause, rfl, hfield⟩ := Criterion.exists_invalid_of_ofIndex hwritable hvalue
      refine ⟨cause, Query.ofPairs_eq_error_iff.2 ⟨front, (key, v), back, rfl, hfront, ?_⟩, hfield⟩
      have hfresh : "index" ∉ front.filterMap entryName? := by
        simpa only [List.mem_map, List.mem_filterMap] using hfresh
      exact .badValue (by decide) hkey hfresh ((Criterion.ofValue_index hv hregex).trans hvalue)

/-- An Arabic zero and a wide seven, apart, with a sign and a space that does not break, spell a
seven. A list spells nothing. -/
theorem position_spellings_two_scripts :
    let seven : Value := .text "\u00a0+٠_７"
    (∃ q, Query.ofPairs [(.text ":index", seven)] = .ok q ∧
      Css.selector (.text "a") q = .ok (some "a:nth-child(8)")) ∧
    (∃ r q, Regex.compile .none "x" = .ok r ∧
      Query.ofPairs [(.text "index", seven), (.text "id", .regex r)] = .ok q ∧
      q.plan .css .document = .ok ⟨.filtered, .css, some "*", q.patterns, some 7⟩) ∧
    ∃ cause, Query.ofPairs [(.text "index", .list [.int 1])] = .error (.invalidValue cause) ∧
      cause.field? = some "index" := by
  intro seven
  have hbody : SpellsDigits [0, 7] ['٠', '_', '７'] := .apart (by decide) (.last (by decide))
  have hnumeral : IsNumeral 7 ['\u00a0', '+', '٠', '_', '７'] :=
    @IsNumeral.intro ['\u00a0'] ['+'] _ [] _ (List.forall_mem_singleton.2 (by decide)) (by simp)
      hbody (by decide) (List.forall_mem_nil _)
  have hseven : seven.SpellsPosition 7 := .text (by simpa using hnumeral)
  obtain ⟨hpositions, hrefused⟩ := position_spellings
  refine ⟨?_, ?_, ?_⟩
  · obtain ⟨hmakes, hentry⟩ := hpositions 7 seven (.text ":index") [] [] hseven rfl
    obtain ⟨q, hq⟩ := hmakes.2 ⟨⟨List.forall_mem_nil _, List.nodup_nil⟩, List.not_mem_nil⟩
    obtain ⟨-, ⟨before, after, -, hbefore, hafter, hselectors⟩, -⟩ := hentry q hq
    cases hbefore
    cases hafter
    have hprintable : Printable ((7 : Nat) + 1) := printable_of_natAbs_le (by decide)
    exact ⟨q, hq, ((hselectors hprintable).1 _ _).2 ⟨rfl, "a", "", "", rfl, rfl, rfl, rfl⟩⟩
  · obtain ⟨r, hr⟩ : ∃ r, Regex.compile .none "x" = .ok r := ⟨_, rfl⟩
    obtain ⟨hmakes, hentry⟩ :=
      hpositions 7 seven (.text "index") [] [(.text "id", .regex r)] hseven rfl
    have hname : entryName? (.text "id", .regex r) = some "id" := rfl
    have hother : MakeQuery [(.text "id", .regex r)] :=
      ⟨List.forall_mem_singleton.2 ⟨"id", hname, by decide, .pattern r, rfl⟩,
        List.nodup_singleton _⟩
    obtain ⟨⟨ps⟩, hq⟩ := hmakes.2 ⟨hother, by simp [hname]⟩
    obtain ⟨-, ⟨before, after, hsplit, hbefore, hafter, -⟩, hplan⟩ := hentry _ hq
    cases hbefore
    obtain _ | ⟨hid, ⟨⟩⟩ := hafter
    have hof : Predicate.IsOf (.text "id", .regex r) ⟨"id", .named, .pattern r⟩ :=
      ⟨hname, rfl, rfl⟩
    obtain rfl := Predicate.isOf_rightUnique hid hof
    obtain rfl : ps = _ := hsplit
    exact ⟨r, _, hr, hq, hplan rfl rfl .css .document⟩
  · have hlist : Value.IsWritable (.list [.int 1]) := by
      refine ⟨.list (List.forall_mem_singleton.2 (.int (printable_of_natAbs_le (by decide)))), ?_⟩
      rintro _ ⟨⟩
    have hregex : ∀ r, Value.list [.int 1] ≠ .regex r := by
      rintro _ ⟨⟩
    have hnumber : ∀ n, ¬Value.SpellsPosition n (.list [.int 1]) := by
      rintro _ ⟨⟩
    exact hrefused (.list [.int 1]) (.text "index") [] [] trivial hregex hlist hnumber rfl
      ⟨List.forall_mem_nil _, List.nodup_nil⟩ List.not_mem_nil

/-- As many nines as a numeral can have digits make a position, though its successor has one digit
too many to be written. So does the member of an enumeration that is a number or a numeral. -/
theorem ofPairs_longest_numeral :
    let nines : Value := .text (String.ofList (List.replicate maxDigits '9'))
    ((∃ q, Query.ofPairs [(.text "index", nines)] = .ok q) ∧
      ∀ n : Nat, nines.SpellsPosition n → ¬Printable (n + 1)) ∧
    (∃ q, Query.ofPairs [(.text "index", .member (.int 3) true)] = .ok q) ∧
    ∃ q, Query.ofPairs [(.text "index", .member (.text "7") false)] = .ok q := by
  intro nines
  have hmakes : ∀ {v : Value} {n : Nat}, v.SpellsPosition n →
      ∃ q, Query.ofPairs [(.text "index", v)] = .ok q := fun h =>
    Query.exists_ofPairs_iff.2
      ⟨List.forall_mem_singleton.2 ⟨"index", h.makesEntry rfl⟩, List.nodup_singleton _⟩
  have hnines : nines.SpellsPosition (Nat.ofDigits 10 (List.replicate maxDigits 9)) := by
    refine .text ?_
    rw [String.toList_ofList]
    exact isNumeral_nines
  -- From here on only what they spell counts, or the nines would be written out.
  clear_value nines
  refine ⟨⟨hmakes hnines, fun n hn => ?_⟩, ?_, ?_⟩
  · have hposition := positionOf?_eq_some_iff.2 hn
    rw [positionOf?_eq_some_iff.2 hnines, Option.some_inj, Int.natCast_inj] at hposition
    rw [← hposition]
    exact not_printable_nines
  · exact hmakes (@Value.SpellsPosition.member 3 (.int 3) .int true)
  · have hseven : IsNumeral 7 ['7'] :=
      @IsNumeral.intro [] [] ['7'] [] [7] (List.forall_mem_nil _) (by simp) (.last (by decide))
        (by decide) (List.forall_mem_nil _)
    exact hmakes (@Value.SpellsPosition.member 7 (.text "7") (.text hseven) false)

end ElementQuery
