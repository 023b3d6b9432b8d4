import ElementQuery.Proofs.Notation.Queries
import ElementQuery.Proofs.Selector.CssGrammar
import ElementQuery.Proofs.Selector.XPathGrammar

/-!
# When a selector is well-formed

Quoting takes care of values alone. The element name and the names of the attributes of a query that
is read from a text reach a selector as they are given, and they decide whether it is a selector at
all.

## Main statements

* `isWellFormed_iff` : the selectors of a query are well-formed exactly if its names are names.
* `not_isWellFormed_digit` : a name that starts with a digit makes no selector in either language.
-/

namespace ElementQuery

open ElementQuery.Notation

/-- The names of the attributes of a query that a text is read as hold no bracket. -/
theorem not_mem_of_parse [Regex.Engine] {text : String} {q : Query}
    (h : parse text = .ok (.query q)) :
    ∀ name, Subject.named name ∈ q.subjects → '[' ∉ name := by
  intro name hname
  obtain ⟨p, hp, hsubject⟩ := List.mem_map.1 hname
  have hkeyword := isKeywordText_of_parse h p (List.mem_filter.1 hp).1
  have hname : p.name.toList = name := by
    rw [Predicate.subject] at hsubject
    split at hsubject <;> cases hsubject
    rfl
  rw [← hname]
  exact not_mem_of_isKeywordChar (by decide) hkeyword

/-- The positions of a query that a text is read as are not negative. -/
theorem index_nonneg_of_parse [Regex.Engine] {text : String} {q : Query}
    (h : parse text = .ok (.query q)) :
    ∀ p ∈ q.checks, ∀ n, p.criterion = .index n → 0 ≤ n := by
  intro p hp n hn
  have hfits := ((ofPlainValues_of_parse h).wellFormed.entries p (List.mem_filter.1 hp).1).fits
  rw [hn] at hfits
  exact hfits.2

/-- Let a text be read as a query without a regular expression. Its CSS selector is a compound
selector with a part for each entry but the element name exactly if the element name is `*` or an
identifier and the attributes are named by identifiers, whatever the values are; a reading of it
with as many parts is about these entries, unless the element name ends with a backslash. Its XPath
is a location path with as many predicates exactly if the element name and the names of the
attributes are name tests, and then the predicates are about the entries. -/
theorem isWellFormed_iff [Regex.Engine] {text : String} {q : Query}
    (hparse : parse text = .ok (.query q)) (hpattern : q.hasPattern = false) :
    (∀ s, Css.selector (.text q.tagName) q = .ok (some s) →
      (Css.IsCompound q.subjects s.toList ↔ Css.IsTypeSelector q.tagName.toList ∧
        ∀ name, .named name ∈ q.subjects → Css.IsIdentifier name) ∧
      (q.tagName.toList.getLast? ≠ some '\\' → ∀ subjects, subjects.length = q.checks.length →
        Css.IsCompound subjects s.toList → subjects = q.subjects)) ∧
    ∀ scope s, XPath.selector (.text q.tagName) q scope = .ok (some s) →
      ∀ subjects, subjects.length = q.checks.length →
        (XPath.IsPath subjects s.toList ↔ subjects = q.subjects ∧
          XPath.IsNameTest q.tagName.toList ∧
            ∀ name, .named name ∈ q.subjects → XPath.IsNameTest name) := by
  have hnames := not_mem_of_parse hparse
  have hpositions := index_nonneg_of_parse hparse
  have hlength : q.subjects.length = q.checks.length := List.length_map _
  refine ⟨fun s hs => ⟨?_, fun htag subjects hsubjects hcompound => ?_⟩,
    fun scope s hs subjects hsubjects => ?_⟩
  · exact Css.isCompound_iff hpattern hpositions hnames hs
  · exact Css.eq_subjects_of_isCompound hpattern hpositions hnames hs htag
      (hsubjects.trans hlength.symm) hcompound
  · exact XPath.isPath_iff hpattern hpositions hnames hs (hsubjects.trans hlength.symm)

/-- Attributes with an apostrophe and with digits in their values. -/
theorem isWellFormed_iff_apostrophe :
    let text := "\x7b:tag :a :b :it's :c 10\x7d"
    ∃ q, parse text = .ok (.query q) ∧ q.hasPattern = false ∧
      (∃ s, Css.selector (.text q.tagName) q = .ok (some s) ∧
        Css.IsCompound [.named ['b'], .named ['c']] s.toList) ∧
      ∃ s, XPath.selector (.text q.tagName) q .context = .ok (some s) ∧
        XPath.IsPath [.named ['b'], .named ['c']] s.toList := by
  intro text
  let q : Query := ⟨[⟨"tag", .tag, .literal "a"⟩, ⟨"b", .named, .literal "it's"⟩,
    ⟨"c", .named, .literal "10"⟩]⟩
  have hread : Form.read "\x7b:tag :a :b :it's :c 10\x7d" = .ok (.map
      [⟨⟨.keyword, [':', 't', 'a', 'g'], ⟨1, 2⟩⟩, ⟨.keyword, [':', 'a'], ⟨1, 7⟩⟩⟩,
        ⟨⟨.keyword, [':', 'b'], ⟨1, 10⟩⟩, ⟨.keyword, [':', 'i', 't', '\'', 's'], ⟨1, 13⟩⟩⟩,
        ⟨⟨.keyword, [':', 'c'], ⟨1, 19⟩⟩, ⟨.integer, ['1', '0'], ⟨1, 22⟩⟩⟩]) := by
    cbv
  have hten : Criterion.ofValue .named (.int 10) = .ok (.literal "10") :=
    Criterion.ofValue_int (by decide) (Number.printable_of_natAbs_le (by decide))
  have htagEntry : Predicate.ofPair [] (.text "tag", .text "a") =
      .ok ⟨"tag", .tag, .literal "a"⟩ := rfl
  have hb : Predicate.ofPair ["tag"] (.text "b", .text "it's") =
      .ok ⟨"b", .named, .literal "it's"⟩ := rfl
  have hc : Predicate.ofPair ["b", "tag"] (.text "c", .int 10) =
      .ok ⟨"c", .named, .literal "10"⟩ :=
    Predicate.ofPair_eq_ok_iff.2 ⟨by decide, by decide, rfl, rfl, hten⟩
  have hquery : Query.ofPairs [(.text "tag", .text "a"), (.text "b", .text "it's"),
      (.text "c", .int 10)] = .ok q := by
    rw [Query.ofPairs, Predicate.ofPairs_cons, htagEntry]
    change _ <$> ((_ :: ·) <$> Predicate.ofPairs ["tag"] _) = _
    rw [Predicate.ofPairs_cons, hb]
    change _ <$> ((_ :: ·) <$> ((_ :: ·) <$> Predicate.ofPairs ["b", "tag"] _)) = _
    rw [Predicate.ofPairs_cons, hc]
    rfl
  have hparse : parse text = .ok (.query q) := by
    rw [parse, hread]
    change Parsed.query <$> (Query.ofPairs [(.text "tag", .text "a"), (.text "b", .text "it's"),
      (.text "c", .int 10)]).mapError Error.ofFault = _
    rw [hquery]
    rfl
  have hsubjects : q.subjects = [.named ['b'], .named ['c']] := by rfl
  have htag : q.tagName = "a" := by rfl
  obtain ⟨hcss, hxpath⟩ := isWellFormed_iff hparse rfl
  have hcssText : Css.selector (.text q.tagName) q =
      .ok (some "a[b='it\\'s'][c='10']") := by rfl
  have hxpathText : XPath.selector (.text q.tagName) q .context =
      .ok (some ".//a[@b=\"it's\"][@c='10']") := by rfl
  refine ⟨q, hparse, rfl, ⟨_, hcssText, ?_⟩, _, hxpathText, ?_⟩
  · have hletter : ∀ {c : Char}, Css.isNameStart c = true → Css.IsIdentifier [c] :=
      fun hc => .plain (.plain hc) ⟨[], List.forall_mem_nil _, rfl⟩
    rw [← hsubjects, (hcss _ hcssText).1, hsubjects, htag]
    refine ⟨.inr (hletter (c := 'a') rfl), fun name hname => ?_⟩
    rcases List.mem_pair.1 hname with h | h <;> rw [Subject.named.inj h]
    · exact hletter (c := 'b') rfl
    · exact hletter (c := 'c') rfl
  · have hletter : ∀ {c : Char}, XPath.isNameStart c = true → XPath.IsNameTest [c] :=
      fun hc => .name (.cons hc (List.forall_mem_nil _))
    rw [hxpath .context _ hxpathText _ rfl, hsubjects, htag]
    refine ⟨rfl, hletter (c := 'a') rfl, fun name hname => ?_⟩
    rcases List.mem_pair.1 hname with h | h <;> rw [Subject.named.inj h]
    · exact hletter (c := 'b') rfl
    · exact hletter (c := 'c') rfl

/-- Behind `*` there is no part of a CSS selector whose name starts with a digit. -/
theorem not_isCompound_digit (subjects : List Subject) :
    ¬Css.IsCompound subjects "*[1a='x']".toList := by
  rintro ⟨name, parts, hname, hparts, htext⟩
  have hparts' : parts.flatten = "[1a='x']".toList := by
    rcases hname with rfl | hname
    · exact (List.cons.inj htext).2.symm
    · obtain ⟨c, rest, rfl, hc⟩ := hname.exists_cons
      rw [← (List.cons.inj htext).1] at hc
      exact absurd hc (by decide)
  cases hparts with
  | nil => cases hparts'
  | cons hpart =>
    cases hpart with
    | named hidentifier =>
      obtain ⟨c, rest, rfl, hc⟩ := hidentifier.exists_cons
      rw [(List.cons.inj (List.cons.inj hparts').2).1] at hc
      exact absurd hc (by decide)
    | position => cases hparts'

/-- Behind `//*` there is no predicate of an XPath about a name that starts with a digit. -/
theorem not_isPath_digit (subjects : List Subject) :
    ¬XPath.IsPath subjects "//*[@1a='x']".toList := by
  rintro ⟨lead, hlead, test, parts, htest, hparts, htext⟩
  have hparts' : parts.flatten = "[@1a='x']".toList := by
    rcases List.mem_pair.1 hlead with rfl | rfl
    · have htest' : "*[@1a='x']".toList = test ++ parts.flatten :=
        (List.cons.inj (List.cons.inj htext).2).2
      rcases htest.exists_cons with rfl | ⟨c, rest, rfl, hc⟩
      · exact (List.cons.inj htest').2.symm
      · rw [← (List.cons.inj htest').1] at hc
        exact absurd hc (by decide)
    · exact absurd (List.cons.inj htext).1 (by decide)
  cases hparts with
  | nil => cases hparts'
  | cons hpart =>
    cases hpart with
    | brackets hcontent =>
      cases hcontent with
      | comparison hleft =>
        cases hleft with
        | named hname =>
          have hdigit := (List.cons.inj (List.cons.inj hparts').2).2
          rcases hname.exists_cons with rfl | ⟨c, rest, rfl, hc⟩
          · exact absurd (List.cons.inj hdigit).1 (by decide)
          · rw [(List.cons.inj hdigit).1] at hc
            exact absurd hc (by decide)
        | text => exact absurd (List.cons.inj (List.cons.inj hparts').2).1 (by decide)
      | @position digits hne hdigits =>
        obtain ⟨c, rest, rfl⟩ := List.exists_cons_of_ne_nil hne
        have hc := hdigits c List.mem_cons_self
        rw [(List.cons.inj (List.cons.inj hparts').2).1] at hc
        exact absurd hc (by decide)

/-- A name that starts with a digit makes no selector in either language, however it is read. -/
theorem not_isWellFormed_digit :
    let text := "\x7b:1a :x\x7d"
    ∃ q, parse text = .ok (.query q) ∧ q.hasPattern = false ∧
      (∃ s, Css.selector (.text q.tagName) q = .ok (some s) ∧
        ∀ subjects, ¬Css.IsCompound subjects s.toList) ∧
      ∃ s, XPath.selector (.text q.tagName) q .document = .ok (some s) ∧
        ∀ subjects, ¬XPath.IsPath subjects s.toList := by
  intro text
  let q : Query := ⟨[⟨"1a", .named, .literal "x"⟩]⟩
  have hread : Form.read "\x7b:1a :x\x7d" =
      .ok (.map [⟨⟨.keyword, [':', '1', 'a'], ⟨1, 2⟩⟩, ⟨.keyword, [':', 'x'], ⟨1, 6⟩⟩⟩]) := by
    cbv
  have hparse : parse text = .ok (.query q) := by
    rw [parse, hread]
    rfl
  have hcssText : Css.selector (.text q.tagName) q = .ok (some "*[1a='x']") := by rfl
  have hxpathText : XPath.selector (.text q.tagName) q .document =
      .ok (some "//*[@1a='x']") := by rfl
  exact ⟨q, hparse, rfl, ⟨_, hcssText, not_isCompound_digit⟩, _, hxpathText, not_isPath_digit⟩

end ElementQuery
