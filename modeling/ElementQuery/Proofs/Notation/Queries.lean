import ElementQuery.Proofs.Notation.Breakdowns
import ElementQuery.Proofs.Query.Names

/-!
# Queries that texts are read as

A query that a text is read as is made from keys with plain values, and its names are keywords: no
name is empty, holds a separator or a bracket of the notation, or is given twice.

## Main statements

* `ofPlainValues_of_parse` : the query of a text is made from plain values.
* `isKeywordText_of_parse` : the names of a query are keywords.
-/

namespace ElementQuery

open ElementQuery.Notation

namespace Notation

theorem key_mem_of_mem_entriesOf {tokens : List Token} {entry : Entry}
    (h : entry ∈ entriesOf tokens) : entry.key ∈ tokens := by
  match tokens with
  | [] | [_] => cases h
  | key :: value :: rest =>
    rcases List.mem_cons.1 h with rfl | h
    · exact List.mem_cons_self
    · exact List.mem_cons_of_mem _ (List.mem_cons_of_mem _ (key_mem_of_mem_entriesOf h))

theorem key_mem_of_mem_mapEntries {tokens : List Token} {entry : Entry}
    (h : entry ∈ mapEntries tokens) : entry.key ∈ tokens :=
  List.mem_of_mem_tail (List.dropLast_subset _ (key_mem_of_mem_entriesOf h))

/-- A keyword is a name that nothing is dropped from. -/
theorem IsKeywordText.bareName_eq {name : String} (h : IsKeywordText name) :
    bareName name = name := by
  refine bareName_eq_self_iff.2 fun c rest hname => ?_
  exact not_mem_of_isKeywordChar (by decide) h (hname ▸ List.mem_cons_self)

variable [Regex.Engine]

/-- No token means a criterion made beforehand. -/
theorem Token.isPlain_of_meaning {token : Token} {v : Value} (h : token.meaning = .ok v) :
    v.IsPlain := by
  rw [meaning] at h
  split at h
  · cases h
    trivial
  · cases h
    trivial
  · simp only [regexOf] at h
    split at h <;> cases h
    trivial
  · simp only [integerOf] at h
    split at h <;> cases h
    trivial
  · cases h
    trivial

/-- The query of a map is made from plain values. -/
theorem ofPlainValues_of_evaluateMap {entries : List Entry} {q : Query}
    (h : evaluateMap entries = .ok q) : q.OfPlainValues := by
  obtain ⟨pairs, hpairs, h⟩ := bind_eq_ok_iff.1 h
  refine ⟨pairs, fun pair hpair => ?_, mapError_eq_ok_iff.1 h⟩
  obtain ⟨entry, -, hentry⟩ := exists_of_mapM_eq_ok hpairs hpair
  obtain ⟨_, -, hentry⟩ := bind_eq_ok_iff.1 hentry
  obtain ⟨_, hvalue, hentry⟩ := bind_eq_ok_iff.1 hentry
  cases hentry
  exact Token.isPlain_of_meaning hvalue

/-- A text that is read as a query is a map, of which the entries make the query. -/
theorem exists_read_of_parse {text : String} {q : Query} (h : parse text = .ok (.query q)) :
    ∃ entries, Form.read text = .ok (.map entries) ∧ evaluateMap entries = .ok q := by
  obtain ⟨form, hread, h⟩ := bind_eq_ok_iff.1 h
  cases form with
  | map entries =>
    obtain ⟨_, hmap, h⟩ := map_eq_ok_iff.1 h
    cases h
    exact ⟨entries, hread, hmap⟩
  | vector maps =>
    obtain ⟨_, -, h⟩ := map_eq_ok_iff.1 h
    cases h

/-- The query that a text is read as is made from plain values. -/
theorem ofPlainValues_of_parse {text : String} {q : Query} (h : parse text = .ok (.query q)) :
    q.OfPlainValues := by
  obtain ⟨entries, -, hmap⟩ := exists_read_of_parse h
  exact ofPlainValues_of_evaluateMap hmap

/-- A keyword as a key is its name without the colon. -/
theorem isKeywordText_keyName? {key : Token} {v : Value} {name : String}
    (hkey : key.terminal = .keyword) (hmatches : key.terminal.Matches key.lexeme)
    (h : key.meaning = .ok v) (hname : v.keyName? = some name) : IsKeywordText name := by
  obtain ⟨terminal, lexeme, place⟩ := key
  obtain rfl : terminal = .keyword := hkey
  cases h
  cases hmatches with
  | @keyword cs hne hcs =>
    have hkeyword : IsKeywordText (String.ofList cs) := by
      rw [IsKeywordText, String.toList_ofList]
      exact hcs
    have hbare : bareName (String.ofList cs) = name := Option.some.inj hname
    rwa [← hbare, hkeyword.bareName_eq]

/-- The names of the query that a text is read as are keywords. -/
theorem isKeywordText_of_parse {text : String} {q : Query} (h : parse text = .ok (.query q)) :
    ∀ p ∈ q.predicates, IsKeywordText p.name := by
  obtain ⟨entries, hread, hmap⟩ := exists_read_of_parse h
  obtain ⟨tokens, ⟨_, _, -, hlexes⟩, hrun⟩ := Form.read_eq_ok_iff.1 hread
  have hentries := isMap_iff.2 ⟨entries, hrun⟩
  rw [hentries.run fun _ => Stage.step_start_openMap] at hrun
  obtain rfl : mapEntries tokens = entries := by
    cases hrun
    rfl
  obtain ⟨pairs, hpairs, hquery⟩ := bind_eq_ok_iff.1 hmap
  obtain ⟨ps, hps, rfl⟩ := map_eq_ok_iff.1 (mapError_eq_ok_iff.1 hquery)
  intro p hp
  obtain ⟨pair, hpair, hof⟩ := exists_of_forall₂_of_mem (Predicate.forall₂_of_ofPairs hps).flip hp
  obtain ⟨entry, hentry, hmeaning⟩ := exists_of_mapM_eq_ok hpairs hpair
  obtain ⟨key, hkey, hmeaning⟩ := bind_eq_ok_iff.1 hmeaning
  obtain ⟨_, -, hmeaning⟩ := bind_eq_ok_iff.1 hmeaning
  cases hmeaning
  exact isKeywordText_keyName? (hentries.of_mem_mapEntries entry hentry).1
    (hlexes.matches _ (key_mem_of_mem_mapEntries hentry)) hkey hof.name

end Notation

end ElementQuery
