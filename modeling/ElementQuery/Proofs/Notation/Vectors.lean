import ElementQuery.Proofs.Notation.Juxtaposition
import ElementQuery.Proofs.Notation.Reading
import ElementQuery.Proofs.Query.Construction

/-!
# Vectors of maps

A vector means what its maps mean one by one, in whatever way they are separated: it is the
ancestry of their queries, or it has the fault of the first map that has one by itself. Before any
meaning is asked for, all that stands between the brackets has to be maps.

## Main definitions

* `IsMapText` : the texts of one map, as far as syntax goes.
* `JoinsMaps` : texts of maps put together, with separators around them.
* `IsMapSequence` : the texts that are maps put together.
* `InBrackets` : a text with brackets around another one.

## Main statements

* `JoinsMaps.parse_eq` : a vector is read map by map.
* `isMapSequence_of_isQueryText` : what follows the grammar has maps between its brackets.
* `parse_vector` : what a vector is read as, and when it is no vector of maps.
-/

namespace ElementQuery.Notation

open ElementQuery.Text

/-- The texts of one map, as far as syntax goes. -/
def IsMapText (text : String) : Prop :=
  ∃ tokens, Tokenizes text.toList tokens ∧ IsMap (terminals tokens)

/-- Texts of maps put together, with separators around them. -/
inductive JoinsMaps : List String → List Char → Prop where
  | nil {gap : List Char} (hgap : IsGap gap) : JoinsMaps [] gap
  | cons {m : String} {ms : List String} {gap rest : List Char} (hgap : IsGap gap)
      (hm : IsMapText m) (h : JoinsMaps ms rest) : JoinsMaps (m :: ms) (gap ++ (m.toList ++ rest))

/-- The texts that are maps put together. -/
def IsMapSequence (body : List Char) : Prop := ∃ ms, JoinsMaps ms body

/-- A text with brackets around another one, and separators around these. -/
def InBrackets (body : List Char) (text : String) : Prop :=
  ∃ lead trail, IsGap lead ∧ IsGap trail ∧ text.toList = lead ++ '[' :: (body ++ ']' :: trail)

section Meanings

variable [Regex.Engine]

/-- What a token means does not depend on its place. -/
theorem Token.meaning_congr {a b : Token} (h : (a.terminal, a.lexeme) = (b.terminal, b.lexeme)) :
    a.meaning = b.meaning := by
  obtain ⟨hterminal, hlexeme⟩ := Prod.mk.inj h
  rw [Token.meaning, Token.meaning, hterminal, hlexeme]

theorem mapM_meaning_congr {a b : List Token} (h : unplaced a = unplaced b) :
    (entriesOf a).mapM Entry.meaning = (entriesOf b).mapM Entry.meaning := by
  fun_induction entriesOf a generalizing b with
  | case1 key value rest ih =>
    obtain ⟨key', behind, rfl, hkey, hbehind⟩ := List.map_eq_cons_iff.1 h.symm
    obtain ⟨value', rest', rfl, hvalue, hrest⟩ := List.map_eq_cons_iff.1 hbehind
    have hentry : Entry.meaning ⟨key, value⟩ = Entry.meaning ⟨key', value'⟩ := by
      simp only [Entry.meaning, Token.meaning_congr hkey, Token.meaning_congr hvalue]
    rw [entriesOf, List.mapM_cons, List.mapM_cons, hentry, ih hrest.symm]
  | case2 a hshort =>
    have hshort' : entriesOf b = [] := by
      rcases a with - | ⟨key, - | ⟨value, rest⟩⟩
      · obtain rfl := List.map_eq_nil_iff.1 h.symm
        rfl
      · obtain ⟨key', rfl, -⟩ := List.map_eq_singleton_iff.1 h.symm
        rfl
      · exact absurd rfl (hshort key value rest)
    rw [hshort']

/-- The query of a map does not depend on where it stands. -/
theorem evaluateMap_congr {a b : List Token} (h : unplaced a = unplaced b) :
    evaluateMap (mapEntries a) = evaluateMap (mapEntries b) := by
  have hinner : unplaced a.tail.dropLast = unplaced b.tail.dropLast := by
    simp only [unplaced, List.map_dropLast, List.map_tail] at h ⊢
    rw [h]
  rw [evaluateMap, evaluateMap, mapEntries, mapEntries, mapM_meaning_congr hinner]

/-- The query that a map is read as. -/
theorem parse_of_isMap {text : String} {tokens : List Token} (h : Tokenizes text.toList tokens)
    (hmap : IsMap (terminals tokens)) :
    parse text = .query <$> evaluateMap (mapEntries tokens) := by
  have hread : Form.read text = .ok (.map (mapEntries tokens)) :=
    Form.read_of_tokenizes h (hmap.run fun _ => Stage.step_start_openMap)
  rw [parse, hread]
  rfl

/-- A text with the tokens of a map means the query of its entries. -/
theorem parseQuery_of_isMap {text : String} {tokens : List Token}
    (h : Tokenizes text.toList tokens) (hmap : IsMap (terminals tokens)) :
    parseQuery text = evaluateMap (mapEntries tokens) := by
  rw [parseQuery, parse_of_isMap h hmap]
  cases evaluateMap (mapEntries tokens) <;> rfl

theorem parseQuery_eq_ok_iff {text : String} {q : Query} :
    parseQuery text = .ok q ↔ parse text = .ok (.query q) := by
  rw [parseQuery, bind_eq_ok_iff]
  constructor
  · rintro ⟨p, hp, h⟩
    cases p <;> cases h
    exact hp
  · intro h
    exact ⟨_, h, rfl⟩

/-- Where a query is asked for, a map is complained about as anywhere. -/
theorem IsMapText.parseQuery_eq_error_iff {text : String} {e : Error} (h : IsMapText text) :
    parseQuery text = .error e ↔ parse text = .error e := by
  obtain ⟨tokens, htokens, hmap⟩ := h
  rw [parseQuery_of_isMap htokens hmap, parse_of_isMap htokens hmap, map_eq_error_iff]

end Meanings

/-- The text of a map is one that is read as one. -/
theorem isMapText_iff {text : String} :
    IsMapText text ↔ ∃ entries, Form.read text = .ok (.map entries) := by
  constructor
  · rintro ⟨tokens, htokens, hmap⟩
    obtain ⟨entries, hrun⟩ := isMap_iff.1 hmap
    exact ⟨entries, Form.read_of_tokenizes htokens hrun⟩
  · rintro ⟨entries, hread⟩
    obtain ⟨tokens, htokens, hrun⟩ := Form.read_eq_ok_iff.1 hread
    exact ⟨tokens, htokens, isMap_iff.2 ⟨entries, hrun⟩⟩

theorem tokenizes_of_isGap {gap : List Char} (h : IsGap gap) : Tokenizes gap [] :=
  ⟨Place.start, gap, h, .nil⟩

theorem endsAt_nil (c : Char) : EndsAt [] c := nofun

/-- A map starts with a brace, whatever follows it. -/
theorem IsMapText.isBoundary_append {m : String} (h : IsMapText m) (rest : List Char) :
    IsBoundary (m.toList ++ rest) := by
  obtain ⟨tokens, ⟨behind, left, -, hlexes⟩, hmap⟩ := h
  generalize m.toList = text at hlexes
  generalize hts : terminals tokens = ts at hmap
  cases hmap with
  | braces =>
    cases hlexes with
    | nil => cases hts
    | @cons _ _ gap lexeme _ _ t _ hgap htoken =>
      obtain rfl : t = .openMap := (List.cons.inj hts).1
      have hbrace := htoken.1
      cases hbrace
      rw [List.append_assoc]
      exact IsBoundary.append hgap (isBoundary_cons.2 (by decide))

theorem JoinsMaps.isBoundary {ms : List String} {body : List Char} (h : JoinsMaps ms body) :
    IsBoundary body := by
  cases h with
  | nil hgap => exact hgap.isBoundary
  | cons hgap hm h => exact IsBoundary.append hgap (hm.isBoundary_append _)

/-- The tokens of maps put together are those of the maps, and so is what they mean. -/
theorem JoinsMaps.exists_tokens [Regex.Engine] {ms : List String} {body : List Char}
    (h : JoinsMaps ms body) :
    ∃ tokens, Tokenizes body tokens ∧ ∀ inner, unplaced inner = unplaced tokens →
      ∃ maps : List (List Token), inner = maps.flatten ∧ (∀ m ∈ maps, IsMap (terminals m)) ∧
        maps.mapM (fun m => evaluateMap (mapEntries m)) = ms.mapM parseQuery := by
  induction h with
  | nil hgap =>
    refine ⟨[], tokenizes_of_isGap hgap, fun inner hinner => ⟨[], ?_, by simp, rfl⟩⟩
    exact List.map_eq_nil_iff.1 hinner
  | @cons m ms gap rest hgap hm hjoins ih =>
    obtain ⟨own, hown, hmap⟩ := hm
    obtain ⟨others, hothers, hmeans⟩ := ih
    obtain ⟨both, hboth, hsplit⟩ := hown.append hothers (hjoins.isBoundary.endsAt own)
    obtain ⟨tokens, htokens, hsame⟩ :=
      (tokenizes_of_isGap hgap).append hboth fun c _ => endsAt_nil c
    refine ⟨tokens, htokens, fun inner hinner => ?_⟩
    rw [hsame, hsplit, unplaced_nil, List.nil_append] at hinner
    obtain ⟨first, behind, rfl, hfirst, hbehind⟩ := List.map_eq_append_iff.1 hinner
    obtain ⟨maps, rfl, hmaps, hresults⟩ := hmeans behind hbehind
    have hfirstMap : IsMap (terminals first) := terminals_congr hfirst ▸ hmap
    refine ⟨first :: maps, rfl, List.forall_mem_cons.2 ⟨hfirstMap, hmaps⟩, ?_⟩
    rw [List.mapM_cons, List.mapM_cons, hresults, evaluateMap_congr hfirst,
      parseQuery_of_isMap hown hmap]

/-- A text whose tokens are those of maps is maps put together. -/
theorem Tokenizes.isMapSequence {body : List Char} {tokens : List Token}
    (h : Tokenizes body tokens) (hmaps : IsMaps (terminals tokens)) : IsMapSequence body := by
  generalize hts : terminals tokens = ts at hmaps
  induction hmaps generalizing body tokens with
  | nil =>
    obtain rfl := List.map_eq_nil_iff.1 hts
    obtain ⟨behind, gap, hgap, hlexes⟩ := h
    cases hlexes
    exact ⟨[], .nil hgap⟩
  | cons hfirst _ ih =>
    obtain ⟨first, behind, rfl, hmap, hbehind⟩ := List.map_eq_append_iff.1 hts
    obtain ⟨m, rest, others, rfl, hm, hrest, hsame⟩ := h.exists_split
    obtain ⟨ms, hjoins⟩ := ih hrest ((terminals_congr hsame).trans hbehind)
    have hmText : IsMapText (String.ofList m) :=
      ⟨first, by rwa [String.toList_ofList], by rwa [terminals, hmap]⟩
    have hcons := JoinsMaps.cons isGap_nil hmText hjoins
    rw [String.toList_ofList] at hcons
    exact ⟨_, hcons⟩

/-- What is put together from maps is what has the tokens of maps. -/
theorem isMapSequence_iff {body : List Char} :
    IsMapSequence body ↔ ∃ tokens, Tokenizes body tokens ∧ IsMaps (terminals tokens) := by
  constructor
  · rintro ⟨ms, h⟩
    obtain ⟨tokens, htokens, hmeans⟩ := h.exists_tokens
    obtain ⟨maps, rfl, hmaps, -⟩ := hmeans tokens rfl
    exact ⟨_, htokens, (isMaps_iff []).2 ⟨_, Stage.run_flatten hmaps []⟩⟩
  · rintro ⟨tokens, htokens, hmaps⟩
    exact htokens.isMapSequence hmaps

theorem tokenizes_openVector {lead : List Char} (h : IsGap lead) :
    Tokenizes (lead ++ ['[']) [⟨.openVector, ['['], Place.start.after lead⟩] :=
  Terminal.Matches.openVector.tokenizes h isGap_nil

theorem tokenizes_closeVector {trail : List Char} (h : IsGap trail) :
    Tokenizes (']' :: trail) [⟨.closeVector, [']'], Place.start⟩] :=
  Terminal.Matches.closeVector.tokenizes isGap_nil h

theorem endsAt_openVector (lexeme : List Char) (place : Place) (c : Char) :
    EndsAt [⟨.openVector, lexeme, place⟩] c := by
  rintro _ ⟨⟩
  rfl

/-- A vector is read map by map. -/
theorem JoinsMaps.parse_eq [Regex.Engine] {ms : List String} {body : List Char} {text : String}
    (h : JoinsMaps ms body) (htext : InBrackets body text) :
    parse text = (.ancestry ⟨·⟩) <$> ms.mapM parseQuery := by
  obtain ⟨lead, trail, hlead, htrail, htext⟩ := htext
  obtain ⟨tokens, htokens, hmeans⟩ := h.exists_tokens
  have hbracket : IsBoundary (']' :: trail) := isBoundary_cons.2 (by decide)
  obtain ⟨closed, hclosed, hbehind⟩ :=
    htokens.append (tokenizes_closeVector htrail) (hbracket.endsAt tokens)
  obtain ⟨all, hall, hfront⟩ :=
    (tokenizes_openVector hlead).append hclosed fun c _ => endsAt_openVector _ _ c
  rw [List.append_assoc, List.singleton_append, ← htext] at hall
  rw [hbehind] at hfront
  change unplaced all = _ :: (unplaced tokens ++ [_]) at hfront
  -- So the tokens are the two brackets, with those of the maps between them at other places.
  obtain ⟨opening, more, rfl, hopening, hmore⟩ := List.map_eq_cons_iff.1 hfront
  obtain ⟨inner, last, rfl, hinner, hlast⟩ := List.map_eq_append_iff.1 hmore
  obtain ⟨closing, rfl, hclosing⟩ := List.map_eq_singleton_iff.1 hlast
  obtain ⟨maps, rfl, hmaps, hresults⟩ := hmeans inner hinner
  have hrun := Stage.run_vector (Prod.mk.inj hopening).1 hmaps (Prod.mk.inj hclosing).1
  rw [parse, Form.read_of_tokenizes hall hrun]
  change (_ <$> (maps.map mapEntries).mapM evaluateMap : Except Error Parsed) = _
  rw [List.mapM_map, ← hresults]
  rfl

/-- A text with one closing bracket as its token has it between separators. -/
theorem Tokenizes.eq_of_closeVector {text : List Char} {token : Token}
    (h : Tokenizes text [token]) (htoken : token.terminal = .closeVector) :
    ∃ gap trail, IsGap gap ∧ IsGap trail ∧ text = gap ++ ']' :: trail := by
  obtain ⟨behind, trail, htrail, hlexes⟩ := h
  cases hlexes with
  | @cons _ _ gap lexeme rest _ t _ hgap hmatch hrest =>
    obtain rfl : t = .closeVector := htoken
    have hbracket := hmatch.1
    cases hbracket
    cases hrest
    exact ⟨gap, _, hgap, htrail, rfl⟩

/-- Texts in front of a closing bracket that nothing but separators follows are told. -/
theorem eq_of_append_closeVector {a b trail trail' : List Char} (h : IsGap trail)
    (h' : IsGap trail') (heq : a ++ ']' :: trail = b ++ ']' :: trail') : a = b := by
  have hnil : ∀ {more gap gap' : List Char}, IsGap gap → ']' :: gap = more ++ ']' :: gap' →
      more = [] := by
    intro more gap gap' hgap heq
    cases more with
    | nil => rfl
    | cons c more =>
      have hsep := hgap ']' (by rw [(List.cons.inj heq).2]; simp)
      exact absurd hsep (by decide)
  rcases List.append_eq_append_iff.1 heq with ⟨more, rfl, hmore⟩ | ⟨more, rfl, hmore⟩
  · rw [hnil h hmore, List.append_nil]
  · rw [hnil h' hmore, List.append_nil]

/-- What follows the grammar has maps between its brackets. -/
theorem isMapSequence_of_isQueryText {body : List Char} {text : String}
    (htext : InBrackets body text) (h : IsQueryText text.toList) : IsMapSequence body := by
  obtain ⟨lead, trail, hlead, htrail, htext⟩ := htext
  obtain ⟨tokens, htokens, hform⟩ := h
  rw [htext, ← List.singleton_append, ← List.append_assoc] at htokens
  obtain ⟨behind, hbehind, hfront⟩ :=
    (tokenizes_openVector hlead).of_append_left htokens fun c _ => endsAt_openVector _ _ c
  have hterminals : terminals tokens = .openVector :: terminals behind := by
    rw [terminals_eq_map_unplaced, hfront, List.map_append, ← terminals_eq_map_unplaced,
      ← terminals_eq_map_unplaced]
    rfl
  rw [hterminals] at hform
  generalize hts : Terminal.openVector :: terminals behind = ts at hform
  rcases hform with ⟨⟨-⟩⟩ | ⟨⟨hmaps⟩⟩
  · cases hts
  · -- The last token is the bracket that closes the vector; the others are those of maps.
    obtain ⟨inner, last, rfl, hinner, hlast⟩ := List.map_eq_append_iff.1 (List.cons.inj hts).2
    obtain ⟨front, back, closing, hcut, hfrontTokens, hback, hsame⟩ := hbehind.exists_split
    have hclosing : terminals closing = [.closeVector] := (terminals_congr hsame).trans hlast
    obtain ⟨token, rfl, htoken⟩ := List.map_eq_singleton_iff.1 hclosing
    obtain ⟨gap, trail', hgap, htrail', rfl⟩ := hback.eq_of_closeVector htoken
    rw [← List.append_assoc] at hcut
    obtain rfl : body = front ++ gap := eq_of_append_closeVector htrail htrail' hcut
    obtain ⟨all, hall, hallSame⟩ :=
      hfrontTokens.append (tokenizes_of_isGap hgap) (hgap.isBoundary.endsAt inner)
    rw [unplaced_nil, List.append_nil] at hallSame
    exact hall.isMapSequence (by rwa [terminals_congr hallSame, terminals, hinner])

theorem endsAt_of_isMaps {tokens : List Token} (h : IsMaps (terminals tokens)) (c : Char) :
    EndsAt tokens c := by
  intro token htoken
  have hlast : (terminals tokens).getLast? = some token.terminal := by
    rw [terminals, List.getLast?_map, Option.mem_def.1 htoken]
    rfl
  rw [h.getLast?_eq hlast]
  rfl

theorem IsMapSequence.isBoundary {body : List Char} (h : IsMapSequence body) : IsBoundary body := by
  obtain ⟨ms, h⟩ := h
  exact h.isBoundary

/-- What stands between maps in a sequence of maps is one, unless a quoted text in it goes on in
what follows. -/
theorem IsMapSequence.of_append {front piece back : List Char} (hfront : IsMapSequence front)
    (hback : IsMapSequence back) (hpiece : back = [] ∨ ∃ tokens, Tokenizes piece tokens)
    (h : IsMapSequence (front ++ (piece ++ back))) : IsMapSequence piece := by
  obtain ⟨fronts, hfronts, hfrontMaps⟩ := isMapSequence_iff.1 hfront
  obtain ⟨backs, hbacks, hbackMaps⟩ := isMapSequence_iff.1 hback
  obtain ⟨all, hall, hallMaps⟩ := isMapSequence_iff.1 h
  obtain ⟨behind, hbehind, hsplit⟩ :=
    hfronts.of_append_left hall fun c _ => endsAt_of_isMaps hfrontMaps c
  have hbehindMaps : IsMaps (terminals behind) := by
    rw [← unplaced_append] at hsplit
    exact hfrontMaps.of_append_left (terminals_congr hsplit ▸ hallMaps)
  rcases hpiece with rfl | ⟨pieces, hpieces⟩
  · rw [List.append_nil] at hbehind
    exact hbehind.isMapSequence hbehindMaps
  · obtain ⟨others, hothers, hsplit⟩ :=
      hpieces.of_append_left hbehind (hback.isBoundary.endsAt pieces)
    rw [hothers.unique hbacks, ← unplaced_append] at hsplit
    exact hpieces.isMapSequence (hbackMaps.of_append_right (terminals_congr hsplit ▸ hbehindMaps))

/-- What does not follow the grammar is complained about for that. -/
theorem exists_syntactic_of_not_isQueryText [Regex.Engine] {text : String}
    (h : ¬IsQueryText text.toList) :
    ∃ e, parse text = .error e ∧ e.isSyntactic = true := by
  cases hread : Form.read text with
  | ok form => exact absurd (Form.exists_read_iff.1 ⟨form, hread⟩) h
  | error e => exact ⟨e, bind_eq_error_iff.2 (.inl hread), Form.isSyntactic_of_read hread⟩

/-- A map is read as a query, or complains about something else than its syntax. -/
theorem IsMapText.parse_cases [Regex.Engine] {m : String} (h : IsMapText m) :
    (∃ q, parse m = .ok (.query q)) ∨ ∃ e, parse m = .error e ∧ e.isSyntactic = false := by
  obtain ⟨tokens, htokens, hmap⟩ := h
  rw [parse_of_isMap htokens hmap]
  cases hmeans : evaluateMap (mapEntries tokens) with
  | ok q => exact .inl ⟨q, rfl⟩
  | error e => exact .inr ⟨e, rfl, isSyntactic_of_evaluateMap hmeans⟩

theorem JoinsMaps.isMapText {ms : List String} {body : List Char} (h : JoinsMaps ms body) :
    ∀ m ∈ ms, IsMapText m := by
  induction h with
  | nil => simp
  | cons _ hm _ ih => exact List.forall_mem_cons.2 ⟨hm, ih⟩

/-- A vector of maps has the fault of its first map that has one. -/
theorem JoinsMaps.parse_eq_error_iff [Regex.Engine] {ms : List String} {body : List Char}
    {text : String} {e : Error} (h : JoinsMaps ms body) (htext : InBrackets body text) :
    parse text = .error e ↔ ∃ before m after, ms = before ++ m :: after ∧
      (∀ m' ∈ before, ∃ q, parse m' = .ok (.query q)) ∧ parse m = .error e := by
  rw [h.parse_eq htext, map_eq_error_iff, mapM_eq_error_iff]
  refine exists_congr fun before => exists_congr fun m => exists_congr fun after =>
    and_congr_right fun hms => ?_
  have hm : IsMapText m := h.isMapText m (by simp [hms])
  rw [hm.parseQuery_eq_error_iff]
  simp only [parseQuery_eq_ok_iff]

/-- A text with brackets around maps, however separated, is read as the ancestry of the queries that
the maps are read as, and if some map has a fault by itself, it has the fault of the first one that
has. It has a syntactic fault exactly if what stands between the brackets is not maps put together;
maps around a piece that is not, whatever is wrong with them, do not help it. -/
theorem parse_vector [Regex.Engine] {text : String} {body : List Char}
    (htext : InBrackets body text) :
    (∀ maps, JoinsMaps maps body →
      (∀ m ∈ maps, (∃ q, parse m = .ok (.query q)) ∨
        ∃ e, parse m = .error e ∧ e.isSyntactic = false) ∧
      (∀ qs, parse text = .ok (.ancestry ⟨qs⟩) ↔
        List.Forall₂ (fun m q => parse m = .ok (.query q)) maps qs) ∧
      ∀ e, parse text = .error e ↔ ∃ before m after, maps = before ++ m :: after ∧
        (∀ m' ∈ before, ∃ q, parse m' = .ok (.query q)) ∧ parse m = .error e) ∧
    ((∃ e, parse text = .error e ∧ e.isSyntactic = true) ↔ ¬IsMapSequence body) ∧
    ∀ front piece back, body = front ++ (piece ++ back) → IsMapSequence front →
      ¬IsMapSequence piece → IsMapSequence back →
      (back = [] ∨ ∃ tokens, Tokenizes piece tokens) →
      ∃ e, parse text = .error e ∧ e.isSyntactic = true := by
  have hfault : ¬IsMapSequence body → ∃ e, parse text = .error e ∧ e.isSyntactic = true := fun h =>
    exists_syntactic_of_not_isQueryText fun hquery => h (isMapSequence_of_isQueryText htext hquery)
  refine ⟨fun maps h => ⟨fun m hm => (h.isMapText m hm).parse_cases, fun qs => ?_,
    fun e => h.parse_eq_error_iff htext⟩, ⟨?_, hfault⟩, ?_⟩
  · rw [h.parse_eq htext, map_eq_ok_iff]
    simp only [Parsed.ancestry.injEq, Ancestry.mk.injEq, exists_eq_right, mapM_eq_ok_iff,
      parseQuery_eq_ok_iff]
  · rintro ⟨e, herror, hsyntactic⟩ ⟨maps, h⟩
    obtain ⟨before, m, after, hmaps, -, hm⟩ := (h.parse_eq_error_iff htext).1 herror
    -- A map of the vector complains about no syntax.
    rcases (h.isMapText m (by simp [hmaps])).parse_cases with ⟨q, hq⟩ | ⟨e', he', hmeaning⟩
    · rw [hm] at hq
      cases hq
    · rw [hm] at he'
      cases he'
      rw [hsyntactic] at hmeaning
      cases hmeaning
  · rintro front piece back rfl hfront hnot hback hpiece
    exact hfault fun h => hnot (hfront.of_append hback hpiece h)

/-- A key that is given twice in the first map counts more than a regular expression that is none in
the second one, and less than a keyword between the maps. -/
theorem parse_vector_two_faults :
    let first := "\x7b:b 2 :b 3\x7d"
    let second := "\x7b:a #\"(\"\x7d"
    JoinsMaps [first, second] (first.toList ++ ([',', ' '] ++ second.toList)) ∧
      parse "[\x7b:b 2 :b 3\x7d, \x7b:a #\"(\"\x7d]" = .error (.invalidQuery (.duplicateKey "b")) ∧
      ∃ e, parse "[\x7b:b 2 :b 3\x7d :c, \x7b:a #\"(\"\x7d]" = .error e ∧ e.isSyntactic = true := by
  intro first second
  have hread : Form.read "\x7b:b 2 :b 3\x7d" = .ok (.map
      [⟨⟨.keyword, [':', 'b'], ⟨1, 2⟩⟩, ⟨.integer, ['2'], ⟨1, 5⟩⟩⟩,
        ⟨⟨.keyword, [':', 'b'], ⟨1, 7⟩⟩, ⟨.integer, ['3'], ⟨1, 10⟩⟩⟩]) := by cbv
  have hfirst : IsMapText first := isMapText_iff.2 ⟨_, hread⟩
  have hread' : Form.read "\x7b:a #\"(\"\x7d" = .ok (.map
      [⟨⟨.keyword, [':', 'a'], ⟨1, 2⟩⟩, ⟨.regex, ['#', '"', '(', '"'], ⟨1, 5⟩⟩⟩]) := by cbv
  have hsecond : IsMapText second := isMapText_iff.2 ⟨_, hread'⟩
  have hseparators : IsGap [',', ' '] := by decide
  have hback : JoinsMaps [second] ([',', ' '] ++ second.toList) := by
    simpa using JoinsMaps.cons hseparators hsecond (.nil isGap_nil)
  have hjoins : JoinsMaps [first, second] (first.toList ++ ([',', ' '] ++ second.toList)) :=
    .cons isGap_nil hfirst hback
  have hfront : IsMapSequence first.toList :=
    ⟨[first], by simpa using JoinsMaps.cons isGap_nil hfirst (.nil isGap_nil)⟩
  have hkeyword : Terminal.Matches .keyword [':', 'c'] :=
    .keyword (by decide) (List.forall_mem_singleton.2 (by decide))
  have hpiece : Tokenizes [' ', ':', 'c'] _ :=
    hkeyword.tokenizes (show IsGap [' '] by decide) isGap_nil
  have hnot : ¬IsMapSequence [' ', ':', 'c'] := by
    intro h
    obtain ⟨tokens, htokens, hmaps⟩ := isMapSequence_iff.1 h
    rw [htokens.unique hpiece] at hmaps
    cases hmaps.head?_eq rfl
  have hfault : parse first = .error (.invalidQuery (.duplicateKey "b")) := by
    have htwo : Criterion.ofValue .named (.int 2) = .ok (.literal "2") :=
      Criterion.ofValue_int (by decide) (Number.printable_of_natAbs_le (by decide))
    have hentry : Predicate.ofPair [] (.text "b", .int 2) = .ok ⟨"b", .named, .literal "2"⟩ :=
      Predicate.ofPair_eq_ok_iff.2 ⟨by decide, List.not_mem_nil, rfl, rfl, htwo⟩
    have hquery : Query.ofPairs [(.text "b", .int 2), (.text "b", .int 3)] =
        .error (.invalidValue (.duplicateKey "b")) := by
      rw [Query.ofPairs, Predicate.ofPairs_cons, hentry]
      rfl
    rw [parse, hread]
    change Parsed.query <$> (Query.ofPairs [(.text "b", .int 2), (.text "b", .int 3)]).mapError
      Error.ofFault = _
    rw [hquery]
    rfl
  refine ⟨hjoins, ?_, ?_⟩
  · have htext : InBrackets (first.toList ++ ([',', ' '] ++ second.toList))
        "[\x7b:b 2 :b 3\x7d, \x7b:a #\"(\"\x7d]" :=
      ⟨[], [], isGap_nil, isGap_nil, by simp [first, second]⟩
    obtain ⟨hmaps, -⟩ := parse_vector htext
    exact ((hmaps _ hjoins).2.2 _).2 ⟨[], first, [second], rfl, by simp, hfault⟩
  · have htext : InBrackets (first.toList ++ ([' ', ':', 'c'] ++ ([',', ' '] ++ second.toList)))
        "[\x7b:b 2 :b 3\x7d :c, \x7b:a #\"(\"\x7d]" :=
      ⟨[], [], isGap_nil, isGap_nil, by simp [first, second]⟩
    obtain ⟨-, -, hpieces⟩ := parse_vector htext
    exact hpieces _ _ _ rfl hfront hnot ⟨_, hback⟩ (.inr ⟨_, hpiece⟩)

end ElementQuery.Notation
