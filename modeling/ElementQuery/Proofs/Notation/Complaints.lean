import ElementQuery.Proofs.Notation.Reading

/-!
# Complaints about the syntax of a text

A syntactic fault is found as early as it can be: what stands in front of the place that it names
can be completed, and what can follow there is what it says was expected. A token that it names
cannot be completed. Only behind a map that stands alone does the complaint about a stray character
expect something else.

## Main definitions

* `Error.place?` : the place that a syntactic fault names.
* `IsBefore` : the text in front of a place.
* `Expected.Names` : whether an expectation names a terminal.
* `Error.IsStrayBehindMap` : a stray character behind a map that stands alone.

## Main statements

* `Place.eq_of_after_eq` : a place in a text tells what stands in front of it.
* `not_isQueryText_of_token` : no text goes on with a token that does not fit.
* `parse_complaint` : what a complaint about the syntax of a text says is true.
-/

namespace ElementQuery.Notation

namespace Place

/-- A text leads to a later line, or as far on in the same line as it is long. -/
theorem line_lt_or_column_eq (place : Place) (cs : List Char) :
    place.line < (place.after cs).line ∨
      place.line = (place.after cs).line ∧ place.column + cs.length = (place.after cs).column := by
  induction cs generalizing place with
  | nil => exact .inr ⟨rfl, rfl⟩
  | cons c cs ih =>
    have hcons : place.after (c :: cs) = (place.after [c]).after cs := after_append place [c] cs
    rw [hcons, List.length_cons]
    have hrest := ih (place.after [c])
    by_cases hc : c = '\n'
    · have hone : (place.after [c]).line = place.line + 1 := by simp [after, hc]
      omega
    · have hone : place.after [c] = ⟨place.line, place.column + 1⟩ := by simp [after, hc]
      rw [hone] at hrest ⊢
      simp only at hrest
      omega

/-- A place in a text tells what stands in front of it. -/
theorem eq_of_after_eq {place : Place} {a b text : List Char} (ha : a <+: text) (hb : b <+: text)
    (h : place.after a = place.after b) : a = b := by
  have hle : ∀ {a b : List Char}, a <+: b → place.after a = place.after b → a = b := by
    rintro a _ ⟨more, rfl⟩ h
    rw [after_append] at h
    have hmore := (place.after a).line_lt_or_column_eq more
    rw [← h] at hmore
    have hnil : more = [] := List.length_eq_zero_iff.1 (by omega)
    rw [hnil, List.append_nil]
  rcases List.prefix_or_prefix_of_prefix ha hb with hab | hba
  · exact hle hab h
  · exact (hle hba h.symm).symm

end Place

/-- The place that a syntactic fault names, unless the text ends too early. -/
def Error.place? : Error → Option Place
  | unexpectedToken token _ => if token.terminal = .endOfText then none else some token.place
  | unexpectedCharacter _ place _ => some place
  | _ => none

/-- What of a text stands in front of a place; all of it without a place. -/
def IsBefore (text : List Char) (place? : Option Place) (before : List Char) : Prop :=
  match place? with
  | some place => before <+: text ∧ Place.start.after before = place
  | none => before = text

/-- A place in a text has one text before it. -/
theorem isBefore_iff {text before : List Char} {place : Place} (hbefore : before <+: text)
    (hplace : Place.start.after before = place) {other : List Char} :
    IsBefore text (some place) other ↔ other = before := by
  constructor
  · rintro ⟨hother, hsame⟩
    exact Place.eq_of_after_eq hother hbefore (hsame.trans hplace.symm)
  · rintro rfl
    exact ⟨hbefore, hplace⟩

/-- Whether an expectation names a terminal. The end of the text has a name of its own where nothing
else can follow. -/
def Expected.Names (expected : Expected) (t : Terminal) : Prop :=
  t.name ∈ expected.names ∨ t = .endOfText ∧ "<END-OF-FILE>" ∈ expected.names

/-- No two sorts of tokens share a name. -/
theorem Terminal.name_injective {t u : Terminal} (h : t.name = u.name) : t = u := by
  have hfind : ∀ t : Terminal, (endOfText :: all).find? (·.name == t.name) = some t := by
    intro t
    cases t <;> decide
  exact Option.some.inj ((hfind t).symm.trans (h ▸ hfind u))

theorem Terminal.name_ne_endOfFile (t : Terminal) : t.name ≠ "<END-OF-FILE>" := by
  cases t <;> decide

/-- What an expectation names is what is in it; without anything in it, it names the end of the
text. -/
theorem Expected.names_iff {expected : Expected} {t : Terminal} :
    expected.Names t ↔ t ∈ expected ∨ t = .endOfText ∧ expected = [] := by
  cases expected with
  | nil => simp [Names, Expected.names, Terminal.name_ne_endOfFile]
  | cons u us =>
    have hmem : ∀ name, name ∈ Expected.names (u :: us) ↔ name ∈ (u :: us).map Terminal.name := by
      intro name
      rw [Expected.names, if_neg (by simp), List.mem_mergeSort]
    have hterminal : t.name ∈ (u :: us).map Terminal.name ↔ t ∈ u :: us := by
      rw [List.mem_map]
      exact ⟨fun ⟨v, hv, hname⟩ => Terminal.name_injective hname ▸ hv, fun h => ⟨t, h, rfl⟩⟩
    have hend : "<END-OF-FILE>" ∉ (u :: us).map Terminal.name := by
      rw [List.mem_map]
      rintro ⟨v, -, hname⟩
      exact v.name_ne_endOfFile hname
    rw [Names, hmem, hmem, hterminal]
    constructor
    · rintro (h | ⟨-, h⟩)
      · exact .inl h
      · exact absurd h hend
    · rintro (h | ⟨-, h⟩)
      · exact .inl h
      · cases h

/-- What a syntactic fault says was expected. -/
def Error.Expects (e : Error) (t : Terminal) : Prop :=
  ∃ expected, e.expected? = some expected ∧ expected.Names t

/-- At any stage but the end of a map that stands alone, what is looked for is what can follow. -/
theorem Stage.names_scans {stage : Stage} (h : ∀ es, stage ≠ .done (.map es)) {t : Terminal} :
    Expected.Names stage.scans t ↔ t ∈ stage.accepts := by
  rw [Expected.names_iff]
  cases stage with
  | done form =>
    cases form with
    | map es => exact absurd rfl (h es)
    | vector maps => simp [scans, accepts]
  | _ => simp [scans, accepts]

/-- The names of what is accepted at a stage are those of the tokens that are. -/
theorem Stage.names_accepts {stage : Stage} {t : Terminal} :
    Expected.Names stage.accepts t ↔ t ∈ stage.accepts := by
  rw [Expected.names_iff]
  cases stage <;> simp [accepts]

/-- No text that follows the grammar goes on with a token that does not fit. -/
theorem not_isQueryText_of_token {text gap lexeme rest before : List Char} {read : List Token}
    {behind : Place} {stage : Stage} {t : Terminal}
    (h : Lexes Place.start text read behind (gap ++ (lexeme ++ rest))) (hgap : IsGap gap)
    (htoken : t.Matches lexeme) (hrun : Stage.start.run read = some stage)
    (ht : t ∉ stage.accepts) (hbefore : text = before ++ (lexeme ++ rest)) (tail : List Char) :
    ¬IsQueryText (before ++ lexeme ++ tail) := by
  rintro ⟨all, ⟨place, left, hleft, hall⟩, hform⟩
  -- The tokens that were read are read in front of any tail, as the next character stays the same.
  obtain ⟨consumed, htext, -, hreplace⟩ := h.replace
  have hconsumed : before = consumed ++ gap := by
    have hsame : before ++ (lexeme ++ rest) = (consumed ++ gap) ++ (lexeme ++ rest) := by
      rw [← hbefore, htext, List.append_assoc]
    exact List.append_cancel_right hsame
  have hread : Lexes Place.start (consumed ++ (gap ++ (lexeme ++ tail))) read behind
      (gap ++ (lexeme ++ tail)) := by
    refine hreplace _ fun c hc => .inl ?_
    obtain ⟨d, ds, rfl, -⟩ := htoken.exists_cons
    cases gap <;> exact hc
  rw [hconsumed, List.append_assoc, List.append_assoc] at hall
  obtain ⟨more, rfl, hmore⟩ := hread.exists_more hall hleft
  obtain ⟨token, more, rfl, rfl⟩ := hmore.exists_first hgap htoken hleft
  exact ht (upcoming_mem_accepts hrun hform)

/-- Whether a fault is a stray character behind a map that stands alone. -/
def Error.IsStrayBehindMap (e : Error) (read : List Token) : Prop :=
  (∃ c place expected, e = .unexpectedCharacter c place expected) ∧ IsMap (terminals read)

theorem not_isStrayBehindMap_token (token : Token) (expected : Expected) (read : List Token) :
    ¬(Error.unexpectedToken token expected).IsStrayBehindMap read := by
  rintro ⟨⟨_, _, _, ⟨⟩⟩, -⟩

/-- What a complaint about the syntax of a text says is true. What stands in front of the place that
it names, or all of the text if it ends too early, is the start of a text that follows the grammar.
No such text starts with that and the token that the complaint names. What was expected is what can
follow the tokens in front, but for a stray character behind a map that stands alone. -/
theorem parse_complaint [Regex.Engine] {text : String} {e : Error} (h : parse text = .error e)
    (hsyntactic : e.isSyntactic = true) :
    ∃ before read, (∀ other, IsBefore text.toList e.place? other ↔ other = before) ∧
      Tokenizes before read ∧ (∃ tail, IsQueryText (before ++ tail)) ∧
      (∀ token expected, e = .unexpectedToken token expected → token.terminal ≠ .endOfText →
        before ++ token.lexeme <+: text.toList ∧
          ∀ tail, ¬IsQueryText (before ++ token.lexeme ++ tail)) ∧
      (e.IsStrayBehindMap read → ∀ t, e.Expects t ↔ t = .openMap ∨ t = .closeVector) ∧
      (¬e.IsStrayBehindMap read → ∀ t, e.Expects t ↔ CanFollow read t) := by
  obtain ⟨read, stage, last, behind, left, hlexes, hrun, hstops⟩ :=
    Form.exists_stops .start Place.start Place.start text.toList
  rw [← Form.read, read_eq_error_of_parse h hsyntactic] at hstops
  have hviable : ∀ before, Tokenizes before read → ∃ tail, IsQueryText (before ++ tail) := by
    intro before hbefore
    obtain ⟨tail, more, hmore, hform⟩ := hbefore.exists_isForm hrun
    exact ⟨tail, _, hmore, hform⟩
  have haccepts : ∀ before, Tokenizes before read → ∀ token t,
      (Error.unexpectedToken token stage.accepts).Expects t ↔ CanFollow read t := by
    intro before hbefore token t
    rw [canFollow_iff hbefore hrun, ← Stage.names_accepts]
    simp [Error.Expects, Error.expected?]
  cases hstops with
  | ended hgap _ =>
    have htokens : Tokenizes text.toList read := ⟨behind, left, hgap, hlexes⟩
    refine ⟨text.toList, read, fun other => Iff.rfl, htokens, hviable _ htokens, ?_, ?_,
      fun _ => haccepts _ htokens _⟩
    · rintro token expected ⟨⟩ hend
      exact absurd rfl hend
    · exact fun hstray => absurd hstray (not_isStrayBehindMap_token _ _ read)
  | @token _ _ _ gap lexeme rest t hgap htoken ht =>
    obtain ⟨before, htext, hplace, htokens⟩ := hlexes.exists_before hgap
    have hend : t ≠ .endOfText := by
      rintro rfl
      cases htoken.1
    have hstart : before ++ lexeme <+: text.toList := ⟨rest, by rw [htext, List.append_assoc]⟩
    have hplaceOf : (Error.unexpectedToken ⟨t, lexeme, behind.after gap⟩ stage.accepts).place? =
        some (behind.after gap) := if_neg hend
    refine ⟨before, read, ?_, htokens, hviable _ htokens, ?_, ?_, fun _ => haccepts _ htokens _⟩
    · intro other
      rw [hplaceOf]
      exact isBefore_iff ((List.prefix_append _ _).trans hstart) hplace
    · rintro token expected ⟨⟩ -
      exact ⟨hstart, not_isQueryText_of_token hlexes hgap htoken.1 hrun ht htext⟩
    · exact fun hstray => absurd hstray (not_isStrayBehindMap_token _ _ read)
  | @character _ _ _ gap rest c hgap =>
    obtain ⟨before, htext, hplace, htokens⟩ := hlexes.exists_before hgap
    have hexpects : ∀ t, (Error.unexpectedCharacter c (behind.after gap) stage.scans).Expects t ↔
        Expected.Names stage.scans t := by
      simp [Error.Expects, Error.expected?]
    refine ⟨before, read, ?_, htokens, hviable _ htokens, ?_, ?_, ?_⟩
    · intro other
      exact isBefore_iff ⟨c :: rest, htext.symm⟩ hplace
    · rintro token expected ⟨⟩
    · rintro ⟨-, hmap⟩ t
      -- The scanner looks for what can follow a map in a vector.
      obtain ⟨es, hes⟩ := isMap_iff.1 hmap
      obtain rfl : stage = .done (.map es) := Option.some.inj (hrun.symm.trans hes)
      rw [hexpects, Expected.names_iff]
      simp [Stage.scans]
    · intro hstray t
      rw [hexpects, canFollow_iff htokens hrun, Stage.names_scans]
      rintro es rfl
      exact hstray ⟨⟨c, _, _, rfl⟩, isMap_iff.2 ⟨es, hrun⟩⟩

/-- A keyword on the second line, where a map or the end of the vector could stand. -/
theorem parse_complaint_second_line :
    let e := Error.unexpectedToken ⟨.keyword, [':', 'b'], ⟨2, 1⟩⟩ [.openMap, .closeVector]
    parse "[\x7b:a 1\x7d\n:b]" = .error e ∧ e.isSyntactic = true ∧
      (∃ tail, IsQueryText ("[\x7b:a 1\x7d\n".toList ++ tail)) ∧
      (∀ tail, ¬IsQueryText ("[\x7b:a 1\x7d\n:b".toList ++ tail)) ∧
      ∃ read, Tokenizes "[\x7b:a 1\x7d\n".toList read ∧ ∀ t, e.Expects t ↔ CanFollow read t := by
  intro e
  have hparse : parse "[\x7b:a 1\x7d\n:b]" = .error e := by cbv
  obtain ⟨before, read, hbefore, htokens, hviable, htoken, -, hexpects⟩ :=
    parse_complaint hparse rfl
  obtain rfl := (hbefore "[\x7b:a 1\x7d\n".toList).1
    ⟨⟨":b]".toList, rfl⟩, rfl⟩
  have hstray : ¬e.IsStrayBehindMap read := not_isStrayBehindMap_token _ _ read
  exact ⟨hparse, rfl, hviable, (htoken _ _ rfl (by decide)).2, read, htokens, hexpects hstray⟩

end ElementQuery.Notation
