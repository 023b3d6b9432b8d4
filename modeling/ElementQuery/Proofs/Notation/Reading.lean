import ElementQuery.Proofs.Notation.Grammar
import ElementQuery.Proofs.Outcome

/-!
# How far a text is read

At each stage only some sorts of tokens are looked for, yet the reading of a form goes through the
tokens of the text as they are without any stage. It comes to an end behind some of them: at the end
of the text, at a token that does not fit, or at a character that starts no token.

## Main definitions

* `Stops` : what comes of a reading that goes no further.

## Main statements

* `Form.readFrom_of_lexes` : tokens that fit lead the reading on.
* `Form.exists_stops` : a reading goes through the tokens up to where it stops.
* `Form.read_eq_ok_iff` : a form is read exactly if the tokens of the text lead to it.
* `parse_accepts_iff` : a text is read without a syntactic fault exactly if it follows the grammar.
-/

namespace ElementQuery.Notation

open ElementQuery.Text

/-- A token that fits is looked for. -/
theorem Stage.mem_scans {stage : Stage} {t : Terminal} (ht : t ≠ .endOfText)
    (h : t ∈ stage.accepts) : t ∈ stage.scans := by
  cases stage with
  | done form =>
    rw [accepts, List.mem_singleton] at h
    exact absurd h ht
  | _ => exact h

/-- What is found among some sorts is the longest token of any sort. -/
theorem isToken_of_scan? {ts : List Terminal} {cs lexeme rest : List Char} {t : Terminal}
    (h : scan? ts cs = some (t, lexeme, rest)) :
    t ∈ ts ∧ t ≠ .endOfText ∧ IsToken t lexeme rest ∧ cs = lexeme ++ rest := by
  obtain ⟨hmem, hread⟩ := scan?_eq_some_iff.1 h
  obtain rfl : lexeme ++ rest = cs := (Terminal.read?_eq hread).1
  refine ⟨hmem, ?_, isToken_iff.2 hread, rfl⟩
  rintro rfl
  cases hread

/-- What comes of the reading at a stage that goes no further: the unread text is at a place, and
the last token has started at another one. -/
inductive Stops : Stage → Place → Place → List Char → Except Error Form → Prop where
  | complete {form : Form} {last place : Place} {gap : List Char} (hgap : IsGap gap) :
      Stops (.done form) last place gap (.ok form)
  | ended {stage : Stage} {last place : Place} {gap : List Char} (hgap : IsGap gap)
      (hstage : stage.form? = none) :
      Stops stage last place gap
        (.error (.unexpectedToken ⟨.endOfText, [], last⟩ stage.accepts))
  | token {stage : Stage} {last place : Place} {gap lexeme rest : List Char} {t : Terminal}
      (hgap : IsGap gap) (htoken : IsToken t lexeme rest) (ht : t ∉ stage.accepts) :
      Stops stage last place (gap ++ (lexeme ++ rest))
        (.error (.unexpectedToken ⟨t, lexeme, place.after gap⟩ stage.accepts))
  | character {stage : Stage} {last place : Place} {gap rest : List Char} {c : Char}
      (hgap : IsGap gap) :
      Stops stage last place (gap ++ c :: rest)
        (.error (.unexpectedCharacter c (place.after gap) stage.scans))

theorem isGap_takeWhile (cs : List Char) : IsGap (cs.takeWhile isSeparator) :=
  fun _ hc => List.mem_takeWhile_imp hc

theorem takeWhile_append_skipSeparators (cs : List Char) :
    cs.takeWhile isSeparator ++ skipSeparators cs = cs :=
  List.takeWhile_append_dropWhile

/-- Reading stops at a token that the stage does not accept, and names it with its place. -/
theorem Stops.token_of_skipSeparators {stage : Stage} {last place : Place}
    {cs lexeme rest : List Char} {t : Terminal} (hskip : skipSeparators cs = lexeme ++ rest)
    (htoken : IsToken t lexeme rest) (ht : t ∉ stage.accepts) :
    Stops stage last place cs (.error
      (.unexpectedToken ⟨t, lexeme, place.after (cs.takeWhile isSeparator)⟩ stage.accepts)) := by
  have hstops : Stops stage last place (cs.takeWhile isSeparator ++ (lexeme ++ rest)) _ :=
    .token (isGap_takeWhile cs) htoken ht
  rwa [← hskip, takeWhile_append_skipSeparators] at hstops

/-- A reading goes through tokens that fit, up to where it stops. -/
theorem Form.exists_stops (stage : Stage) (last place : Place) (cs : List Char) :
    ∃ tokens stage' last' behind left, Lexes place cs tokens behind left ∧
      stage.run tokens = some stage' ∧
      Stops stage' last' behind left (Form.readFrom stage last place cs) := by
  -- The induction follows the reading: a token that fits leads on, anything else stops it.
  fun_induction Form.readFrom stage last place cs with
  | case1 stage last place cs hrest form hform =>
    have hdone : stage = .done form := by
      cases stage <;> cases hform
      rfl
    subst hdone
    exact ⟨[], _, last, place, cs, .nil, rfl, .complete (List.dropWhile_eq_nil_iff.1 hrest)⟩
  | case2 stage last place cs hrest hform =>
    exact ⟨[], stage, last, place, cs, .nil, rfl, .ended (List.dropWhile_eq_nil_iff.1 hrest) hform⟩
  | case3 stage last place cs here c rest hrest t lexeme behind hscan token next hstep ih =>
    obtain ⟨tokens, stage', last', place', left, hlexes, hrun, hstops⟩ := ih
    obtain ⟨-, -, htoken, htext⟩ := isToken_of_scan? hscan
    have hcons := Lexes.cons (isGap_takeWhile cs) htoken hlexes
    rw [← htext, ← hrest, takeWhile_append_skipSeparators] at hcons
    exact ⟨token :: tokens, stage', last', place', left, hcons, by simp [hstep, hrun], hstops⟩
  | case4 stage last place cs here c rest hrest t lexeme behind hscan token hstep =>
    obtain ⟨-, hend, htoken, htext⟩ := isToken_of_scan? hscan
    have ht : t ∉ stage.accepts := by
      intro ht
      have hsome : (stage.step token).isSome := Stage.isSome_step.2 ⟨ht, hend⟩
      rw [hstep] at hsome
      cases hsome
    exact ⟨[], stage, last, place, cs, .nil, rfl,
      .token_of_skipSeparators (hrest.trans htext) htoken ht⟩
  | case5 stage last place cs here c rest hrest hscan t lexeme behind hall =>
    -- There is a token, but of a sort that is not looked for at this stage.
    obtain ⟨-, hend, htoken, htext⟩ := isToken_of_scan? hall
    have ht : t ∉ stage.accepts := by
      intro ht
      have hfound := scan?_eq_some_iff.2 ⟨Stage.mem_scans hend ht, isToken_iff.1 htoken⟩
      rw [← htext, hscan] at hfound
      cases hfound
    exact ⟨[], stage, last, place, cs, .nil, rfl,
      .token_of_skipSeparators (hrest.trans htext) htoken ht⟩
  | case6 stage last place cs here c rest hrest hscan hall =>
    have hstops : Stops stage last place (cs.takeWhile isSeparator ++ c :: rest) _ :=
      .character (isGap_takeWhile cs)
    rw [← hrest, takeWhile_append_skipSeparators] at hstops
    exact ⟨[], stage, last, place, cs, .nil, rfl, hstops⟩

/-- Tokens that fit lead the reading of a form on. -/
theorem Form.readFrom_of_lexes {stage stage' : Stage} {place behind : Place} {cs left : List Char}
    {tokens : List Token} (h : Lexes place cs tokens behind left)
    (hrun : stage.run tokens = some stage') (last : Place) :
    ∃ last', Form.readFrom stage last place cs = Form.readFrom stage' last' behind left := by
  induction h generalizing stage last with
  | nil =>
    cases hrun
    exact ⟨last, rfl⟩
  | @cons place _ gap lexeme rest _ t tokens hgap htoken _ ih =>
    obtain ⟨next, hstep, hrest⟩ := Option.bind_eq_some_iff.1 hrun
    obtain ⟨hmem, hend⟩ := Stage.isSome_step.1 (Option.isSome_of_eq_some hstep)
    obtain ⟨last', hread⟩ := ih hrest (place.after gap)
    refine ⟨last', ?_⟩
    rw [Form.readFrom_token hgap (Stage.mem_scans hend hmem) (isToken_iff.1 htoken) hstep, hread]

/-- A text whose tokens lead to a form is read as that form. -/
theorem Form.read_of_tokenizes {text : String} {tokens : List Token} {form : Form}
    (h : Tokenizes text.toList tokens) (hrun : Stage.start.run tokens = some (.done form)) :
    Form.read text = .ok form := by
  obtain ⟨behind, gap, hgap, hlexes⟩ := h
  obtain ⟨last, hread⟩ := Form.readFrom_of_lexes hlexes hrun Place.start
  rw [Form.read, hread, Form.readFrom_done hgap]

/-- A text is read exactly if its tokens lead to a form. -/
theorem Form.read_eq_ok_iff {text : String} {form : Form} : Form.read text = .ok form ↔
    ∃ tokens, Tokenizes text.toList tokens ∧ Stage.start.run tokens = some (.done form) := by
  constructor
  · intro hread
    obtain ⟨tokens, stage, last, behind, left, hlexes, hrun, hstops⟩ :=
      Form.exists_stops .start Place.start Place.start text.toList
    rw [← Form.read, hread] at hstops
    cases hstops with
    | complete hgap => exact ⟨tokens, ⟨behind, left, hgap, hlexes⟩, hrun⟩
  · rintro ⟨tokens, htokens, hrun⟩
    exact Form.read_of_tokenizes htokens hrun

/-- A text is read exactly if its tokens follow the grammar. -/
theorem Form.exists_read_iff {text : String} :
    (∃ form, Form.read text = .ok form) ↔ IsQueryText text.toList := by
  constructor
  · rintro ⟨form, hread⟩
    obtain ⟨tokens, htokens, hrun⟩ := Form.read_eq_ok_iff.1 hread
    exact ⟨tokens, htokens, isForm_iff.2 ⟨form, hrun⟩⟩
  · rintro ⟨tokens, htokens, hform⟩
    obtain ⟨form, hrun⟩ := isForm_iff.1 hform
    exact ⟨form, Form.read_of_tokenizes htokens hrun⟩

/-- Only the reading of the form of a text complains about its syntax. -/
theorem Form.isSyntactic_of_read {text : String} {e : Error} (h : Form.read text = .error e) :
    e.isSyntactic = true := by
  obtain ⟨_, _, _, _, _, _, _, hstops⟩ :=
    Form.exists_stops .start Place.start Place.start text.toList
  rw [← Form.read, h] at hstops
  cases hstops <;> rfl

variable [Regex.Engine]

/-- A token that means nothing is no fault of the grammar. -/
theorem Token.isSyntactic_of_meaning {token : Token} {e : Error} (h : token.meaning = .error e) :
    e.isSyntactic = false := by
  simp only [Token.meaning] at h
  split at h
  · cases h
  · cases h
  · simp only [regexOf] at h
    split at h <;> cases h <;> rfl
  · simp only [integerOf] at h
    split at h <;> cases h
    rfl
  · cases h

/-- Entries that make no query are no fault of the grammar. -/
theorem isSyntactic_of_evaluateMap {entries : List Entry} {e : Error}
    (h : evaluateMap entries = .error e) : e.isSyntactic = false := by
  rcases bind_eq_error_iff.1 h with h | ⟨pairs, -, h⟩
  · obtain ⟨entry, -, h⟩ := exists_of_mapM_eq_error h
    rcases bind_eq_error_iff.1 h with h | ⟨key, -, h⟩
    · exact Token.isSyntactic_of_meaning h
    · rcases bind_eq_error_iff.1 h with h | ⟨value, -, h⟩
      · exact Token.isSyntactic_of_meaning h
      · cases h
  · obtain ⟨fault, -, rfl⟩ := mapError_eq_error_iff.1 h
    cases fault <;> rfl

/-- What is wrong with the meaning of a form is no matter of syntax. -/
theorem Form.isSyntactic_of_evaluate {form : Form} {e : Error} (h : form.evaluate = .error e) :
    e.isSyntactic = false := by
  cases form with
  | map entries => exact isSyntactic_of_evaluateMap (map_eq_error_iff.1 h)
  | vector maps =>
    obtain ⟨entries, -, h⟩ := exists_of_mapM_eq_error (map_eq_error_iff.1 h)
    exact isSyntactic_of_evaluateMap h

/-- A syntactic fault of a text is one of reading its form. -/
theorem read_eq_error_of_parse {text : String} {e : Error} (h : parse text = .error e)
    (hsyntactic : e.isSyntactic = true) : Form.read text = .error e := by
  rcases bind_eq_error_iff.1 h with h | ⟨form, -, h⟩
  · exact h
  · rw [Form.isSyntactic_of_evaluate h] at hsyntactic
    cases hsyntactic

/-- A text is taken without a complaint about its syntax exactly if it has tokens, in one way, and
they are those of a map or of a vector of maps. -/
theorem parse_accepts_iff (text : String) :
    (∀ e, parse text = .error e → e.isSyntactic = false) ↔
      ∃ tokens, (∀ ts, Tokenizes text.toList ts ↔ ts = tokens) ∧ IsForm (terminals tokens) := by
  have hquery : IsQueryText text.toList ↔
      ∃ tokens, (∀ ts, Tokenizes text.toList ts ↔ ts = tokens) ∧ IsForm (terminals tokens) := by
    constructor
    · rintro ⟨tokens, htokens, hform⟩
      exact ⟨tokens, fun ts => ⟨fun hts => hts.unique htokens, fun hts => hts ▸ htokens⟩, hform⟩
    · rintro ⟨tokens, htokens, hform⟩
      exact ⟨tokens, (htokens tokens).2 rfl, hform⟩
  rw [← hquery, ← Form.exists_read_iff]
  constructor
  · intro h
    cases hread : Form.read text with
    | ok form => exact ⟨form, rfl⟩
    | error e =>
      have hparse : parse text = .error e := bind_eq_error_iff.2 (.inl hread)
      have hsyntactic := Form.isSyntactic_of_read hread
      rw [h e hparse] at hsyntactic
      cases hsyntactic
  · rintro ⟨form, hread⟩ e hparse
    by_contra hsyntactic
    rw [Bool.not_eq_false] at hsyntactic
    have herror := read_eq_error_of_parse hparse hsyntactic
    rw [hread] at herror
    cases herror

end ElementQuery.Notation
