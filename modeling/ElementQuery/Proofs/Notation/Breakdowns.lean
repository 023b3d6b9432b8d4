import ElementQuery.CommandLine.Commands
import ElementQuery.Proofs.Notation.Reading
import ElementQuery.Proofs.Query.Names
import ElementQuery.Proofs.Query.Writing

/-!
# Texts that cannot be handled

A token can be beyond what can be handled: a number with too many digits, or a regular expression
that is well-formed and still cannot be made. Reading a text breaks down exactly if such a token is
the first fault of what the text means, and a command breaks down with it. Any other fault of a text
is one of the query that the command was given, and the command says so.

## Main definitions

* `Token.IsBeyondLimits` : the tokens that cannot be handled.
* `Form.BreaksDown` : the forms whose first fault is such a token.
* `Command.TakesQuery` : the arguments that give a command a text as its query.

## Main statements

* `exists_evaluateMap_breakdown_iff` : when the entries of a map cannot be handled.
* `Command.run_of_readQuery` : how a command ends that is given a bad query.
* `parse_breakdown_iff` : when a text cannot be handled, and how a command ends then.
-/

namespace ElementQuery.Notation

open ElementQuery.Number

/-- Each entry has a keyword as its key, and a token as its value. -/
theorem IsEntries.of_mem_entriesOf {tokens : List Token} (h : IsEntries (terminals tokens)) :
    ∀ entry ∈ entriesOf tokens, entry.key.terminal = .keyword ∧ entry.value ∈ tokens := by
  generalize hts : terminals tokens = ts at h
  induction h generalizing tokens with
  | nil =>
    obtain rfl := List.map_eq_nil_iff.1 hts
    simp [entriesOf]
  | cons _ _ ih =>
    obtain ⟨key, behind, rfl, hkey, hbehind⟩ := List.map_eq_cons_iff.1 hts
    obtain ⟨value, rest, rfl, -, hrest⟩ := List.map_eq_cons_iff.1 hbehind
    rw [entriesOf, List.forall_mem_cons]
    refine ⟨⟨hkey, by simp⟩, fun entry hentry => ?_⟩
    obtain ⟨hkeyword, hvalue⟩ := ih hrest entry hentry
    exact ⟨hkeyword, List.mem_cons_of_mem _ (List.mem_cons_of_mem _ hvalue)⟩

/-- Each entry of a map has a keyword as its key, and one of its tokens as its value. -/
theorem IsMap.of_mem_mapEntries {tokens : List Token} (h : IsMap (terminals tokens)) :
    ∀ entry ∈ mapEntries tokens, entry.key.terminal = .keyword ∧ entry.value ∈ tokens := by
  intro entry hentry
  generalize hts : terminals tokens = ts at h
  cases h with
  | braces hbody =>
    obtain ⟨first, body, close, rfl, -, hentries, -⟩ := exists_of_terminals_eq hts
    rw [← hentries] at hbody
    rw [mapEntries, List.tail_cons, List.dropLast_concat] at hentry
    obtain ⟨hkey, hvalue⟩ := hbody.of_mem_entriesOf entry hentry
    exact ⟨hkey, List.mem_cons_of_mem _ (List.mem_append_left _ hvalue)⟩

/-- The entries of each map of a form. -/
def Form.maps : Form → List (List Entry)
  | map entries => [entries]
  | vector maps => maps

/-- The keys of a text that is read are keywords, and the values are tokens of it. -/
theorem Form.exists_tokens_of_read {text : String} {form : Form} (h : Form.read text = .ok form) :
    ∃ tokens, Tokenizes text.toList tokens ∧ ∀ entries ∈ form.maps, ∀ entry ∈ entries,
      entry.key.terminal = .keyword ∧ entry.value ∈ tokens := by
  obtain ⟨tokens, htokens, hrun⟩ := Form.read_eq_ok_iff.1 h
  refine ⟨tokens, htokens, ?_⟩
  cases form with
  | map entries =>
    have hmap := isMap_iff.2 ⟨entries, hrun⟩
    rw [hmap.run fun _ => Stage.step_start_openMap] at hrun
    cases hrun
    simpa [Form.maps] using hmap.of_mem_mapEntries
  | vector maps =>
    obtain ⟨opening, closing, blocks, rfl, hopen, hblocks, hclose⟩ :=
      (isVector_iff.2 ⟨maps, hrun⟩).exists_flatten
    rw [Stage.run_vector hopen hblocks hclose] at hrun
    cases hrun
    rw [Form.maps, List.forall_mem_map]
    intro block hblock entry hentry
    obtain ⟨hkey, hvalue⟩ := (hblocks block hblock).of_mem_mapEntries entry hentry
    refine ⟨hkey, List.mem_cons_of_mem _ (List.mem_append_left _ ?_)⟩
    exact List.mem_flatten.2 ⟨block, hblock, hvalue⟩

/-- A number fails exactly if it has too many digits. -/
theorem integerOf_eq_error_iff {lexeme : List Char} {e : Error} : integerOf lexeme = .error e ↔
    maxDigits < (splitSign lexeme).2.length ∧
      e = .integerTooLong (splitSign lexeme).2.length := by
  simp only [integerOf]
  split
  · next hlong =>
    constructor
    · rintro ⟨⟩
      exact ⟨hlong, rfl⟩
    · rintro ⟨-, rfl⟩
      rfl
  · next hshort =>
    constructor
    · rintro ⟨⟩
    · rintro ⟨hlong, -⟩
      exact absurd hlong hshort

section Engine

variable [Regex.Engine]

/-- The tokens that cannot be handled, though nothing is wrong with them: numbers with too many
digits, and regular expressions that fail for another reason than being malformed. -/
def Token.IsBeyondLimits (token : Token) : Prop :=
  token.terminal = .integer ∧ maxDigits < (splitSign token.lexeme).2.length ∨
    token.terminal = .regex ∧ ∃ cause,
      Regex.compile .none (String.ofList (unescapeQuotes (inner 2 token.lexeme))) = .error cause ∧
        ∀ source problem position, cause ≠ .malformed source problem position

/-- The value of a regular expression is what its unescaped source is read as. -/
theorem regexOf_eq_ok_iff {lexeme : List Char} {v : Value} : regexOf lexeme = .ok v ↔
    ∃ r, Regex.compile .none (String.ofList (unescapeQuotes (inner 2 lexeme))) = .ok r ∧
      v = .regex r := by
  simp only [regexOf]
  split
  · next hr => simp [hr, pure, Except.pure, eq_comm]
  · next hr => simp [hr]
  · next hr => simp [hr]

/-- A regular expression breaks down exactly if it fails otherwise than by being malformed. -/
theorem exists_regexOf_breakdown_iff {lexeme : List Char} :
    (∃ e, regexOf lexeme = .error e ∧ e.isBreakdown = true) ↔ ∃ cause,
      Regex.compile .none (String.ofList (unescapeQuotes (inner 2 lexeme))) = .error cause ∧
        ∀ source problem position, cause ≠ .malformed source problem position := by
  simp only [regexOf]
  cases hcompile : Regex.compile .none (String.ofList (unescapeQuotes (inner 2 lexeme))) with
  | ok regex =>
    constructor
    · rintro ⟨e, ⟨⟩, -⟩
    · rintro ⟨cause, ⟨⟩, -⟩
  | error cause =>
    cases cause with
    | malformed source problem position =>
      constructor
      · rintro ⟨e, ⟨⟩, ⟨⟩⟩
      · rintro ⟨cause, ⟨⟩, hother⟩
        exact absurd rfl (hother source problem position)
    | _ =>
      refine iff_of_true ⟨_, rfl, rfl⟩ ⟨_, rfl, ?_⟩
      rintro source problem position ⟨⟩

/-- A token breaks down exactly if it is beyond limits. -/
theorem Token.exists_breakdown_iff {token : Token} :
    (∃ e, token.meaning = .error e ∧ e.isBreakdown = true) ↔ token.IsBeyondLimits := by
  simp only [Token.meaning, IsBeyondLimits]
  cases hterminal : token.terminal with
  | integer =>
    simp only [integerOf_eq_error_iff]
    constructor
    · rintro ⟨e, ⟨hlong, -⟩, -⟩
      exact .inl ⟨trivial, hlong⟩
    · rintro (⟨-, hlong⟩ | ⟨⟨⟩, -⟩)
      exact ⟨_, ⟨hlong, rfl⟩, rfl⟩
  | regex =>
    rw [exists_regexOf_breakdown_iff]
    simp
  | _ => simp [pure, Except.pure]

/-- A value that is read from a token can be written. -/
theorem Token.isWritable_of_meaning {token : Token} {v : Value}
    (hmatches : token.terminal.Matches token.lexeme) (h : token.meaning = .ok v) :
    v.IsWritable := by
  rw [meaning] at h
  cases hterminal : token.terminal with
  | keyword | string =>
    rw [hterminal] at h
    cases h
    exact Value.isWritable_text _
  | regex =>
    rw [hterminal] at h
    obtain ⟨r, -, rfl⟩ := regexOf_eq_ok_iff.1 h
    exact Value.isWritable_regex r
  | integer =>
    rw [hterminal] at h hmatches
    generalize token.lexeme = lexeme at h hmatches
    cases hmatches with
    | integer hsign hne hdigits =>
      simp only [integerOf, splitSign_append hsign hne hdigits] at h
      split at h
      · cases h
      · next hshort =>
        cases h
        exact Value.isWritable_int
          (printable_signed _ (ofDigits_lt hdigits) (Nat.le_of_not_lt hshort))
  | _ =>
    rw [hterminal] at h
    cases h
    refine ⟨.none, ?_⟩
    rintro _ ⟨⟩

/-- An entry is read as a pair that can be written. -/
theorem Entry.isWritable_of_meaning {entry : Entry} {pair : Value × Value}
    (hkey : entry.key.terminal = .keyword)
    (hmatches : entry.value.terminal.Matches entry.value.lexeme) (h : entry.meaning = .ok pair) :
    (entryName? pair).isSome = true ∧ pair.2.IsWritable := by
  obtain ⟨key, hname, h⟩ := bind_eq_ok_iff.1 h
  obtain ⟨v, hv, h⟩ := bind_eq_ok_iff.1 h
  cases h
  rw [Token.meaning, hkey] at hname
  cases hname
  exact ⟨rfl, Token.isWritable_of_meaning hmatches hv⟩

/-- An entry breaks down exactly if its value is beyond limits. -/
theorem Entry.exists_breakdown_iff {entry : Entry} (h : entry.key.terminal = .keyword) :
    (∃ e, entry.meaning = .error e ∧ e.isBreakdown = true) ↔ entry.value.IsBeyondLimits := by
  obtain ⟨key, hkey⟩ : ∃ key, entry.key.meaning = .ok key := by
    simp [Token.meaning, h, pure, Except.pure]
  have hmeaning : entry.meaning = (key, ·) <$> entry.value.meaning := by
    rw [Entry.meaning, hkey]
    rfl
  simp only [hmeaning, map_eq_error_iff, Token.exists_breakdown_iff]

/-- The entries of a map cannot be handled exactly if the first one with a fault has a value that is
beyond limits. -/
theorem exists_evaluateMap_breakdown_iff {entries : List Entry}
    (h : ∀ entry ∈ entries, entry.key.terminal = .keyword ∧
      entry.value.terminal.Matches entry.value.lexeme) :
    (∃ e, evaluateMap entries = .error e ∧ e.isBreakdown = true) ↔
      ∃ front entry back, entries = front ++ entry :: back ∧
        (∀ other ∈ front, ∃ pair, other.meaning = .ok pair) ∧ entry.value.IsBeyondLimits := by
  have hpairs : (∃ e, evaluateMap entries = .error e ∧ e.isBreakdown = true) ↔
      ∃ e, entries.mapM Entry.meaning = .error e ∧ e.isBreakdown = true := by
    constructor
    · rintro ⟨e, he, hbreakdown⟩
      rcases bind_eq_error_iff.1 he with he | ⟨pairs, hpairs, he⟩
      · exact ⟨e, he, hbreakdown⟩
      · -- What is wrong with the query of the pairs is no breakdown, as they can all be written.
        obtain ⟨fault, hfault, rfl⟩ := mapError_eq_error_iff.1 he
        obtain ⟨cause, rfl⟩ := Query.exists_invalid_of_ofPairs (fun pair hpair => by
          obtain ⟨entry, hentry, hmeaning⟩ := exists_of_mapM_eq_ok hpairs hpair
          obtain ⟨hkey, hmatches⟩ := h entry hentry
          exact Entry.isWritable_of_meaning hkey hmatches hmeaning) hfault
        cases hbreakdown
    · rintro ⟨e, he, hbreakdown⟩
      exact ⟨e, bind_eq_error_iff.2 (.inl he), hbreakdown⟩
  rw [hpairs, exists_mapM_eq_error_and_iff]
  refine exists_congr fun front => exists_congr fun entry => exists_congr fun back =>
    and_congr_right fun hentries => and_congr_right fun _ => ?_
  exact Entry.exists_breakdown_iff (h entry (by simp [hentries])).1

/-- The forms whose first fault is a value beyond limits: the maps in front make queries, and the
entries in front have a meaning. -/
def Form.BreaksDown (form : Form) : Prop :=
  ∃ before entries after, form.maps = before ++ entries :: after ∧
    (∀ m ∈ before, ∃ q, evaluateMap m = .ok q) ∧
    ∃ front entry back, entries = front ++ entry :: back ∧
      (∀ other ∈ front, ∃ pair, other.meaning = .ok pair) ∧ entry.value.IsBeyondLimits

/-- What a form means fails with the first of its maps that does. -/
theorem Form.evaluate_eq_error_iff {form : Form} {e : Error} :
    form.evaluate = .error e ↔ form.maps.mapM evaluateMap = .error e := by
  cases form with
  | map entries =>
    rw [evaluate, map_eq_error_iff, maps, List.mapM_cons, List.mapM_nil, bind_eq_error_iff]
    simp [pure, Except.pure, bind, Except.bind]
  | vector maps => rw [evaluate, map_eq_error_iff, Form.maps]

/-- Reading a text breaks down exactly if it follows the grammar and its form breaks down. -/
theorem exists_parse_breakdown_iff {text : String} :
    (∃ e, parse text = .error e ∧ e.isBreakdown = true) ↔
      ∃ form, Form.read text = .ok form ∧ form.BreaksDown := by
  have hevaluate : (∃ e, parse text = .error e ∧ e.isBreakdown = true) ↔
      ∃ form, Form.read text = .ok form ∧
        ∃ e, form.maps.mapM evaluateMap = .error e ∧ e.isBreakdown = true := by
    constructor
    · rintro ⟨e, he, hbreakdown⟩
      rcases bind_eq_error_iff.1 he with he | ⟨form, hread, he⟩
      · -- A text that does not follow the grammar is no breakdown.
        have hsyntactic := Form.isSyntactic_of_read he
        cases e <;> cases hbreakdown <;> cases hsyntactic
      · exact ⟨form, hread, e, Form.evaluate_eq_error_iff.1 he, hbreakdown⟩
    · rintro ⟨form, hread, e, he, hbreakdown⟩
      exact ⟨e, bind_eq_error_iff.2 (.inr ⟨form, hread, Form.evaluate_eq_error_iff.2 he⟩),
        hbreakdown⟩
  rw [hevaluate]
  refine exists_congr fun form => and_congr_right fun hread => ?_
  obtain ⟨tokens, ⟨_, _, -, hlexes⟩, hentries⟩ := Form.exists_tokens_of_read hread
  rw [exists_mapM_eq_error_and_iff, Form.BreaksDown]
  refine exists_congr fun before => exists_congr fun entries => exists_congr fun after =>
    and_congr_right fun hmaps => and_congr_right fun _ => ?_
  refine exists_evaluateMap_breakdown_iff fun entry hentry => ?_
  obtain ⟨hkey, hvalue⟩ := hentries entries (by simp [hmaps]) entry hentry
  exact ⟨hkey, hlexes.matches _ hvalue⟩

end Engine

end ElementQuery.Notation

namespace ElementQuery.CommandLine

open ElementQuery.Notation

theorem isOptionLike_of_head? {arg : String} (h : arg.toList.head? ≠ some '-') :
    isOptionLike arg = false := by
  rw [isOptionLike]
  split
  · next harg => exact absurd (congrArg List.head? harg) h
  · rfl

/-- The arguments that give a command a text as its query, with options that can be settled. -/
def Command.TakesQuery (s : Surroundings) (command : Command) (args : List String)
    (text : String) : Prop :=
  ∃ arguments values, readArguments command.options true args = .ok arguments ∧
    arguments.options.contains helpOption = false ∧
    arguments.settle s.isDirectory = .ok values ∧ arguments.operands = [text]

/-- A command takes a text as its query that is all it is given and starts with no dash. -/
theorem Command.takesQuery_singleton (s : Surroundings) (command : Command) {text : String}
    (h : text.toList.head? ≠ some '-') : command.TakesQuery s [text] text := by
  have hdashes : text ≠ "--" := by
    rintro rfl
    exact h rfl
  refine ⟨⟨[], [text]⟩, [], ?_, rfl, rfl, rfl⟩
  simp [readArguments, hdashes, isOptionLike_of_head? h, pure, Except.pure, bind, Except.bind]

section Engine

variable [Regex.Engine]

/-- A command that cannot use its query ends with that failure, and does nothing else. -/
theorem Command.run_of_readQuery {s : Surroundings} {command : Command} {args : List String}
    {text : String} {failure : Failure} (hargs : command.TakesQuery s args text)
    (h : readQuery text = .error failure) (settings : Settings) (routing : Log.Routing) :
    command.run s settings routing args = failure.outcome (some command) := by
  obtain ⟨arguments, values, hread, hhelp, hsettle, hoperands⟩ := hargs
  have hanswer : command.answer settings values text = .fail failure := by
    rw [Command.answer, h]
  have hrun : command.run s settings routing args =
      { failure.outcome (some command) with
        complaints := logLines s.stamp routing [] ++
          (failure.outcome (some command)).complaints } := by
    simp only [Command.run, hread, hhelp, hsettle, hoperands, theQuery, bind, Except.bind, pure,
      Except.pure, hanswer, Bool.false_eq_true, if_false, Answer.fail]
  have hlog : logLines s.stamp routing [] = "" := rfl
  rw [hrun, hlog, String.empty_append]

/-- A command fails over a text that is not read, as a usage fault unless it breaks down. -/
theorem readQuery_of_parse_error {text : String} {e : Notation.Error}
    (h : parse text = .error e) :
    readQuery text = .error (if e.isBreakdown then .brokenDown (.text e)
      else .usage (.badOperand "QUERY" e.message)) := by
  rw [readQuery, h]
  rfl

/-- A text cannot be handled exactly if it follows the grammar and the first fault of what it means
is a token beyond limits, which is then among its tokens. A command that is given it breaks down;
with any other fault of its query, a command ends with a usage fault that tells it. -/
theorem parse_breakdown_iff (text : String) :
    ((∃ e, parse text = .error e ∧ e.isBreakdown = true) ↔
      ∃ form, Form.read text = .ok form ∧ form.BreaksDown) ∧
    (∀ e, parse text = .error e → e.isBreakdown = true →
      ∃ tokens, Tokenizes text.toList tokens ∧ ∃ token ∈ tokens, token.IsBeyondLimits) ∧
    ∀ e, parse text = .error e → ∀ s command args, Command.TakesQuery s command args text →
      ∀ settings routing,
        (e.isBreakdown = true → command.run s settings routing args =
          Failure.outcome (some command) (.brokenDown (.text e))) ∧
        (e.isBreakdown = false → command.run s settings routing args =
          Failure.outcome (some command) (.usage (.badOperand "QUERY" e.message))) := by
  refine ⟨exists_parse_breakdown_iff, fun e he hbreakdown => ?_,
    fun e he s command args hargs settings routing => ?_⟩
  · obtain ⟨form, hread, before, entries, after, hmaps, -, hfirst⟩ :=
      exists_parse_breakdown_iff.1 ⟨e, he, hbreakdown⟩
    obtain ⟨front, entry, back, hentries, -, hbeyond⟩ := hfirst
    obtain ⟨tokens, htokens, hvalues⟩ := Form.exists_tokens_of_read hread
    exact ⟨tokens, htokens, entry.value,
      (hvalues entries (by simp [hmaps]) entry (by simp [hentries])).2, hbeyond⟩
  · have hrun := Command.run_of_readQuery hargs (readQuery_of_parse_error he) settings routing
    refine ⟨fun hbreakdown => ?_, fun hfault => ?_⟩
    · rwa [hbreakdown] at hrun
    · rwa [hfault] at hrun

end Engine

/-- A number with one digit too many, which is all that is wrong. -/
theorem parse_breakdown_iff_long_number :
    let digits := List.replicate (Number.maxDigits + 1) '9'
    let text := String.ofList (['{', ':', 'a', ' '] ++ (digits ++ ['}']))
    ∃ e, parse text = .error e ∧ e.isBreakdown = true ∧ ∀ settings routing,
      (Command.compile .css).run ⟨fun _ => .absent, ""⟩ settings routing [text] =
        Failure.outcome (some (.compile .css)) (.brokenDown (.text e)) := by
  intro digits text
  have hdigits : ∀ c ∈ digits, Text.isAsciiDigit c = true := by
    intro c hc
    rw [List.eq_of_mem_replicate hc]
    decide
  have hlength : digits.length = Number.maxDigits + 1 := List.length_replicate
  -- From here on only their number counts, or the text would be written out.
  clear_value digits
  have hne : digits ≠ [] := by
    rintro rfl
    cases hlength
  have hspace : IsGap [' '] := by decide
  have hopen : IsToken .openMap ['{'] (':' :: 'a' :: ' ' :: (digits ++ ['}'])) :=
    isToken_iff.2 (Terminal.Matches.openMap.read?_append fun _ _ => rfl)
  have hkey : IsToken .keyword [':', 'a'] (' ' :: (digits ++ ['}'])) := by
    have hmatches : Terminal.Matches .keyword [':', 'a'] :=
      .keyword (by decide) (List.forall_mem_singleton.2 (by decide))
    refine isToken_iff.2 (hmatches.read?_append ?_)
    rintro _ ⟨⟩
    decide
  have hvalue : IsToken .integer digits ['}'] := by
    have hmatches : Terminal.Matches .integer ([] ++ digits) := .integer (by decide) hne hdigits
    refine isToken_iff.2 (hmatches.read?_append ?_)
    rintro _ ⟨⟩
    decide
  have hclose : IsToken .closeMap ['}'] [] :=
    isToken_iff.2 (Terminal.Matches.closeMap.read?_append fun _ _ => rfl)
  have hlexes : Lexes Place.start _ _ _ _ := .cons isGap_nil hopen
    (.cons isGap_nil hkey (.cons hspace hvalue (.cons isGap_nil hclose .nil)))
  have htext : text.toList =
      [] ++ (['{'] ++ ':' :: 'a' :: ' ' :: (digits ++ ['}'])) := String.toList_ofList
  rw [← htext] at hlexes
  have hread := Form.read_of_tokenizes ⟨_, [], isGap_nil, hlexes⟩ rfl
  have hbeyond : Token.IsBeyondLimits ⟨.integer, digits, ⟨1, 5⟩⟩ := by
    have hsplit : Number.splitSign digits = (_, digits) :=
      splitSign_append (show [] ∈ signs by decide) hne hdigits
    refine .inl ⟨rfl, ?_⟩
    rw [hsplit, hlength]
    exact Nat.lt_succ_self _
  obtain ⟨hbreaks, -, hcommand⟩ := parse_breakdown_iff text
  obtain ⟨e, he, hbreakdown⟩ := hbreaks.2
    ⟨_, hread, [], _, [], rfl, by simp, [], _, [], rfl, by simp, hbeyond⟩
  have hhead : text.toList.head? ≠ some '-' := by
    rw [htext]
    exact show some '{' ≠ some '-' by decide
  have hargs : (Command.compile .css).TakesQuery ⟨fun _ => .absent, ""⟩ [text] text :=
    Command.takesQuery_singleton _ _ hhead
  exact ⟨e, he, hbreakdown, fun settings routing =>
    (hcommand e he _ _ _ hargs settings routing).1 hbreakdown⟩

/-- Flags that exclude each other make a regular expression that is not malformed and still cannot
be made. The program breaks down with it. -/
theorem run_both_class_flags :
    let text := "\x7b:a #\"(?a)(?u)\"\x7d"
    let outcome := run ⟨fun _ => .absent, ""⟩ ["css", text]
    (∃ e, parse text = .error e ∧ e.isBreakdown = true) ∧
      outcome.exitCode = 1 ∧ outcome.breakdown.isSome = true := by
  intro text outcome
  have hread : Form.read "\x7b:a #\"(?a)(?u)\"\x7d" = .ok (.map [⟨⟨.keyword, [':', 'a'], ⟨1, 2⟩⟩,
      ⟨.regex, ['#', '"', '(', '?', 'a', ')', '(', '?', 'u', ')', '"'], ⟨1, 5⟩⟩⟩]) := by cbv
  have hparse : parse text = .error (.regexBeyondLimits .asciiAndUnicode) := by
    rw [parse, hread]
    rfl
  have hargs : (Command.compile .css).TakesQuery ⟨fun _ => .absent, ""⟩ [text] text :=
    Command.takesQuery_singleton _ _ (by decide)
  have hcss : isOptionLike "css" = false := by decide
  have hwords : readArguments programOptions false ["css", text] = .ok ⟨[], ["css", text]⟩ := by
    simp [readArguments, hcss, pure, Except.pure]
  have hrequest : readRequest ⟨fun _ => .absent, ""⟩ ["css", text] =
      .ok (.command [] "css" [text]) := by
    rw [readRequest, hwords]
    rfl
  obtain ⟨settings, routing, hprepare⟩ : ∃ settings routing,
      prepare ⟨fun _ => .absent, ""⟩ [] = .ok (settings, routing) := ⟨_, _, rfl⟩
  have hrun : outcome =
      (Command.compile .css).run ⟨fun _ => .absent, ""⟩ settings routing [text] := by
    change outcomeOf _ (redirect _ (readRequest _ _)) = _
    have hcommand : Command.ofName? "css" = some (.compile .css) := rfl
    rw [hrequest]
    simp only [redirect, outcomeOf, hcommand, hprepare, Option.isNone_some, Bool.false_and,
      Bool.false_eq_true, if_false]
  rw [hrun, Command.run_of_readQuery hargs (readQuery_of_parse_error hparse)]
  exact ⟨⟨_, hparse, rfl⟩, rfl, rfl⟩

end ElementQuery.CommandLine
