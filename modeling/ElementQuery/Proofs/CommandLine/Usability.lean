import ElementQuery.Proofs.CommandLine.Agreement
import ElementQuery.Proofs.Selector.Composition
import ElementQuery.Proofs.Settings.Acceptance

/-!
# Commands with accepted settings

What settings hold is good enough for the commands. A level, a scope or a language stands in them as
a text that is looked up again when a command needs it, like the value of an option. It is always
found, so that a command with accepted settings fails over its arguments or its query only.

## Main definitions

* `Command.answerNamed` : a command that is given the names of a scope and of a language.
* `IsOfValue` : the faults that a scope or a language could have.

## Main statements

* `Command.answer_eq_answerNamed` : whether by name or not, the answer of a command is the same.
* `Command.error_cases` : the failures of a command.
* `settings_usable` : accepted settings can be used and are accepted again.
-/

namespace ElementQuery.CommandLine

open ElementQuery.Settings ElementQuery.Text

/-- The options of the program and of its commands. No two of them have the same name. -/
def allOptions : List OptionForm := programOptions ++ [scopeOption, languageOption, formatOption]

/-- An option of any command is known by its long name. -/
theorem eq_of_long {o o' : OptionForm} (ho : o ∈ allOptions) (ho' : o' ∈ allOptions)
    (h : o.long = o'.long) : o = o' := by
  have hall : ∀ o ∈ allOptions, ∀ o' ∈ allOptions, o.long = o'.long → o = o' := by decide
  exact hall o ho o' ho' h

theorem Command.options_subset (command : Command) : command.options ⊆ allOptions := by
  match command with
  | compile .css | compile .xpath | inspect => decide

/-- The value of an option that has choices is one of them. -/
theorem mem_of_lookup_settle {forms : List OptionForm} {mixed anyCase : Bool} {args : List String}
    {arguments : Arguments} {isDirectory : String → Bool} {values : List (String × String)}
    {names : List String} {o : OptionForm} {value : String} (hforms : forms ⊆ allOptions)
    (hread : readArguments forms mixed args = .ok arguments)
    (hsettle : arguments.settle isDirectory = .ok values) (ho : o ∈ allOptions)
    (hchoice : o.value = .choice names anyCase) (hlookup : values.lookup o.long = some value) :
    value ∈ names := by
  obtain ⟨o', ho', hlong, given, hcheck⟩ := exists_of_lookup_settle hread hsettle hlookup
  obtain rfl := eq_of_long (hforms ho') ho hlong
  exact mem_of_check_choice hchoice hcheck

/-- A level that is asked for in front of a command is there. -/
theorem exists_level_of_readRequest {s : Surroundings} {args : List String}
    {values : List (String × String)} {name : String} {rest : List String}
    (h : readRequest s args = .ok (.command values name rest)) {value : String}
    (hlookup : values.lookup levelOption.long = some value) :
    ∃ level : Log.Level, value = level.name := by
  obtain ⟨arguments, hread, h⟩ := bind_eq_ok_iff.1 h
  split at h
  · have hrequest := Except.ok.inj h
    split at hrequest <;> cases hrequest
  · obtain ⟨values', hsettle, h⟩ := bind_eq_ok_iff.1 h
    split at h
    · cases h
    · cases h
      have hmem : value ∈ Log.Level.all.map (·.name) :=
        mem_of_lookup_settle (by decide) hread hsettle (by decide) rfl hlookup
      obtain ⟨level, -, rfl⟩ := List.mem_map.1 hmem
      exact ⟨level, rfl⟩

section Reads

variable {s : Surroundings} {command : Command} {args : List String}
  {given : List (String × String)} {text : String} (h : command.Reads s args given text)

include h

/-- The value of the option for scopes is the name of one. -/
theorem Command.Reads.exists_scope {value : String}
    (hlookup : given.lookup scopeOption.long = some value) :
    ∃ scope : Scope, value = scope.name := by
  obtain ⟨arguments, hread, -, hsettle, -⟩ := h
  have hmem : value ∈ [Scope.document.name, Scope.context.name] :=
    mem_of_lookup_settle command.options_subset hread hsettle (by decide) rfl hlookup
  rcases List.mem_pair.1 hmem with rfl | rfl
  · exact ⟨.document, rfl⟩
  · exact ⟨.context, rfl⟩

theorem Command.Reads.exists_language {value : String}
    (hlookup : given.lookup languageOption.long = some value) :
    ∃ language : Language, value = language.name := by
  obtain ⟨arguments, hread, -, hsettle, -⟩ := h
  have hmem : value ∈ [Language.css.name, Language.xpath.name] :=
    mem_of_lookup_settle command.options_subset hread hsettle (by decide) rfl hlookup
  rcases List.mem_pair.1 hmem with rfl | rfl
  · exact ⟨.css, rfl⟩
  · exact ⟨.xpath, rfl⟩

end Reads

/-- Runs a command on a query. It is given the names of a scope and of a language, and looks up
those that it needs. -/
def Command.answerNamed [Regex.Engine] (command : Command) (scope language : String) (asJson : Bool)
    (text : String) : Answer :=
  match readQuery text with
  | .error failure => .fail failure
  | .ok parsed =>
    match command with
    | compile .css => CommandLine.compile .css .document parsed
    | compile .xpath =>
      match Scope.ofValue (.text scope) with
      | .error e => .fail (failureOf e)
      | .ok scope => CommandLine.compile .xpath scope parsed
    | inspect =>
      match Language.ofValue (.text language), Scope.ofValue (.text scope) with
      | .error e, _ | _, .error e => .fail (failureOf e)
      | .ok language, .ok scope => inspectAs language scope asJson parsed

section Answers

variable {settings : Settings} {given : List (String × String)}

/-- The name of the scope for a command: the one that is asked for, or else the stored one. -/
def scopeNameFor (settings : Settings) (given : List (String × String)) : String :=
  (given.lookup scopeOption.long).getD settings.compiler.defaultScope.name

/-- The name of the language for an inspection. -/
def languageNameFor (settings : Settings) (given : List (String × String)) : String :=
  (given.lookup languageOption.long).getD settings.compiler.defaultLanguage.name

/-- The name that a command goes by is that of the scope it settles on. -/
theorem scopeNameFor_eq (h : ∀ value, given.lookup scopeOption.long = some value →
    ∃ scope : Scope, value = scope.name) :
    scopeNameFor settings given = (scopeFor settings given).name := by
  rw [scopeNameFor, scopeFor]
  cases hlookup : given.lookup scopeOption.long with
  | none => rfl
  | some value =>
    obtain ⟨scope, rfl⟩ := h value hlookup
    simp

theorem languageNameFor_eq (h : ∀ value, given.lookup languageOption.long = some value →
    ∃ language : Language, value = language.name) :
    languageNameFor settings given = (languageFor settings given).name := by
  rw [languageNameFor, languageFor]
  cases hlookup : given.lookup languageOption.long with
  | none => rfl
  | some value =>
    obtain ⟨language, rfl⟩ := h value hlookup
    simp

/-- Whether it is given a scope and a language or their names, a command has the same answer. -/
theorem Command.answer_eq_answerNamed [Regex.Engine] {s : Surroundings} {command : Command}
    {args : List String} {text : String} (h : command.Reads s args given text) :
    command.answer settings given text = command.answerNamed (scopeNameFor settings given)
      (languageNameFor settings given) (given.lookup formatOption.long == some "json") text := by
  rw [scopeNameFor_eq (fun _ => h.exists_scope), languageNameFor_eq (fun _ => h.exists_language),
    answerNamed, Scope.ofValue_name, Language.ofValue_name]
  cases hparse : Notation.parse text with
  | error e => rw [answer_of_parse_error hparse, readQuery_of_parse_error hparse]
  | ok parsed =>
    have hquery : readQuery text = .ok parsed := by
      rw [readQuery, hparse]
      rfl
    rw [answer_of_parse hparse, hquery]
    cases command with
    | compile language =>
      cases language with
      | css =>
        change CommandLine.compile .css (scopeFor settings given) parsed = _
        simp only [CommandLine.compile, selectorOf_css (scopeFor settings given) .document]
      | xpath => rfl
    | inspect => rfl

end Answers

/-- The fault is about a value that makes no sense, as a scope or a language could be. -/
def IsOfValue (e : Fault) : Prop := ∃ cause, e = .invalidValue cause

section Failures

variable {language : Language} {scope : Scope} {e : Fault}

theorem not_isOfValue_of_ordinal {c : Criterion} (h : c.ordinal = .error e) : ¬IsOfValue e := by
  obtain rfl | ⟨_, rfl⟩ := Criterion.eq_of_ordinal_eq_error h <;> rintro ⟨_, ⟨⟩⟩

theorem not_isOfValue_of_checkIn {p : Predicate} (h : checkIn language p = .error e) :
    ¬IsOfValue e := by
  cases language with
  | css =>
    rw [checkIn, Css.check] at h
    split at h
    · cases h
      rintro ⟨_, ⟨⟩⟩
    · exact not_isOfValue_of_ordinal (map_eq_error_iff.1 h)
    · cases h
  | xpath =>
    rw [checkIn, XPath.check] at h
    split at h
    · cases h
    · exact not_isOfValue_of_ordinal (map_eq_error_iff.1 h)
    · cases h

/-- Writing the checks of a query does not fail over a value. -/
theorem not_isOfValue_of_checksIn {q : Query} (hpattern : q.hasPattern = false)
    (h : checksIn language q = .error e) : ¬IsOfValue e := by
  rw [checksIn_of_literals hpattern, map_eq_error_iff] at h
  obtain ⟨p, -, hp⟩ := exists_of_mapM_eq_error h
  exact not_isOfValue_of_checkIn hp

theorem not_isOfValue_of_selectorIn {q : Query} (h : selectorIn language scope q = .error e) :
    ¬IsOfValue e := by
  have hwrite : writeIn language scope (.text q.tagName) q = .error e := by
    cases language <;> exact h
  cases hpattern : q.hasPattern with
  | true =>
    rw [(hasPattern_iff_writeIn rfl).1 hpattern] at hwrite
    cases hwrite
  | false =>
    rw [writeIn_eq rfl rfl hpattern, map_eq_error_iff] at hwrite
    exact not_isOfValue_of_checksIn hpattern hwrite

theorem not_isOfValue_of_pathIn {a : Ancestry} (h : pathIn language scope a = .error e) :
    ¬IsOfValue e := by
  obtain ⟨levels⟩ := a
  by_cases hne : levels = []
  · subst hne
    cases language <;> cases h
  · rw [pathIn_eq hne, levelwise_eq_error_iff] at h
    rcases h with hcheck | ⟨-, hpattern, hfail⟩
    · obtain ⟨level, cause, rfl⟩ := checkLevels_eq_error hcheck
      rintro ⟨_, ⟨⟩⟩
    · obtain ⟨q, hq, hfail⟩ := exists_of_mapM_eq_error hfail
      rw [levelText, map_eq_error_iff] at hfail
      exact not_isOfValue_of_checksIn (any_hasPattern_iff.1 hpattern q hq) hfail

theorem not_isOfValue_of_position {p? : Option Predicate} (h : p?.mapM positionOf = .error e) :
    ¬IsOfValue e := by
  cases p? with
  | none => cases h
  | some p =>
    have hposition : positionOf p = .error e := map_eq_error_iff.1 h
    rw [positionOf] at hposition
    split at hposition
    · cases hposition
    · cases hposition
      rintro ⟨_, ⟨⟩⟩

theorem not_isOfValue_of_plan {q : Query} (h : q.plan language scope = .error e) :
    ¬IsOfValue e := by
  cases hover : q.override? with
  | some o =>
    rw [Query.plan_of_override? hover, Query.planOverride] at h
    split at h
    · cases h
      rintro ⟨_, ⟨⟩⟩
    · cases h
  | none =>
    cases hindex : (q.get? .index).any (·.isPattern) with
    | true =>
      rw [Query.plan_of_index_isPattern hover hindex] at h
      cases h
      rintro ⟨_, ⟨⟩⟩
    | false =>
      cases hpattern : q.hasPattern with
      | false =>
        rw [Query.plan_of_literals hover hpattern, map_eq_error_iff] at h
        exact not_isOfValue_of_selectorIn h
      | true =>
        rw [Query.plan_of_patterns hover hindex hpattern, bind_eq_error_iff] at h
        rcases h with hposition | ⟨position, -, hselector⟩
        · exact not_isOfValue_of_position hposition
        · exact not_isOfValue_of_selectorIn (map_eq_error_iff.1 hselector)

/-- Planning what a text means does not fail over a value. -/
theorem not_isOfValue_of_planOf {parsed : Notation.Parsed}
    (h : planOf language scope parsed = .error e) : ¬IsOfValue e := by
  cases parsed with
  | query q => exact not_isOfValue_of_plan h
  | ancestry a =>
    rw [planOf, Ancestry.plan] at h
    split at h
    · cases h
      rintro ⟨_, ⟨⟩⟩
    · obtain hpath | ⟨_, -, ⟨⟩⟩ := bind_eq_error_iff.1 h
      exact not_isOfValue_of_pathIn hpath

/-- A fault that is no reason to report is the fault of the plan. -/
theorem eq_error_of_planOrReason {planned : Except Fault Plan}
    (h : planOrReason planned = .error e) : planned = .error e := by
  unfold planOrReason at h
  split at h
  · cases h
  · cases h
  · cases h
    rfl

theorem planOf_of_inspect {parsed : Notation.Parsed}
    (h : inspect parsed language scope = .error e) : planOf language scope parsed = .error e := by
  cases parsed with
  | query q =>
    obtain hplan | ⟨_, -, ⟨⟩⟩ := bind_eq_error_iff.1 h
    exact eq_error_of_planOrReason hplan
  | ancestry a =>
    obtain hplan | ⟨_, -, ⟨⟩⟩ := bind_eq_error_iff.1 h
    exact eq_error_of_planOrReason hplan

/-- A command fails over the text of its query, because there is no selector for it, or over a
fault of the query, which is never one of a scope or a language. -/
theorem Command.error_cases [Regex.Engine] {command : Command} {settings : Settings}
    {given : List (String × String)} {text : String} {failure : Failure}
    (h : (command.answer settings given text).result = .error failure) :
    readQuery text = .error failure ∨ (∃ language, failure = .refused (noFormMessage language)) ∨
      ∃ e, failure = failureOf e ∧ ¬IsOfValue e := by
  cases hparse : Notation.parse text with
  | error e =>
    rw [answer_of_parse_error hparse] at h
    left
    rw [readQuery_of_parse_error hparse]
    exact congrArg Except.error (Except.error.inj h)
  | ok parsed =>
    rw [answer_of_parse hparse] at h
    right
    cases command with
    | compile language =>
      simp only [CommandLine.compile] at h
      split at h
      · next e he =>
        cases h
        refine .inr ⟨e, rfl, ?_⟩
        cases parsed with
        | query q => exact not_isOfValue_of_selectorIn he
        | ancestry a => exact not_isOfValue_of_pathIn he
      · cases h
        exact .inl ⟨language, rfl⟩
      · cases h
    | inspect =>
      simp only [inspectAs] at h
      split at h
      · next e he =>
        cases h
        exact .inr ⟨e, rfl, not_isOfValue_of_planOf (planOf_of_inspect he)⟩
      · cases h

end Failures

/-- With settings that are loaded all is prepared, and the level is theirs unless another one is
asked for. -/
theorem exists_prepare {s : Surroundings} {args : List String} {values : List (String × String)}
    {name : String} {rest : List String} {settings : Settings}
    (hrequest : readRequest s args = .ok (.command values name rest))
    (hload : Settings.load s.bytesAt (values.lookup settingsOption.long) = .ok settings) :
    ∃ routing, prepare s values = .ok (settings, routing) ∧
      (values.lookup levelOption.long = none →
        routing.severity = settings.logging.level.severity) := by
  obtain ⟨level, hname, hlevel⟩ : ∃ level : Log.Level,
      (values.lookup levelOption.long).getD settings.logging.level.name = level.name ∧
      (values.lookup levelOption.long = none → level = settings.logging.level) := by
    cases hlookup : values.lookup levelOption.long with
    | none => exact ⟨_, rfl, fun _ => rfl⟩
    | some value =>
      obtain ⟨level, rfl⟩ := exists_level_of_readRequest hrequest hlookup
      exact ⟨level, rfl, by rintro ⟨⟩⟩
  have hmeans : (Log.LevelChoice.named level.name).Means level.severity :=
    .named level.upper_trim_name
  obtain ⟨routing, hconfigure, hseverity⟩ : ∃ routing,
      ({} : Log.Routing).configure (.named level.name) 0 = .ok routing ∧
        routing.severity = level.severity :=
    ⟨_, Log.Routing.configure_of_means hmeans, rfl⟩
  refine ⟨routing, ?_, fun hnone => by rw [hseverity, hlevel hnone]⟩
  simp only [prepare, hload, hname, hconfigure, Except.mapError, bind, Except.bind, pure,
    Except.pure]

/-- What settings accept can be used. A scope, a language and a level that pass the check are found
by the planner and by the logging, as they are given and as they are stored, and come to the same;
no other language and no other level is found. Settings that are stored are accepted again as they
are. A command with settings that are loaded gets as far as to its arguments; if these give it a
query, it goes by the names that are asked for or stored, and fails only over the query. -/
theorem settings_usable [Regex.Engine] :
    (∀ (v : String) c, CompilerSettings.check [("default_scope", .string v)] = .valid c →
      Scope.ofValue (.text v) = .ok c.defaultScope ∧
        Scope.ofValue (.text c.defaultScope.name) = .ok c.defaultScope) ∧
    (∀ (v : String) language,
      (∃ c, CompilerSettings.check [("default_language", .string v)] = .valid c ∧
        c.defaultLanguage = language) ↔ Language.ofValue (.text v) = .ok language) ∧
    (∀ (v : String) (r : Log.Routing) stream,
      ((∃ l, LoggingSettings.check [("level", .string v)] = .valid l) ↔
        ∃ r', r.configure (.named v) stream = .ok r') ∧
      ∀ l, LoggingSettings.check [("level", .string v)] = .valid l →
        ∃ r', r.configure (.named v) stream = .ok r' ∧
          r.configure (.named l.level.name) stream = .ok r' ∧ r'.severity = l.level.severity) ∧
    (∀ members settings, Settings.check members = .valid settings →
      Settings.check settings.members = .valid settings) ∧
    ∀ s args values name rest command settings,
      readRequest s args = .ok (.command values name rest) → Command.ofName? name = some command →
      Settings.load s.bytesAt (values.lookup settingsOption.long) = .ok settings →
        Settings.check settings.members = .valid settings ∧
        ∃ routing, prepare s values = .ok (settings, routing) ∧
          (values.lookup levelOption.long = none →
            routing.severity = settings.logging.level.severity) ∧
          run s args = command.run s settings routing rest ∧
          ((∃ outcome, ∀ settings routing, command.run s settings routing rest = outcome) ∨
            ∃ given text answer, command.Reads s rest given text ∧
              answer = command.answerNamed (scopeNameFor settings given)
                (languageNameFor settings given) (given.lookup formatOption.long == some "json")
                text ∧
              run s args = outcomeOfAnswer s routing command answer ∧
              ∀ failure, answer.result = .error failure →
                readQuery text = .error failure ∨
                  (∃ language, failure = .refused (noFormMessage language)) ∨
                  ∃ e, failure = failureOf e ∧ ¬IsOfValue e) := by
  refine ⟨fun v c hc => ?_, fun v language => ?_, fun v r stream => ?_,
    fun members settings h => ?_,
    fun s args values name rest command settings hrequest hcommand hload => ?_⟩
  · exact ⟨Scope.ofValue_of_checkScope (CompilerSettings.check_scope hc), Scope.ofValue_name _⟩
  · exact CompilerSettings.exists_check_language_iff.trans Language.ofValue_eq_ok_iff.symm
  · exact ⟨LoggingSettings.exists_check_level_iff, fun l hl =>
      LoggingSettings.exists_configure hl r stream⟩
  · exact Settings.check_members (Settings.one_le_truncateLength_of_check h)
  · obtain ⟨routing, hprepare, hlevel⟩ := exists_prepare hrequest hload
    have hrun : run s args = command.run s settings routing rest := by
      rw [run_of_readRequest hrequest hcommand, outcomeOfCommand, hprepare]
    refine ⟨Settings.check_members_of_load hload, routing, hprepare, hlevel, hrun, ?_⟩
    rcases command.reads_or_run_eq s rest with ⟨given, text, hreads⟩ | hsame
    · refine .inr ⟨given, text, _, hreads, Command.answer_eq_answerNamed hreads, ?_,
        fun failure => Command.error_cases⟩
      rw [hrun, hreads.run]
    · exact .inl hsame

/-- A file with a name between blanks and in capitals, and a command that is given a tag. -/
theorem settings_usable_local :
    let s : Surroundings := ⟨fun _ => .file
      ("\x7b\"compiler\": \x7b\"default_scope\": \" LOCAL\"\x7d\x7d".toList.flatMap
        Utf8.encode), ""⟩
    CompilerSettings.check [("default_scope", .string " LOCAL")] =
        .valid { defaultScope := .context } ∧
      Scope.ofValue (.text " LOCAL") = .ok .context ∧
      LoggingSettings.check [("level", .string "info\t")] = .valid ⟨.info⟩ ∧
      (∃ r', ({} : Log.Routing).configure (.named "info\t") 0 = .ok r' ∧ r'.severity = 20) ∧
      ∃ settings routing, Settings.load s.bytesAt (some "settings") = .ok settings ∧
        Settings.check settings.members = .valid settings ∧
        settings.compiler.defaultScope = .context ∧
        run s ["-c", "settings", "xpath", "\x7b:tag :a\x7d"] =
          (Command.compile .xpath).run s settings routing ["\x7b:tag :a\x7d"] := by
  intro s
  obtain ⟨hscopes, -, hlevels, -, hruns⟩ := settings_usable
  have hscope : CompilerSettings.check [("default_scope", .string " LOCAL")] =
      .valid { defaultScope := .context } := rfl
  have hlevel : LoggingSettings.check [("level", .string "info\t")] = .valid ⟨.info⟩ := rfl
  obtain ⟨r', hr', -, hinfo⟩ := (hlevels "info\t" {} 0).2 _ hlevel
  have hrequest : readRequest s ["-c", "settings", "xpath", "\x7b:tag :a\x7d"] =
      .ok (.command [("--config", "settings")] "xpath" ["\x7b:tag :a\x7d"]) := by cbv
  have hparse : Json.parse (unifyBreaks
      "\x7b\"compiler\": \x7b\"default_scope\": \" LOCAL\"\x7d\x7d".toList) =
      .ok (.object [("compiler", .object [("default_scope", .string " LOCAL")])]) := rfl
  have hcheck : Settings.check [("compiler", .object [("default_scope", .string " LOCAL")])] =
      .valid { compiler := { defaultScope := .context } } := rfl
  have hload : Settings.load s.bytesAt (some "settings") = .ok _ :=
    Settings.load_of_check rfl (Utf8.decode_eq_ok_iff.2 rfl) hparse hcheck
  obtain ⟨hagain, routing, -, -, hrun, -⟩ :=
    hruns s _ _ _ _ (.compile .xpath) _ hrequest rfl hload
  exact ⟨hscope, (hscopes _ _ hscope).1, hlevel, ⟨r', hr', hinfo⟩, _, routing, hload, hagain, rfl,
    hrun⟩

end ElementQuery.CommandLine
