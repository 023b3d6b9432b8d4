import ElementQuery.Proofs.CommandLine.Requests
import ElementQuery.Proofs.Json.Printing
import ElementQuery.Proofs.Notation.Breakdowns
import ElementQuery.Proofs.Plan.Cases
import ElementQuery.Proofs.Selector.Outcomes

/-!
# The selector commands and the planner agree

The commands `css` and `xpath` build a selector themselves, `inspect` asks the planner for it. For
texts without ready-made selectors they come to the same selector, or all to none: a selector is
written exactly if `inspect` reports a structural plan with it, and a text that is no query ends all
of them in the same way.

## Main definitions

* `planOf` : the plan for what a text stands for.
* `AsksFor` : the arguments that ask for a scope, or for none.
* `Outcome.Prints`, `Outcome.Reports` : the runs that write a selector, and those that report a
  structural plan with it as JSON.

## Main statements

* `selectorOf_eq_some_iff` : a builder gives a selector exactly if a structural plan has it.
* `isStructuralReport_iff` : which plan a report tells.
* `selector_commands_agree` : the agreement of whole runs.
-/

namespace ElementQuery.CommandLine

/-- The plan for what a text stands for. -/
def planOf (language : Language) (scope : Scope) : Notation.Parsed → Except Fault Plan
  | .query q => q.plan language scope
  | .ancestry a => a.plan language scope

/-- The plan is structural and has this selector. -/
def IsStructural (p : Plan) (selector : String) : Prop :=
  p.strategy = .structural ∧ p.selector = some selector

/-- A query without override has a selector exactly if the planner calls it structural, with that
selector. -/
theorem selectorIn_eq_some_iff {language : Language} {scope : Scope} {q : Query} {selector : String}
    (hover : q.overrideKeys = []) : selectorIn language scope q = .ok (some selector) ↔
      ∃ p, q.plan language scope = .ok p ∧ IsStructural p selector := by
  cases hpattern : q.hasPattern with
  | false =>
    rw [Query.plan_of_literals (Query.override?_eq_none hover) hpattern]
    constructor
    · intro h
      exact ⟨_, map_eq_ok_iff.2 ⟨_, h, rfl⟩, rfl, rfl⟩
    · rintro ⟨p, hp, -, hselector⟩
      obtain ⟨built, hbuilt, rfl⟩ := map_eq_ok_iff.1 hp
      obtain rfl : built = some selector := hselector
      exact hbuilt
  | true =>
    -- A regular expression keeps the builders and the planner from it.
    constructor
    · intro h
      have hnone : selectorIn language scope q = .ok none := by
        cases language with
        | css => rw [selectorIn, Css.selector, hpattern, Bool.or_true]; rfl
        | xpath => rw [selectorIn, XPath.selector, hpattern, Bool.or_true]; rfl
      rw [hnone] at h
      cases h
    · rintro ⟨p, hp, hstrategy, -⟩
      obtain ⟨built, position, -, -, -, rfl⟩ := Query.plan_of_hasPattern hover hpattern hp
      cases hall : q.allPatterns <;> rw [hall] at hstrategy <;> cases hstrategy

/-- An ancestry has a selector exactly if the planner calls it structural, with that selector. -/
theorem pathIn_eq_some_iff {language : Language} {scope : Scope} {a : Ancestry}
    {selector : String} : pathIn language scope a = .ok (some selector) ↔
      ∃ p, a.plan language scope = .ok p ∧ IsStructural p selector := by
  cases hpattern : a.hasPattern with
  | false =>
    have hplan : a.plan language scope =
        (fun selector => ⟨.structural, language, selector, [], none⟩) <$>
          pathIn language scope a := by
      rw [Ancestry.plan, hpattern]
      cases pathIn language scope a <;> rfl
    rw [hplan]
    constructor
    · intro h
      exact ⟨_, map_eq_ok_iff.2 ⟨_, h, rfl⟩, rfl, rfl⟩
    · rintro ⟨p, hp, -, hselector⟩
      obtain ⟨built, hbuilt, rfl⟩ := map_eq_ok_iff.1 hp
      obtain rfl : built = some selector := hselector
      exact hbuilt
  | true =>
    constructor
    · intro h
      cases language with
      | css | xpath =>
        obtain ⟨-, -, hpath⟩ := bind_eq_ok_iff.1 h
        rw [hpattern, if_pos rfl] at hpath
        cases hpath
    · rintro ⟨p, hp, -⟩
      rw [Ancestry.plan, hpattern, if_pos rfl] at hp
      cases hp

/-- A builder gives a selector exactly if a structural plan has it, unless there is a ready-made
selector. -/
theorem selectorOf_eq_some_iff {language : Language} {scope : Scope} {parsed : Notation.Parsed}
    {selector : String} (hover : ∀ q, parsed = .query q → q.overrideKeys = []) :
    selectorOf language scope parsed = .ok (some selector) ↔
      ∃ p, planOf language scope parsed = .ok p ∧ IsStructural p selector := by
  cases parsed with
  | query q => exact selectorIn_eq_some_iff (hover q rfl)
  | ancestry a => exact pathIn_eq_some_iff

/-- In CSS the scope makes no difference. -/
theorem selectorOf_css (scope scope' : Scope) (parsed : Notation.Parsed) :
    selectorOf .css scope parsed = selectorOf .css scope' parsed := by
  cases parsed <;> rfl

/-- The output is a JSON object that reports a structural plan with this selector. -/
def IsStructuralReport (output selector : String) : Prop :=
  ∃ members, output = (Json.object members).indented 0 ++ "\n" ∧
    members.lookup "strategy" = some (.string "structural") ∧
    members.lookup "selector" = some (.string selector)

theorem hasNoFloat_optionalText (s : Option String) : (Inspection.optionalText s).HasNoFloat := by
  cases s with
  | none => exact .null
  | some s => exact .string s

theorem hasNoFloat_checkJson (p : Predicate) : (Inspection.checkJson p).HasNoFloat :=
  .object fun m hm => by
    simp only [List.mem_cons, List.not_mem_nil, or_false] at hm
    rcases hm with rfl | rfl <;> exact .string _

/-- There is no floating point number in what is reported about a plan. -/
theorem hasNoFloat_toJson (findings : Inspection) : findings.toJson.HasNoFloat := by
  refine .object (List.forall_mem_append.2 ⟨?_, ?_⟩)
  · simp only [List.forall_mem_cons]
    exact ⟨.string _, .int _, .bool _, .bool _, List.forall_mem_nil _⟩
  · rw [Inspection.planMembers]
    split
    · next p _ =>
      have hpatterns : (Json.array (p.patterns.map Inspection.checkJson)).HasNoFloat :=
        .array (List.forall_mem_map.2 fun check _ => hasNoFloat_checkJson check)
      have hindex : ((p.index.map Json.int).getD .null).HasNoFloat := by
        cases p.index with
        | none => exact .null
        | some n => exact .int n
      simp only [List.forall_mem_cons]
      exact ⟨.string _, .string _, hasNoFloat_optionalText _, hpatterns, hindex,
        List.forall_mem_nil _⟩
    · simp only [List.forall_mem_cons]
      exact ⟨.null, .string _, .null, .string _, List.forall_mem_nil _⟩

/-- The report names the structural strategy and a selector exactly if the plan is of that strategy
and has that selector. -/
theorem isStructural_iff_lookup {findings : Inspection} {members : List (String × Json)}
    (hmembers : findings.toJson = .object members) {selector : String} :
    (members.lookup "strategy" = some (.string "structural") ∧
        members.lookup "selector" = some (.string selector)) ↔
      ∃ p, findings.plan = .ok p ∧ IsStructural p selector := by
  obtain rfl : _ = members := Json.object.inj hmembers
  rw [Inspection.planMembers]
  cases hplan : findings.plan with
  | ok p =>
    have hstrategy : p.strategy.name = "structural" ↔ p.strategy = .structural := by
      cases p.strategy <;> decide
    have hselector : Inspection.optionalText p.selector = .string selector ↔
        p.selector = some selector := by
      cases p.selector <;> simp [Inspection.optionalText]
    simp [List.lookup_cons, IsStructural, hstrategy, hselector]
  | error cause => simp [List.lookup_cons]

/-- What a report tells about the plan: its text tells the findings. -/
theorem isStructuralReport_iff {findings : Inspection} {selector : String} :
    IsStructuralReport (findings.toJson.indented 0 ++ "\n") selector ↔
      ∃ p, findings.plan = .ok p ∧ IsStructural p selector := by
  constructor
  · rintro ⟨members, htext, hlookups⟩
    have hchars := congrArg String.toList htext
    rw [String.toList_append, String.toList_append] at hchars
    have hjson := (hasNoFloat_toJson findings).eq_of_indented
      (String.toList_injective (List.append_cancel_right hchars))
    exact (isStructural_iff_lookup hjson).1 hlookups
  · intro hplan
    exact ⟨_, rfl, (isStructural_iff_lookup rfl).2 hplan⟩

theorem planOrReason_eq_ok_iff {planned : Except Fault Plan} {p : Plan} :
    planOrReason planned = .ok (.ok p) ↔ planned = .ok p := by
  cases planned with
  | ok q =>
    constructor
    · rintro ⟨⟩
      rfl
    · rintro ⟨⟩
      rfl
  | error e =>
    refine iff_of_false ?_ ?_
    · cases e <;> rintro ⟨⟩
    · rintro ⟨⟩

/-- The findings have the plan, if there is one. -/
theorem exists_inspect_iff {language : Language} {scope : Scope} {parsed : Notation.Parsed}
    {P : Plan → Prop} :
    (∃ findings, inspect parsed language scope = .ok findings ∧
        ∃ p, findings.plan = .ok p ∧ P p) ↔
      ∃ p, planOf language scope parsed = .ok p ∧ P p := by
  have hfindings : ∃ found : Except Incompatible Plan → Inspection,
      (∀ plan, (found plan).plan = plan) ∧
        inspect parsed language scope = found <$> planOrReason (planOf language scope parsed) := by
    cases parsed with
    | query q =>
      refine ⟨(⟨false, 1, q.hasPattern, q.allPatterns, language, ·⟩), fun _ => rfl, ?_⟩
      simp only [inspect, planOf]
      cases planOrReason (q.plan language scope) <;> rfl
    | ancestry a =>
      refine ⟨(⟨true, a.levels.length, a.hasPattern, false, language, ·⟩), fun _ => rfl, ?_⟩
      simp only [inspect, planOf]
      cases planOrReason (a.plan language scope) <;> rfl
  obtain ⟨found, hplan, hinspect⟩ := hfindings
  rw [hinspect]
  constructor
  · rintro ⟨findings, hok, p, hp, hP⟩
    obtain ⟨plan, hplanned, rfl⟩ := map_eq_ok_iff.1 hok
    obtain rfl : plan = .ok p := (hplan plan).symm.trans hp
    exact ⟨p, planOrReason_eq_ok_iff.1 hplanned, hP⟩
  · rintro ⟨p, hp, hP⟩
    exact ⟨_, map_eq_ok_iff.2 ⟨_, planOrReason_eq_ok_iff.2 hp, rfl⟩, p, hplan _, hP⟩

/-- The scope for a command: the one that is asked for, or else that of the settings. -/
def scopeFor (settings : Settings) (values : List (String × String)) : Scope :=
  ((values.lookup scopeOption.long).bind Scope.ofName?).getD settings.compiler.defaultScope

/-- The language for an inspection: the one that is asked for, or else that of the settings. -/
def languageFor (settings : Settings) (values : List (String × String)) : Language :=
  ((values.lookup languageOption.long).bind Language.ofName?).getD
    settings.compiler.defaultLanguage

section Answers

variable {settings : Settings} {values : List (String × String)} {text : String}

theorem answer_of_parse_error [Regex.Engine] {e : Notation.Error}
    (h : Notation.parse text = .error e) (command : Command) :
    command.answer settings values text = .fail (if e.isBreakdown then
      .brokenDown (.text e) else .usage (.badOperand "QUERY" e.message)) := by
  simp only [Command.answer, readQuery_of_parse_error h]

/-- A command answers a text that is read by what the text means. -/
theorem answer_of_parse [Regex.Engine] {parsed : Notation.Parsed}
    (h : Notation.parse text = .ok parsed) (command : Command) :
    command.answer settings values text = match command with
      | .compile language => compile language (scopeFor settings values) parsed
      | .inspect => inspectAs (languageFor settings values) (scopeFor settings values)
          (values.lookup formatOption.long == some "json") parsed := by
  have hquery : readQuery text = .ok parsed := by
    rw [readQuery, h]
    rfl
  simp only [Command.answer, hquery]
  cases command <;> rfl

/-- A command fails with a usage fault of its query exactly if the text is none, without being one
that cannot be handled. -/
theorem answer_usage_iff [Regex.Engine] {command : Command} :
    (∃ cause, (command.answer settings values text).result = .error (.usage cause)) ↔
      ∃ e, Notation.parse text = .error e ∧ e.isBreakdown = false := by
  cases hparse : Notation.parse text with
  | error e =>
    rw [answer_of_parse_error hparse]
    cases hbreakdown : e.isBreakdown <;> simp [Answer.fail, hbreakdown]
  | ok parsed =>
    refine iff_of_false ?_ ?_
    · rintro ⟨cause, hcause⟩
      have hfault : ∀ e, failureOf e ≠ .usage cause := by
        intro e he
        rw [failureOf] at he
        split at he <;> cases he
      rw [answer_of_parse hparse] at hcause
      cases command with
      | compile language =>
        simp only [compile] at hcause
        split at hcause
        · exact hfault _ (Except.error.inj hcause)
        · cases hcause
        · cases hcause
      | inspect =>
        simp only [inspectAs] at hcause
        split at hcause
        · exact hfault _ (Except.error.inj hcause)
        · cases hcause
    · rintro ⟨e, ⟨⟩, -⟩

/-- What a selector command writes. -/
theorem answer_compile_iff [Regex.Engine] {language : Language} {selector : String} :
    (∃ output, ((Command.compile language).answer settings values text).result = .ok output ∧
        output = selector ++ "\n") ↔
      ∃ parsed, Notation.parse text = .ok parsed ∧
        selectorOf language (scopeFor settings values) parsed = .ok (some selector) := by
  cases hparse : Notation.parse text with
  | error e =>
    rw [answer_of_parse_error hparse]
    simp [Answer.fail]
  | ok parsed =>
    rw [answer_of_parse hparse]
    simp only [compile, Except.ok.injEq, exists_eq_left']
    cases hselector : selectorOf language (scopeFor settings values) parsed with
    | error e => simp [Answer.fail]
    | ok built =>
      cases built with
      | none => simp
      | some built =>
        have hcancel : built ++ "\n" = selector ++ "\n" ↔ built = selector := by
          refine ⟨fun h => ?_, fun h => h ▸ rfl⟩
          have hchars := congrArg String.toList h
          rw [String.toList_append, String.toList_append] at hchars
          exact String.toList_injective (List.append_cancel_right hchars)
        simp [hcancel]

/-- What an inspection reports as JSON. -/
theorem answer_inspect_iff [Regex.Engine] {selector : String}
    (hformat : values.lookup formatOption.long = some "json") :
    (∃ output, (Command.inspect.answer settings values text).result = .ok output ∧
        IsStructuralReport output selector) ↔
      ∃ parsed, Notation.parse text = .ok parsed ∧
        ∃ p, planOf (languageFor settings values) (scopeFor settings values) parsed = .ok p ∧
          IsStructural p selector := by
  cases hparse : Notation.parse text with
  | error e =>
    rw [answer_of_parse_error hparse]
    simp [Answer.fail]
  | ok parsed =>
    rw [answer_of_parse hparse, hformat]
    simp only [Except.ok.injEq, exists_eq_left']
    rw [← exists_inspect_iff]
    simp only [inspectAs]
    cases inspect parsed (languageFor settings values) (scopeFor settings values) with
    | error e => simp [Answer.fail]
    | ok findings =>
      simpa using isStructuralReport_iff

end Answers

/-- The arguments that ask for a scope, or for none. -/
def AsksFor : Option Scope → List String → Prop
  | none, args => args = []
  | some scope, args => args ∈ [["--scope", scope.name], ["--scope=" ++ scope.name],
      ["-s", scope.name], ["-s" ++ scope.name]]

/-- The use of the option for a scope that is asked for. -/
def scopeUses (asked : Option Scope) : List Use :=
  asked.toList.map fun scope => ⟨scopeOption, scope.name⟩

/-- Arguments that ask for a scope are read as that option, whatever follows them. -/
theorem AsksFor.readArguments {asked : Option Scope} {args : List String} (h : AsksFor asked args)
    {command : Command} (hcommand : command = .compile .xpath ∨ command = .inspect)
    (rest : List String) : readArguments command.options true (args ++ rest) =
      (fun more => ⟨scopeUses asked ++ more.uses, more.operands⟩) <$>
        CommandLine.readArguments command.options true rest := by
  cases asked with
  | none =>
    obtain rfl : args = [] := h
    rw [List.nil_append]
    cases CommandLine.readArguments command.options true rest <;> rfl
  | some scope =>
    simp only [AsksFor, List.mem_cons, List.not_mem_nil, or_false] at h
    have hlong : readWord command.options "--scope" = .ok (.open [] scopeOption "--scope") := by
      rcases hcommand with rfl | rfl <;> rfl
    have hshort : readWord command.options "-s" = .ok (.open [] scopeOption "-s") := by
      rcases hcommand with rfl | rfl <;> rfl
    rcases h with rfl | rfl | rfl | rfl
    · exact readArguments_open _ _ (by decide) (by decide) hlong
    · refine readArguments_complete _ ?_ ?_ ?_
      · cases scope <;> decide
      · cases scope <;> decide
      · rcases hcommand with rfl | rfl <;> cases scope <;> rfl
    · exact readArguments_open _ _ (by decide) (by decide) hshort
    · refine readArguments_complete _ ?_ ?_ ?_
      · cases scope <;> decide
      · cases scope <;> decide
      · rcases hcommand with rfl | rfl <;> cases scope <;> rfl

/-- The text behind two dashes is the query of the command for CSS. -/
theorem reads_css (s : Surroundings) (text : String) :
    Command.Reads s (.compile .css) ["--", text] [] text :=
  ⟨⟨[], [text]⟩, readArguments_dashes _, rfl, rfl, rfl⟩

/-- The command for XPath is given the scope that is asked for, or else the one in the settings. -/
theorem AsksFor.reads_xpath {asked : Option Scope} {args : List String} (h : AsksFor asked args)
    (s : Surroundings) (text : String) : ∃ values,
      Command.Reads s (.compile .xpath) (args ++ ["--", text]) values text ∧
        ∀ settings, scopeFor settings values = asked.getD settings.compiler.defaultScope := by
  refine ⟨asked.toList.map fun scope => (scopeOption.long, scope.name),
    ⟨⟨scopeUses asked, [text]⟩, ?_, ?_, ?_, rfl⟩, ?_⟩
  · rw [h.readArguments (.inl rfl), readArguments_dashes]
    cases asked <;> rfl
  · cases asked <;> rfl
  · match asked with
    | none | some .document | some .context => rfl
  · match asked with
    | none | some .document | some .context => exact fun _ => rfl

/-- The command that reports plans is given the language and the scope that are asked for. -/
theorem AsksFor.reads_inspect {asked : Option Scope} {args : List String} (h : AsksFor asked args)
    (s : Surroundings) (language : Language) (text : String) : ∃ values,
      Command.Reads s .inspect ("-l" :: language.name :: "-f" :: "json" :: (args ++ ["--", text]))
        values text ∧ values.lookup formatOption.long = some "json" ∧
        ∀ settings, languageFor settings values = language ∧
          scopeFor settings values = asked.getD settings.compiler.defaultScope := by
  refine ⟨(languageOption.long, language.name) :: (formatOption.long, "json") ::
      asked.toList.map fun scope => (scopeOption.long, scope.name),
    ⟨⟨⟨languageOption, language.name⟩ :: ⟨formatOption, "json"⟩ :: scopeUses asked, [text]⟩,
      ?_, ?_, ?_, rfl⟩, rfl, ?_⟩
  · rw [readArguments_open _ _ (by decide) (by decide) rfl,
      readArguments_open _ _ (by decide) (by decide) rfl, h.readArguments (.inr rfl),
      readArguments_dashes]
    cases asked <;> rfl
  · cases asked <;> rfl
  · match language, asked with
    | .css, none | .css, some .document | .css, some .context | .xpath, none
    | .xpath, some .document | .xpath, some .context => rfl
  · intro settings
    match language, asked with
    | .css, none | .css, some .document | .css, some .context | .xpath, none
    | .xpath, some .document | .xpath, some .context => exact ⟨rfl, rfl⟩

/-- The arguments for a CSS selector of a text. -/
def cssCall (text : String) : List String := ["css", "--", text]

/-- The arguments for an XPath of a text, with those that ask for a scope. -/
def xpathCall (args : List String) (text : String) : List String :=
  "xpath" :: (args ++ ["--", text])

/-- The arguments for an inspection of a text as JSON, with those that ask for a scope. -/
def inspectCall (language : Language) (args : List String) (text : String) : List String :=
  "inspect" :: "-l" :: language.name :: "-f" :: "json" :: (args ++ ["--", text])

/-- The runs that end well and write a selector. -/
def Outcome.Prints (outcome : Outcome) (selector : String) : Prop :=
  outcome.exitCode = 0 ∧ outcome.output = selector ++ "\n"

/-- The runs that end well and report a structural plan with a selector as JSON. -/
def Outcome.Reports (outcome : Outcome) (selector : String) : Prop :=
  outcome.exitCode = 0 ∧ IsStructuralReport outcome.output selector

section Agreement

variable {s : Surroundings} {front : List String} {settings : Settings} {routing : Log.Routing}
  (hfront : Configures s front settings routing) {text : String}

include hfront

/-- The command for CSS prints a selector exactly if the text is read and has it in the scope of the
settings. -/
theorem prints_css_iff [Regex.Engine] {selector : String} :
    (run s (front ++ cssCall text)).Prints selector ↔ ∃ parsed, Notation.parse text = .ok parsed ∧
      selectorOf .css settings.compiler.defaultScope parsed = .ok (some selector) := by
  rw [cssCall, hfront.run (by decide) (rfl : Command.ofName? "css" = some (.compile .css)),
    (reads_css s text).run]
  exact exitCode_eq_zero_and_iff.trans answer_compile_iff

variable {asked : Option Scope} {args : List String} (hscope : AsksFor asked args)

include hscope

/-- The command for XPath prints a selector exactly if the text is read and has it in the scope that
is asked for. -/
theorem prints_xpath_iff [Regex.Engine] {selector : String} :
    (run s (front ++ xpathCall args text)).Prints selector ↔
      ∃ parsed, Notation.parse text = .ok parsed ∧
        selectorOf .xpath (asked.getD settings.compiler.defaultScope) parsed =
          .ok (some selector) := by
  obtain ⟨values, hreads, hscopeFor⟩ := hscope.reads_xpath s text
  rw [xpathCall, hfront.run (by decide) (rfl : Command.ofName? "xpath" = some (.compile .xpath)),
    hreads.run, ← hscopeFor settings]
  exact exitCode_eq_zero_and_iff.trans answer_compile_iff

/-- A structural plan is reported exactly if the text is read and has that plan. -/
theorem reports_iff [Regex.Engine] {language : Language} {selector : String} :
    (run s (front ++ inspectCall language args text)).Reports selector ↔
      ∃ parsed, Notation.parse text = .ok parsed ∧
        ∃ p, planOf language (asked.getD settings.compiler.defaultScope) parsed = .ok p ∧
          IsStructural p selector := by
  obtain ⟨values, hreads, hformat, hvalues⟩ := hscope.reads_inspect s language text
  obtain ⟨hlanguageFor, hscopeFor⟩ := hvalues settings
  rw [inspectCall, hfront.run (by decide) (rfl : Command.ofName? "inspect" = some .inspect),
    hreads.run, ← hscopeFor, ← hlanguageFor]
  exact (exitCode_eq_zero_and_iff (P := (IsStructuralReport · selector))).trans
    (answer_inspect_iff hformat)

/-- The commands and the inspections that are given a text as their query. -/
theorem exitCode_eq_two_iff_of_call [Regex.Engine] {call : List String}
    (hcall : call ∈ [cssCall text, xpathCall args text, inspectCall .css args text,
      inspectCall .xpath args text]) :
    (run s (front ++ call)).exitCode = 2 ↔
      ∃ e, Notation.parse text = .error e ∧ e.isBreakdown = false := by
  have hrun : ∃ command values, (run s (front ++ call)) =
      outcomeOfAnswer s routing command (command.answer settings values text) := by
    simp only [List.mem_cons, List.not_mem_nil, or_false] at hcall
    rcases hcall with rfl | rfl | rfl | rfl
    · exact ⟨.compile .css, _, (hfront.run (by decide) rfl _).trans (reads_css s text).run⟩
    · obtain ⟨values, hreads, -⟩ := hscope.reads_xpath s text
      exact ⟨.compile .xpath, _, (hfront.run (by decide) rfl _).trans hreads.run⟩
    · obtain ⟨values, hreads, -⟩ := hscope.reads_inspect s .css text
      exact ⟨.inspect, _, (hfront.run (by decide) rfl _).trans hreads.run⟩
    · obtain ⟨values, hreads, -⟩ := hscope.reads_inspect s .xpath text
      exact ⟨.inspect, _, (hfront.run (by decide) rfl _).trans hreads.run⟩
  obtain ⟨command, values, hrun⟩ := hrun
  rw [hrun]
  exact exitCode_eq_two_iff.trans answer_usage_iff

end Agreement

/-- On a text whose map, if it is one, has no ready-made selector, and with any settings and any
request for a scope, a selector command writes a selector exactly if the inspection in its language
reports a structural plan with it, and all of them end with the code for usage exactly on the texts
that are no query. -/
theorem selector_commands_agree [Regex.Engine] {s : Surroundings} {front : List String}
    {settings : Settings} {routing : Log.Routing} (hfront : Configures s front settings routing)
    (text : String) (hover : ∀ q, Notation.parse text = .ok (.query q) → q.overrideKeys = [])
    {asked : Option Scope} {args : List String} (hscope : AsksFor asked args) :
    (∀ selector, (run s (front ++ cssCall text)).Prints selector ↔
      (run s (front ++ inspectCall .css args text)).Reports selector) ∧
    (∀ selector, (run s (front ++ xpathCall args text)).Prints selector ↔
      (run s (front ++ inspectCall .xpath args text)).Reports selector) ∧
    ∀ call ∈ [cssCall text, xpathCall args text, inspectCall .css args text,
      inspectCall .xpath args text], (run s (front ++ call)).exitCode = 2 ↔
        ∃ e, Notation.parse text = .error e ∧ e.isBreakdown = false := by
  have hquery : ∀ parsed, Notation.parse text = .ok parsed →
      ∀ q, parsed = .query q → q.overrideKeys = [] := by
    rintro _ hparse q rfl
    exact hover q hparse
  refine ⟨fun selector => ?_, fun selector => ?_,
    fun call hcall => exitCode_eq_two_iff_of_call hfront hscope hcall⟩
  · rw [prints_css_iff hfront, reports_iff hfront hscope]
    refine exists_congr fun parsed => and_congr_right fun hparse => ?_
    rw [selectorOf_css _ (asked.getD settings.compiler.defaultScope)]
    exact selectorOf_eq_some_iff (hquery parsed hparse)
  · rw [prints_xpath_iff hfront hscope, reports_iff hfront hscope]
    exact exists_congr fun parsed => and_congr_right fun hparse =>
      selectorOf_eq_some_iff (hquery parsed hparse)

/-- A query for a tag, with a scope that is asked for by a letter. -/
theorem selector_commands_agree_on_tag :
    let s : Surroundings := ⟨fun _ => .absent, ""⟩
    let text := "\x7b:tag :a\x7d"
    (run s (xpathCall ["-s", "local"] text)).Prints ".//a" ∧
      (run s (inspectCall .xpath ["-s", "local"] text)).Reports ".//a" := by
  intro s text
  have hread : Notation.Form.read "\x7b:tag :a\x7d" =
      .ok (.map [⟨⟨.keyword, [':', 't', 'a', 'g'], ⟨1, 2⟩⟩, ⟨.keyword, [':', 'a'], ⟨1, 7⟩⟩⟩]) := by
    cbv
  have hparse : Notation.parse text = .ok (.query ⟨[⟨"tag", .tag, .literal "a"⟩]⟩) := by
    rw [Notation.parse, hread]
    rfl
  have hover : ∀ q, Notation.parse text = .ok (.query q) → q.overrideKeys = [] := by
    intro q hq
    rw [hparse] at hq
    cases hq
    rfl
  have hscope : AsksFor (some .context) ["-s", "local"] := by simp [AsksFor, Scope.name]
  obtain ⟨routing, hfront⟩ := configures_nil s
  obtain ⟨-, hxpath, -⟩ := selector_commands_agree hfront text hover hscope
  have hprints : (run s (xpathCall ["-s", "local"] text)).Prints ".//a" :=
    (prints_xpath_iff hfront hscope).2 ⟨_, hparse, rfl⟩
  exact ⟨hprints, (hxpath ".//a").1 hprints⟩

end ElementQuery.CommandLine
