import ElementQuery.CommandLine.Commands
import ElementQuery.Proofs.Outcome

/-!
# Requests for commands

A request for a command that there is goes to that command, once the settings are there and the
logging is set up. Options before a command are read alike whatever the command is and is given.

## Main definitions

* `outcomeOfCommand`, `outcomeOfAnswer` : what a run comes to, step by step.
* `Configures` : the options in front of a command that lead to settings.
* `Command.Reads` : the arguments that give a command values for its options and a text.

## Main statements

* `run_of_readRequest` : a run whose arguments ask for a command.
* `readArguments_append`, `readArguments_complete`, `readArguments_open`, `readArguments_dashes` :
  options in front of other arguments.
* `exists_of_lookup_settle` : the value of an option has passed the check of that option.
* `Configures.run` : a run with options in front of a command.
* `Command.reads_or_run_eq` : a command is given a text, or the settings do not matter to it.
* `Command.Reads.run` : a command that is given a text.
-/

namespace ElementQuery.CommandLine

/-- What a run of a command comes to, with the settings and the logging that its options ask for. -/
def outcomeOfCommand [Regex.Engine] (s : Surroundings) (values : List (String × String))
    (command : Command) (rest : List String) : Outcome :=
  match prepare s values with
  | .error failure => failure.outcome none
  | .ok (settings, routing) => command.run s settings routing rest

theorem redirect_of_ofName? {s : Surroundings} {values : List (String × String)} {name : String}
    {rest : List String} {command : Command} (hcommand : Command.ofName? name = some command) :
    redirect s (.ok (.command values name rest)) = .ok (.command values name rest) := by
  simp only [redirect, hcommand, Option.isNone_some, Bool.false_and, Bool.false_eq_true, if_false]

/-- A request for a command that there is goes to that command. -/
theorem run_of_readRequest [Regex.Engine] {s : Surroundings} {args : List String}
    {values : List (String × String)} {name : String} {rest : List String} {command : Command}
    (hrequest : readRequest s args = .ok (.command values name rest))
    (hcommand : Command.ofName? name = some command) :
    run s args = outcomeOfCommand s values command rest := by
  have hargs : args.isEmpty = false := by
    cases args with
    | nil => cases hrequest
    | cons => rfl
  rw [run, hargs, if_neg Bool.false_ne_true, hrequest, redirect_of_ofName? hcommand]
  simp only [outcomeOf, hcommand]
  rfl

/-- Arguments that are nothing but options leave those behind them to be read on their own. -/
theorem readArguments_append {forms : List OptionForm} {mixed : Bool} {front rest : List String}
    {uses : List Use} (hdashes : "--" ∉ front)
    (h : readArguments forms mixed front = .ok ⟨uses, []⟩) :
    readArguments forms mixed (front ++ rest) =
      (fun more => ⟨uses ++ more.uses, more.operands⟩) <$> readArguments forms mixed rest := by
  induction front using readArguments.induct mixed generalizing uses with
  | case1 =>
    rw [readArguments] at h
    cases h
    rw [List.nil_append]
    cases readArguments forms mixed rest <;> rfl
  | case2 front => exact absurd List.mem_cons_self hdashes
  | case3 arg front harg hoperand hmixed ih =>
    -- An operand among the options would be left as one.
    rw [readArguments, if_neg harg, if_pos hoperand, if_pos hmixed] at h
    obtain ⟨more, -, hmore⟩ := bind_eq_ok_iff.1 h
    cases hmore
  | case4 arg front harg hoperand hmixed =>
    rw [readArguments, if_neg harg, if_pos hoperand, if_neg hmixed] at h
    cases h
  | case5 arg front harg hoption ih ihvalue =>
    have hfront : "--" ∉ front := fun hmem => hdashes (List.mem_cons_of_mem arg hmem)
    rw [readArguments, if_neg harg, if_neg hoption] at h
    rw [List.cons_append, readArguments, if_neg harg, if_neg hoption]
    obtain ⟨word, hword, hmore⟩ := bind_eq_ok_iff.1 h
    rw [hword]
    cases word with
    | complete used =>
      obtain ⟨⟨behind, operands⟩, hread, harguments⟩ := bind_eq_ok_iff.1 hmore
      cases harguments
      change (readArguments forms mixed (front ++ rest) >>= _) = _
      rw [ih hfront hread]
      cases readArguments forms mixed rest with
      | error e => rfl
      | ok more =>
        exact congrArg (fun us => Except.ok (Arguments.mk us _)) (List.append_assoc ..).symm
    | «open» used o called =>
      cases front with
      | nil => cases hmore
      | cons value front =>
        obtain ⟨⟨behind, operands⟩, hread, harguments⟩ := bind_eq_ok_iff.1 hmore
        cases harguments
        change (readArguments forms mixed (front ++ rest) >>= _) = _
        rw [ihvalue (fun hmem => hfront (List.mem_cons_of_mem value hmem)) hread]
        cases readArguments forms mixed rest with
        | error e => rfl
        | ok more => exact congrArg (fun us => Except.ok (Arguments.mk us _)) (by simp)

section Words

variable {forms : List OptionForm} {mixed : Bool} {arg : String} (rest : List String)

/-- An argument with options and all of their values leaves the others to be read on their own. -/
theorem readArguments_complete {uses : List Use} (harg : arg ≠ "--")
    (hoption : isOptionLike arg = true) (hword : readWord forms arg = .ok (.complete uses)) :
    readArguments forms mixed (arg :: rest) =
      (fun more => ⟨uses ++ more.uses, more.operands⟩) <$> readArguments forms mixed rest := by
  rw [readArguments, if_neg harg, hoption, hword]
  cases readArguments forms mixed rest <;> rfl

/-- An option with its value in the next argument leaves the others to be read on their own. -/
theorem readArguments_open {name : String} {o : OptionForm} (value : String) (harg : arg ≠ "--")
    (hoption : isOptionLike arg = true) (hword : readWord forms arg = .ok (.open [] o name)) :
    readArguments forms mixed (arg :: value :: rest) =
      (fun more => ⟨⟨o, value⟩ :: more.uses, more.operands⟩) <$>
        readArguments forms mixed rest := by
  rw [readArguments, if_neg harg, hoption, hword]
  change (readArguments forms mixed rest >>= _) = _
  cases readArguments forms mixed rest <;> rfl

/-- Behind two dashes there are only operands. -/
theorem readArguments_dashes : readArguments forms mixed ("--" :: rest) = .ok ⟨[], rest⟩ := by
  rw [readArguments, if_pos rfl]
  rfl

end Words

/-- The options in an argument, the one that waits for its value included. -/
def Word.options : Word → List OptionForm
  | .complete uses => uses.map (·.option)
  | .open uses o _ => uses.map (·.option) ++ [o]

section Options

variable {forms : List OptionForm}

theorem options_readLetters {cs : List Char} {word : Word} (h : readLetters forms cs = .ok word) :
    ∀ o ∈ word.options, o ∈ forms := by
  induction cs generalizing word with
  | nil =>
    cases h
    exact List.forall_mem_nil _
  | cons c rest ih =>
    rw [readLetters] at h
    split at h
    · cases h
    · next o ho =>
      have hmem : o ∈ forms := List.mem_of_find?_eq_some ho
      split at h
      · split at h <;> cases h <;> simpa [Word.options] using hmem
      · obtain ⟨more, hmore, h⟩ := bind_eq_ok_iff.1 h
        have hrest := ih hmore
        cases more with
        | complete uses =>
          cases h
          exact List.forall_mem_cons.2 ⟨hmem, hrest⟩
        | «open» uses o' name =>
          cases h
          exact List.forall_mem_cons.2 ⟨hmem, hrest⟩

theorem options_readWord {arg : String} {word : Word} (h : readWord forms arg = .ok word) :
    ∀ o ∈ word.options, o ∈ forms := by
  simp only [readWord] at h
  split at h
  · next o ho =>
    have hmem : o ∈ forms := List.mem_of_find?_eq_some ho
    split at h <;> cases h <;> simpa [Word.options] using hmem
  · split at h
    · cases h
    · exact options_readLetters h

/-- Only options that a command has are among the arguments that it is given. -/
theorem option_readArguments {mixed : Bool} {args : List String} {arguments : Arguments}
    (h : readArguments forms mixed args = .ok arguments) :
    ∀ use ∈ arguments.uses, use.option ∈ forms := by
  induction args using readArguments.induct mixed generalizing arguments with
  | case1 =>
    rw [readArguments] at h
    cases h
    exact List.forall_mem_nil _
  | case2 rest =>
    rw [readArguments, if_pos rfl] at h
    cases h
    exact List.forall_mem_nil _
  | case3 arg rest harg hoperand hmixed ih =>
    rw [readArguments, if_neg harg, if_pos hoperand, if_pos hmixed] at h
    obtain ⟨more, hmore, h⟩ := bind_eq_ok_iff.1 h
    have hrest := ih hmore
    cases h
    exact hrest
  | case4 arg rest harg hoperand hmixed =>
    rw [readArguments, if_neg harg, if_pos hoperand, if_neg hmixed] at h
    cases h
    exact List.forall_mem_nil _
  | case5 arg rest harg hoption ih ihvalue =>
    rw [readArguments, if_neg harg, if_neg hoption] at h
    obtain ⟨word, hword, h⟩ := bind_eq_ok_iff.1 h
    have hoptions := options_readWord hword
    cases word with
    | complete uses =>
      obtain ⟨more, hmore, h⟩ := bind_eq_ok_iff.1 h
      cases h
      exact List.forall_mem_append.2 ⟨List.forall_mem_map.1 hoptions, ih hmore⟩
    | «open» uses o name =>
      cases rest with
      | nil => cases h
      | cons value rest =>
        obtain ⟨more, hmore, h⟩ := bind_eq_ok_iff.1 h
        cases h
        obtain ⟨huses, ho⟩ := List.forall_mem_append.1 hoptions
        exact List.forall_mem_append.2 ⟨List.forall_mem_map.1 huses,
          List.forall_mem_cons.2 ⟨ho o List.mem_cons_self, ihvalue hmore⟩⟩

/-- The value of an option has passed the check of that option. -/
theorem exists_of_lookup_settle {mixed : Bool} {args : List String} {arguments : Arguments}
    {isDirectory : String → Bool} {values : List (String × String)} {long value : String}
    (hread : readArguments forms mixed args = .ok arguments)
    (hsettle : arguments.settle isDirectory = .ok values)
    (hlookup : values.lookup long = some value) :
    ∃ o ∈ forms, o.long = long ∧ ∃ given, o.check isDirectory given = .ok value := by
  obtain ⟨before, after, rfl, -⟩ := List.lookup_eq_some_iff.1 hlookup
  obtain ⟨o, ho, hcheck⟩ := exists_of_mapM_eq_ok hsettle (y := (long, value)) (by simp)
  obtain ⟨found, hfound, hpair⟩ := bind_eq_ok_iff.1 hcheck
  cases hpair
  obtain ⟨use, huse, rfl⟩ := List.mem_map.1 (List.mem_eraseDups.1 ho)
  exact ⟨use.option, option_readArguments hread use huse, rfl, _, hfound⟩

/-- An option with a choice has one of the names to choose from as its value. -/
theorem mem_of_check_choice {o : OptionForm} {names : List String} {anyCase : Bool}
    {isDirectory : String → Bool} {given value : String} (ho : o.value = .choice names anyCase)
    (h : o.check isDirectory given = .ok value) : value ∈ names := by
  rw [OptionForm.check, ho] at h
  simp only at h
  split at h
  · next name hname =>
    cases h
    exact List.mem_of_find?_eq_some hname
  · cases h

end Options

/-- The options in front of a command that lead to settings and set up the logging. -/
def Configures (s : Surroundings) (front : List String) (settings : Settings)
    (routing : Log.Routing) : Prop :=
  ∃ uses values, "--" ∉ front ∧ readArguments programOptions false front = .ok ⟨uses, []⟩ ∧
    (∀ use ∈ uses, use.option ≠ versionOption ∧ use.option ≠ helpOption) ∧
    (Arguments.mk uses []).settle s.isDirectory = .ok values ∧
    prepare s values = .ok (settings, routing)

/-- Behind such options, a command is run with these settings. -/
theorem Configures.run [Regex.Engine] {s : Surroundings} {front : List String} {settings : Settings}
    {routing : Log.Routing} (h : Configures s front settings routing) {name : String}
    {command : Command} (hname : isOptionLike name = false)
    (hcommand : Command.ofName? name = some command) (rest : List String) :
    run s (front ++ name :: rest) = command.run s settings routing rest := by
  obtain ⟨uses, values, hdashes, hread, hplain, hsettle, hprepare⟩ := h
  have hdash : name ≠ "--" := by
    rintro rfl
    cases hname
  have hoperand : readArguments programOptions false (name :: rest) = .ok ⟨[], name :: rest⟩ := by
    rw [readArguments, if_neg hdash, hname]
    rfl
  have harguments : readArguments programOptions false (front ++ name :: rest) =
      .ok ⟨uses, name :: rest⟩ := by
    rw [readArguments_append hdashes hread, hoperand]
    exact congrArg (fun us => Except.ok (Arguments.mk us (name :: rest))) (List.append_nil uses)
  have hfind : (Arguments.mk uses (name :: rest)).options.find?
      (fun o => o == versionOption || o == helpOption) = none := by
    rw [List.find?_eq_none]
    intro o ho
    obtain ⟨use, huse, rfl⟩ := List.mem_map.1 (List.mem_eraseDups.1 ho)
    simpa using hplain use huse
  have hsettled : (Arguments.mk uses (name :: rest)).settle s.isDirectory = .ok values := hsettle
  have hrequest : readRequest s (front ++ name :: rest) = .ok (.command values name rest) := by
    simp only [readRequest, harguments, bind, Except.bind, hfind, hsettled]
    rfl
  rw [run_of_readRequest hrequest hcommand, outcomeOfCommand, hprepare]

/-- Without options in front there are the default settings. -/
theorem configures_nil (s : Surroundings) :
    ∃ routing, Configures s [] {} routing :=
  ⟨_, [], [], List.not_mem_nil, by rw [readArguments]; rfl, List.forall_mem_nil _, rfl, rfl⟩

/-- What a run of a command comes to that has an answer. -/
def outcomeOfAnswer (s : Surroundings) (routing : Log.Routing) (command : Command)
    (answer : Answer) : Outcome :=
  let log := logLines s.stamp routing answer.remarks
  match answer.result with
  | .ok output => { exitCode := 0, output := output, complaints := log }
  | .error failure =>
    let outcome := failure.outcome command
    { outcome with complaints := log ++ outcome.complaints }

/-- The arguments that give a command values for its options and a text as its query. -/
def Command.Reads (s : Surroundings) (command : Command) (args : List String)
    (values : List (String × String)) (text : String) : Prop :=
  ∃ arguments, readArguments command.options true args = .ok arguments ∧
    arguments.options.contains helpOption = false ∧
    arguments.settle s.isDirectory = .ok values ∧ arguments.operands = [text]

/-- A command is given its query only as its single operand. -/
theorem operands_of_theQuery {operands : List String} {text : String}
    (h : theQuery operands = .ok text) :
    operands = [text] := by
  match operands with
  | [] => cases h
  | [text'] =>
    cases h
    rfl
  | _ :: _ :: _ => cases h

/-- A command is given a text, or what it comes to depends on its arguments only. -/
theorem Command.reads_or_run_eq [Regex.Engine] (s : Surroundings) (command : Command)
    (args : List String) :
    (∃ given text, command.Reads s args given text) ∨
      ∃ outcome, ∀ settings routing, command.run s settings routing args = outcome := by
  cases hread : readArguments command.options true args with
  | error cause =>
    right
    exact ⟨Failure.outcome command (.usage cause), fun settings routing => by
      simp only [run, hread, bind, Except.bind]⟩
  | ok arguments =>
    cases hhelp : arguments.options.contains helpOption with
    | true =>
      right
      refine ⟨{ exitCode := 0, output := helpText command }, fun settings routing => ?_⟩
      simp only [run, hread, hhelp, bind, Except.bind, pure, Except.pure, if_true]
    | false =>
      cases hsettle : arguments.settle s.isDirectory with
      | error cause =>
        right
        refine ⟨Failure.outcome command (.usage cause), fun settings routing => ?_⟩
        simp only [run, hread, hhelp, hsettle, bind, Except.bind, Bool.false_eq_true, if_false]
      | ok given =>
        cases hquery : theQuery arguments.operands with
        | error cause =>
          right
          refine ⟨Failure.outcome command (.usage cause), fun settings routing => ?_⟩
          simp only [run, hread, hhelp, hsettle, hquery, bind, Except.bind, Bool.false_eq_true,
            if_false]
        | ok text =>
          left
          exact ⟨given, text, arguments, hread, hhelp, hsettle, operands_of_theQuery hquery⟩

section Answers

variable {s : Surroundings} {settings : Settings} {routing : Log.Routing} {command : Command}
  {answer : Answer}

/-- A command that has read its arguments ends as its answer says. -/
theorem Command.Reads.run [Regex.Engine] {args : List String} {values : List (String × String)}
    {text : String} (h : command.Reads s args values text) : command.run s settings routing args =
      outcomeOfAnswer s routing command (command.answer settings values text) := by
  obtain ⟨arguments, hread, hhelp, hsettle, hoperands⟩ := h
  simp only [Command.run, hread, hhelp, hsettle, hoperands, theQuery, bind, Except.bind, pure,
    Except.pure, Bool.false_eq_true, if_false]
  rfl

/-- A run ends well exactly if there is an output, which it writes. -/
theorem exitCode_eq_zero_and_iff {P : String → Prop} :
    ((outcomeOfAnswer s routing command answer).exitCode = 0 ∧
        P (outcomeOfAnswer s routing command answer).output) ↔
      ∃ output, answer.result = .ok output ∧ P output := by
  rw [outcomeOfAnswer]
  cases answer.result with
  | ok output => simp
  | error failure => cases failure <;> simp [Failure.outcome]

/-- A run ends with the code for usage exactly if the answer is that failure. -/
theorem exitCode_eq_two_iff : (outcomeOfAnswer s routing command answer).exitCode = 2 ↔
    ∃ cause, answer.result = .error (.usage cause) := by
  rw [outcomeOfAnswer]
  cases answer.result with
  | ok output => simp
  | error failure => cases failure <;> simp [Failure.outcome]

end Answers

end ElementQuery.CommandLine
