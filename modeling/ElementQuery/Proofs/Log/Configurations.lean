import ElementQuery.Log.Routing
import ElementQuery.Proofs.Outcome
import Mathlib.Data.List.Induction

/-!
# Configurations of the package logger

Configuring the package logger is a row of small changes, of which only the first step can fail: the
level is looked up before anything is touched. Whatever is done to the logger, with handlers of
others added between configurations, it is as the last successful configuration has left it. Those
before it leave nothing behind, and those that fail behind it change nothing.

## Main definitions

* `LevelChoice.Means` : the severity that a level stands for.
* `configureSteps` : configuring, step by step.
* `Change`, `Routing.run` : what is done to the package logger, and how it is then.
* `Routing.configured`, `Routing.IsConfigured` : the package logger right after a configuration, and
  from there on.

## Main statements

* `run_configureSteps` : the steps come to a configuration, or leave the logger as it was.
* `Routing.after_cases` : what one change does.
* `Routing.IsConfigured.after` : a configuration stays until the next one.
* `Routing.isConfigured_run` : how the package logger is after any changes.
-/

namespace ElementQuery.Log

open ElementQuery.Text

/-- The severity that a level stands for: a number for itself, a name for that of its level. Blanks
around a name and its letter case do not matter. -/
inductive LevelChoice.Means : LevelChoice → Int → Prop where
  | number (n : Int) : Means (.number n) n
  | named {name : String} {l : Level} (h : upper (trim name) = l.name) :
      Means (.named name) l.severity

/-- A level is found by its name only. -/
theorem Level.ofName?_eq_some_iff {name : String} {l : Level} :
    ofName? name = some l ↔ name = l.name := by
  constructor
  · intro h
    rw [ofName?] at h
    exact (beq_iff_eq.1 (List.find?_some h :)).symm
  · rintro rfl
    exact ofName?_name l

/-- Nothing is found by what is no name of a level. -/
theorem Level.ofName?_eq_none_iff {name : String} :
    ofName? name = none ↔ ∀ l : Level, name ≠ l.name := by
  rw [Option.eq_none_iff_forall_ne_some]
  exact forall_congr' fun l => not_congr ofName?_eq_some_iff

namespace LevelChoice

/-- A choice of a level gives the severity that it means. -/
theorem severity_eq_ok_iff {level : LevelChoice} {n : Int} :
    level.severity = .ok n ↔ level.Means n := by
  constructor
  · intro h
    cases level with
    | number =>
      cases h
      exact .number n
    | named name =>
      rw [severity] at h
      split at h
      · next l hread =>
        cases h
        exact .named (Level.ofName?_eq_some_iff.1 hread)
      · cases h
  · intro h
    cases h with
    | number => rfl
    | @named name l h =>
      have hread : Level.read? name = some l := Level.ofName?_eq_some_iff.2 h
      rw [severity, hread]
      rfl

/-- Only a name can fail to stand for a severity, and the fault is about that name. -/
theorem severity_eq_error_iff {level : LevelChoice} {e : UnknownLevel} :
    level.severity = .error e ↔
      ∃ name, level = .named name ∧ (∀ l : Level, upper (trim name) ≠ l.name) ∧ e = ⟨name⟩ := by
  constructor
  · intro h
    cases level with
    | number => cases h
    | named name =>
      rw [severity] at h
      split at h
      · cases h
      · next hread =>
        cases h
        exact ⟨name, rfl, Level.ofName?_eq_none_iff.1 hread, rfl⟩
  · rintro ⟨name, rfl, h, rfl⟩
    have hread : Level.read? name = none := Level.ofName?_eq_none_iff.2 h
    rw [severity, hread]
    rfl

end LevelChoice

namespace Routing

/-- Adds a handler behind the other ones. -/
def addHandler (r : Routing) (handler : Handler) : Routing :=
  { r with handlers := r.handlers ++ [handler] }

/-- Takes one handler away. -/
def removeHandler (r : Routing) (handler : Handler) : Routing :=
  { r with handlers := r.handlers.erase handler }

/-- Goes through handlers and takes away those of this library. -/
def removeUnified (r : Routing) : List Handler → Routing
  | [] => r
  | handler :: rest =>
    (if handler.isUnified then r.removeHandler handler else r).removeUnified rest

/-- Removing handlers one by one keeps those of others, in their order. -/
theorem removeUnified_eq {r : Routing} {kept handlers : List Handler}
    (hr : r.handlers = kept ++ handlers) (hkept : ∀ handler ∈ kept, handler.isUnified = false) :
    r.removeUnified handlers =
      { r with handlers := kept ++ handlers.filter (!·.isUnified) } := by
  induction handlers generalizing r kept with
  | nil => rw [removeUnified, List.filter_nil, ← hr]
  | cons handler rest ih =>
    rw [removeUnified]
    cases hmark : handler.isUnified with
    | true =>
      have hnew : handler ∉ kept := fun h => by
        rw [hkept handler h] at hmark
        cases hmark
      have hremoved : (r.removeHandler handler).handlers = kept ++ rest := by
        rw [removeHandler, hr, List.erase_append_right _ hnew, List.erase_cons_head]
      rw [if_pos rfl, ih hremoved hkept, List.filter_cons_of_neg (by simp [hmark])]
      rfl
    | false =>
      have hr' : r.handlers = (kept ++ [handler]) ++ rest := by
        rw [hr, List.append_assoc, List.singleton_append]
      have hkept' : ∀ other ∈ kept ++ [handler], other.isUnified = false := by
        intro other hother
        rcases List.mem_append.1 hother with hold | hlast
        · exact hkept other hold
        · rw [List.mem_singleton.1 hlast, hmark]
      rw [if_neg Bool.false_ne_true, ih hr' hkept', List.filter_cons_of_pos (by simp [hmark]),
        List.append_assoc, List.singleton_append]

/-- After all handlers have been gone through, those of others are left. -/
theorem removeUnified_handlers (r : Routing) :
    r.removeUnified r.handlers = { r with handlers := r.handlers.filter (!·.isUnified) } := by
  have hnone : ∀ handler ∈ ([] : List Handler), handler.isUnified = false :=
    List.forall_mem_nil _
  rw [removeUnified_eq (List.nil_append r.handlers).symm hnone, List.nil_append]

end Routing

/-- Configuring the package logger, step by step. A step that fails would leave behind what the
steps before it have done. -/
def configureSteps (level : LevelChoice) (stream : Nat) :
    ExceptT UnknownLevel (StateM Routing) Unit := do
  let severity ← level.severity
  modify (·.installMaker)
  modify fun r => r.removeUnified r.handlers
  modify (·.addHandler (.unified stream))
  modify ({ · with severity := severity })
  modify ({ · with propagates := false })

/-- The steps come to a configuration. Where there is none, they leave the logger as it was. -/
theorem run_configureSteps (level : LevelChoice) (stream : Nat) (r : Routing) :
    (configureSteps level stream).run.run r =
      match r.configure level stream with
      | .ok r' => (.ok (), r')
      | .error e => (.error e, r) := by
  rw [configureSteps, Routing.configure]
  cases level.severity with
  | error e => rfl
  | ok severity =>
    change (Except.ok (),
      { (r.installMaker.removeUnified r.installMaker.handlers).addHandler (.unified stream) with
        severity := severity, propagates := false }) = _
    rw [Routing.removeUnified_handlers]
    rfl

/-- What is done to the package logger. -/
inductive Change where
  | configure (level : LevelChoice) (stream : Nat)
  | addForeign (label : Nat)

namespace Change

/-- Carries a change out. -/
def perform : Change → ExceptT UnknownLevel (StateM Routing) Unit
  | configure level stream => configureSteps level stream
  | addForeign label => modify (·.addForeign label)

/-- The handler of others that is added. -/
def foreign? : Change → Option Handler
  | configure _ _ => none
  | addForeign label => some (.foreign label)

/-- Whether a change configures the logger, to a severity and a stream. -/
def Sets (severity : Int) (stream : Nat) (change : Change) : Prop :=
  ∃ level : LevelChoice, change = .configure level stream ∧ level.Means severity

end Change

namespace Routing

/-- The package logger after a change, whether it succeeds or not. -/
def after (r : Routing) (change : Change) : Routing := (change.perform.run.run r).2

/-- The package logger after changes, one behind the other. -/
def run (r : Routing) (changes : List Change) : Routing := changes.foldl after r

/-- The package logger from a configuration on: it writes to that stream and no other one. -/
structure IsConfigured (r : Routing) (severity : Int) (stream : Nat) : Prop where
  unified : r.handlers.filter (·.isUnified) = [.unified stream]
  severity : r.severity = severity
  propagates : r.propagates = false
  wrappings : r.wrappings = 1

/-- The package logger right after a configuration. -/
def configured (r : Routing) (severity : Int) (stream : Nat) : Routing :=
  { r.installMaker with
    handlers := r.handlers.filter (!·.isUnified) ++ [.unified stream]
    severity := severity
    propagates := false }

variable {r : Routing} {change : Change} {changes : List Change} {severity : Int} {stream : Nat}

/-- Installing the maker of records wraps it once and no more. -/
theorem wrappings_installMaker (h : r.wrappings ≤ 1) : r.installMaker.wrappings = 1 := by
  rw [installMaker]
  split
  · rfl
  · omega

/-- Configuring leaves one handler of this library, with the stream and the severity. -/
theorem isConfigured_configured (h : r.wrappings ≤ 1) (severity : Int) (stream : Nat) :
    (r.configured severity stream).IsConfigured severity stream := by
  refine ⟨?_, rfl, rfl, wrappings_installMaker h⟩
  simp [configured, Handler.isUnified]

/-- Configuring leaves the handlers of others as they are. -/
theorem foreign_configured (r : Routing) (severity : Int) (stream : Nat) :
    (r.configured severity stream).handlers.filter (!·.isUnified) =
      r.handlers.filter (!·.isUnified) := by
  simp [configured, Handler.isUnified]

/-- Configuring fails exactly over a name of no level, and says so. -/
theorem configure_eq_error_iff {level : LevelChoice} {e : UnknownLevel} :
    r.configure level stream = .error e ↔
      ∃ name, level = .named name ∧ (∀ l : Level, upper (trim name) ≠ l.name) ∧ e = ⟨name⟩ := by
  rw [configure, bind_eq_error_iff, LevelChoice.severity_eq_error_iff, or_iff_left]
  rintro ⟨severity, -, ⟨⟩⟩

theorem configure_of_means {level : LevelChoice} (h : level.Means severity) :
    r.configure level stream = .ok (r.configured severity stream) := by
  rw [configure, LevelChoice.severity_eq_ok_iff.2 h, configured, ← r.handlers_installMaker]
  rfl

/-- Configuring step by step comes to the same. -/
theorem perform_configure_of_means {level : LevelChoice} (h : level.Means severity) :
    (Change.configure level stream).perform.run.run r = (.ok (), r.configured severity stream) := by
  rw [Change.perform, run_configureSteps, configure_of_means h]

/-- With a name of no level the logger is left as it was. -/
theorem perform_configure_of_unknown {name : String}
    (h : ∀ l : Level, upper (trim name) ≠ l.name) :
    (Change.configure (.named name) stream).perform.run.run r = (.error ⟨name⟩, r) := by
  rw [Change.perform, run_configureSteps, configure,
    LevelChoice.severity_eq_error_iff.2 ⟨name, rfl, h, rfl⟩]
  rfl

/-- A change adds a handler of others, configures the logger, or leaves it as it was. -/
theorem after_cases (r : Routing) (change : Change) :
    (∃ label, change = .addForeign label ∧ r.after change = r.addForeign label) ∨
    (∃ severity stream, change.Sets severity stream ∧
      r.after change = r.configured severity stream) ∨
    change.foreign? = none ∧ (∀ severity stream, ¬change.Sets severity stream) ∧
      r.after change = r := by
  cases change with
  | addForeign label => exact .inl ⟨label, rfl, rfl⟩
  | configure level stream =>
    cases hlevel : level.severity with
    | ok severity =>
      have hmeans := LevelChoice.severity_eq_ok_iff.1 hlevel
      exact .inr (.inl ⟨severity, stream, ⟨level, rfl, hmeans⟩,
        congrArg Prod.snd (perform_configure_of_means hmeans)⟩)
    | error e =>
      obtain ⟨name, rfl, hname, -⟩ := LevelChoice.severity_eq_error_iff.1 hlevel
      refine .inr (.inr ⟨rfl, ?_, congrArg Prod.snd (perform_configure_of_unknown hname)⟩)
      rintro severity stream' ⟨level, ⟨⟩, hmeans⟩
      cases hmeans with
      | named hl => exact hname _ hl

/-- A change adds its handler of others, if it has one, and leaves the others as they are. -/
theorem foreign_after (r : Routing) (change : Change) :
    (r.after change).handlers.filter (!·.isUnified) =
      r.handlers.filter (!·.isUnified) ++ change.foreign?.toList := by
  rcases after_cases r change with ⟨label, rfl, hafter⟩ | ⟨severity, stream, hsets, hafter⟩ |
    ⟨hforeign, -, hafter⟩
  · rw [hafter, addForeign, List.filter_append]
    rfl
  · obtain ⟨level, rfl, -⟩ := hsets
    rw [hafter, foreign_configured]
    exact (List.append_nil _).symm
  · rw [hafter, hforeign, Option.toList_none, List.append_nil]

theorem wrappings_after_le (h : r.wrappings ≤ 1) (change : Change) :
    (r.after change).wrappings ≤ 1 := by
  rcases after_cases r change with ⟨label, -, hafter⟩ | ⟨severity, stream, -, hafter⟩ |
    ⟨-, -, hafter⟩ <;> rw [hafter]
  · exact h
  · exact Nat.le_of_eq (wrappings_installMaker h)
  · exact h

/-- A configuration takes the place of any earlier one. -/
theorem isConfigured_after (h : r.wrappings ≤ 1) (hsets : change.Sets severity stream) :
    (r.after change).IsConfigured severity stream := by
  obtain ⟨level, rfl, hmeans⟩ := hsets
  rw [after, perform_configure_of_means hmeans]
  exact isConfigured_configured h severity stream

/-- A configuration stays until the next one. -/
theorem IsConfigured.after (h : r.IsConfigured severity stream)
    (hsets : ∀ severity stream, ¬change.Sets severity stream) :
    (r.after change).IsConfigured severity stream := by
  rcases after_cases r change with ⟨label, rfl, hafter⟩ | ⟨severity', stream', hset, -⟩ |
    ⟨-, -, hafter⟩
  · rw [hafter]
    refine ⟨?_, h.severity, h.propagates, h.wrappings⟩
    rw [addForeign, List.filter_append, h.unified]
    rfl
  · exact absurd hset (hsets severity' stream')
  · rw [hafter]
    exact h

theorem run_concat (r : Routing) (changes : List Change) (change : Change) :
    r.run (changes ++ [change]) = (r.run changes).after change := by
  rw [run, List.foldl_append, List.foldl_cons, List.foldl_nil, run]

/-- The handlers of others are those from before and those that were added, in this order. -/
theorem foreign_run (r : Routing) (changes : List Change) :
    (r.run changes).handlers.filter (!·.isUnified) =
      r.handlers.filter (!·.isUnified) ++ changes.filterMap Change.foreign? := by
  induction changes using List.reverseRecOn with
  | nil => rw [run, List.foldl_nil, List.filterMap_nil, List.append_nil]
  | append_singleton changes change ih =>
    rw [run_concat, foreign_after, ih, List.filterMap_append, List.append_assoc]
    cases hforeign : change.foreign? <;> simp [hforeign]

/-- However often the logging is configured, the maker of records is wrapped once at most. -/
theorem wrappings_run_le (h : r.wrappings ≤ 1) (changes : List Change) :
    (r.run changes).wrappings ≤ 1 := by
  induction changes using List.reverseRecOn with
  | nil => exact h
  | append_singleton changes change ih =>
    rw [run_concat]
    exact wrappings_after_le ih change

/-- The last change that configures the logger is the one that stays. -/
theorem exists_isConfigured_run (h : r.wrappings ≤ 1)
    (hsome : ∃ change ∈ changes, ∃ severity stream, change.Sets severity stream) :
    ∃ front change back severity stream, changes = front ++ change :: back ∧
      change.Sets severity stream ∧
      (∀ later ∈ back, ∀ severity stream, ¬later.Sets severity stream) ∧
      (r.run changes).IsConfigured severity stream := by
  induction changes using List.reverseRecOn with
  | nil =>
    obtain ⟨change, hmem, -⟩ := hsome
    cases hmem
  | append_singleton changes last ih =>
    by_cases hlast : ∃ severity stream, last.Sets severity stream
    · obtain ⟨severity, stream, hsets⟩ := hlast
      refine ⟨changes, last, [], severity, stream, rfl, hsets, by simp, ?_⟩
      rw [run_concat]
      exact isConfigured_after (wrappings_run_le h changes) hsets
    · have hnone : ∀ severity stream, ¬last.Sets severity stream := fun severity stream hsets =>
        hlast ⟨severity, stream, hsets⟩
      obtain ⟨change, hmem, hchange⟩ := hsome
      have hearlier : change ∈ changes := by
        rcases List.mem_append.1 hmem with hin | hin
        · exact hin
        · rw [List.mem_singleton.1 hin] at hchange
          exact absurd hchange hlast
      obtain ⟨front, change, back, severity, stream, rfl, hsets, hback, hconfigured⟩ :=
        ih ⟨change, hearlier, hchange⟩
      refine ⟨front, change, back ++ [last], severity, stream, by simp, hsets, ?_, ?_⟩
      · intro later hlater
        rcases List.mem_append.1 hlater with hin | hin
        · exact hback later hin
        · rw [List.mem_singleton.1 hin]
          exact hnone
      · rw [run_concat]
        exact hconfigured.after hnone

/-- A logger of the package writes to the streams of the handlers of this library. -/
theorem map_unified_streams (r : Routing) {logger : String} (hlogger : isOfPackage logger = true) :
    (r.streams logger).map .unified = r.handlers.filter (·.isUnified) := by
  rw [streams, if_pos hlogger]
  induction r.handlers with
  | nil => rfl
  | cons handler rest ih =>
    cases handler with
    | unified stream => exact congrArg (Handler.unified stream :: ·) ih
    | foreign label => exact ih

/-- A configured logger of the package writes to one stream. -/
theorem IsConfigured.streams {logger : String} (h : r.IsConfigured severity stream)
    (hlogger : isOfPackage logger = true) : r.streams logger = [stream] := by
  have hmap := map_unified_streams r hlogger
  rw [h.unified, List.map_eq_singleton_iff] at hmap
  obtain ⟨stream', hstreams, hstream⟩ := hmap
  rw [hstreams, Handler.unified.inj hstream]

/-- The records that pass: the root logger decides where the package logger has no severity. -/
theorem IsConfigured.isEnabled_iff {logger : String} (h : r.IsConfigured severity stream)
    (hlogger : isOfPackage logger = true) (n : Int) : r.isEnabled logger n = true ↔
      0 < n ∧ (if severity = 0 then Level.warning.severity else severity) ≤ n := by
  rw [isEnabled, threshold, h.severity, hlogger]
  by_cases hzero : severity = 0 <;> simp [hzero]

/-- A record that is enabled is written once. -/
theorem IsConfigured.log {record : Record} (h : r.IsConfigured severity stream)
    (hlogger : isOfPackage record.logger = true)
    (henabled : r.isEnabled record.logger record.severity = true) :
    r.log record false = .ok [(stream, record)] := by
  rw [Routing.log, henabled, h.streams hlogger]
  rfl

/-- Of several records those that are enabled are written, each one once and in their order. -/
theorem IsConfigured.logAll {records : List Record} (h : r.IsConfigured severity stream)
    (hlogger : ∀ record ∈ records, isOfPackage record.logger = true) :
    r.logAll records =
      (records.filter fun record => r.isEnabled record.logger record.severity).map (stream, ·) := by
  induction records with
  | nil => rfl
  | cons record records ih =>
    obtain ⟨hrecord, hrecords⟩ := List.forall_mem_cons.1 hlogger
    rw [Routing.logAll, List.flatMap_cons, ← Routing.logAll, ih hrecords, h.streams hrecord]
    cases henabled : r.isEnabled record.logger record.severity with
    | true =>
      rw [if_pos rfl, List.filter_cons, henabled]
      rfl
    | false =>
      rw [if_neg Bool.false_ne_true, List.filter_cons, henabled]
      rfl

/-- How the package logger is after any configurations, with handlers of others added in between.
The handlers of others are those that were there or were added, in that order. A configuration with
a name of no level fails and leaves everything as it is; any other one succeeds. From the first
success on there is one handler of this library, that of the last success, the severity is the one
of that success, the maker of records is wrapped once, and every record of the package that passes
is written once, to the stream of that success. -/
theorem isConfigured_run (r : Routing) (hr : r.wrappings ≤ 1) (changes : List Change) :
    (r.run changes).handlers.filter (!·.isUnified) =
      r.handlers.filter (!·.isUnified) ++ changes.filterMap Change.foreign? ∧
    (∀ level stream, (configureSteps level stream).run.run (r.run changes) =
      match (r.run changes).configure level stream with
      | .ok r' => (.ok (), r')
      | .error e => (.error e, r.run changes)) ∧
    (∀ level stream e, (r.run changes).configure level stream = .error e ↔
      ∃ name, level = .named name ∧ (∀ l : Level, upper (trim name) ≠ l.name) ∧ e = ⟨name⟩) ∧
    ((∃ change ∈ changes, ∃ severity stream, change.Sets severity stream) →
      ∃ front change back severity stream, changes = front ++ change :: back ∧
        change.Sets severity stream ∧
        (∀ later ∈ back, ∀ severity stream, ¬later.Sets severity stream) ∧
        (r.run changes).IsConfigured severity stream ∧
        (∀ record, isOfPackage record.logger = true →
          ((r.run changes).isEnabled record.logger record.severity = true ↔
            0 < record.severity ∧
              (if severity = 0 then Level.warning.severity else severity) ≤ record.severity) ∧
          ((r.run changes).isEnabled record.logger record.severity = true →
            (r.run changes).log record false = .ok [(stream, record)])) ∧
        ∀ records, (∀ record ∈ records, isOfPackage record.logger = true) →
          (r.run changes).logAll records = (records.filter fun record =>
            (r.run changes).isEnabled record.logger record.severity).map (stream, ·)) := by
  refine ⟨foreign_run r changes, fun level stream => run_configureSteps level stream _,
    fun level stream e => configure_eq_error_iff, fun hsome => ?_⟩
  obtain ⟨front, change, back, severity, stream, hchanges, hsets, hback, hconfigured⟩ :=
    exists_isConfigured_run hr hsome
  exact ⟨front, change, back, severity, stream, hchanges, hsets, hback, hconfigured,
    fun record hlogger => ⟨hconfigured.isEnabled_iff hlogger record.severity,
      fun henabled => hconfigured.log hlogger henabled⟩,
    fun records hlogger => hconfigured.logAll hlogger⟩

/-- Between handlers of others, two configurations succeed and two fail. -/
theorem isConfigured_run_debug :
    let changes : List Change := [.addForeign 7, .configure (.named " info ") 0,
      .configure (.named "loud") 1, .configure (.number 10) 2, .addForeign 8,
      .configure (.named "") 3]
    let r := ({} : Routing).run changes
    let record : Record := { logger := "webdriver_query.cli", severity := 10, message := "ready" }
    ({} : Routing).wrappings ≤ 1 ∧
      (∃ change ∈ changes, ∃ severity stream, change.Sets severity stream) ∧
      r.handlers.filter (!·.isUnified) = [.foreign 7, .foreign 8] ∧ r.IsConfigured 10 2 ∧
      isOfPackage record.logger = true ∧ r.isEnabled record.logger record.severity = true ∧
      r.log record false = .ok [(2, record)] := by
  intro changes r record
  have hwrappings : ({} : Routing).wrappings ≤ 1 := by decide
  have hsome : ∃ change ∈ changes, ∃ severity stream, change.Sets severity stream :=
    ⟨.configure (.number 10) 2, by simp [changes], 10, 2, .number 10, rfl, .number 10⟩
  obtain ⟨hforeign, -, -, hlast⟩ := isConfigured_run {} hwrappings changes
  obtain ⟨-, -, -, severity, stream, -, -, -, hconfigured, hrecord, -⟩ := hlast hsome
  have hseverity : severity = 10 := hconfigured.severity.symm
  have hstream : Handler.unified stream = .unified 2 :=
    (List.cons.inj hconfigured.unified).1.symm
  rw [hseverity, Handler.unified.inj hstream] at hconfigured hrecord
  have hlogger : isOfPackage "webdriver_query.cli" = true := by decide
  obtain ⟨hpasses, hwritten⟩ := hrecord record hlogger
  have henabled : r.isEnabled record.logger record.severity = true := hpasses.2 (by decide)
  exact ⟨hwrappings, hsome, hforeign, hconfigured, hlogger, henabled, hwritten henabled⟩

end Routing

end ElementQuery.Log
