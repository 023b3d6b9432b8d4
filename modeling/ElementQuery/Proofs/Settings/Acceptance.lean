import ElementQuery.Plan.Basic
import ElementQuery.Proofs.Log.Configurations
import ElementQuery.Proofs.Query.Names
import ElementQuery.Proofs.Settings.Loading

/-!
# Settings that are accepted

The names in settings are looked up twice: when the settings are checked, and when a planner or the
logging is handed one of them. What passes the check is found again, as it was given and as it is
stored. Settings that are stored are accepted once more, as they are.

## Main definitions

* `Settings.members` : settings as the members of an object, with the names that are stored.

## Main statements

* `Scope.ofValue_of_checkScope` : an accepted scope is found by a planner.
* `Language.ofValue_eq_ok_iff` : the accepted languages are those that a planner finds.
* `LoggingSettings.exists_check_level_iff` : the accepted levels are those that set up the logging.
* `Settings.check_members` : stored settings are accepted as they are.
-/

namespace ElementQuery

open Settings Text

theorem Scope.ofName?_eq_some_iff {name : String} {scope : Scope} :
    ofName? name = some scope ↔ name = scope.name := by
  constructor
  · intro h
    rw [ofName?] at h
    split at h
    · next hname =>
      cases h
      exact hname
    · split at h
      · next hname =>
        cases h
        exact hname
      · cases h
  · rintro rfl
    exact ofName?_name scope

theorem Language.ofName?_eq_some_iff {name : String} {language : Language} :
    ofName? name = some language ↔ name = language.name := by
  constructor
  · intro h
    rw [ofName?] at h
    split at h
    · next hname =>
      cases h
      exact hname
    · split at h
      · next hname =>
        cases h
        exact hname
      · cases h
  · rintro rfl
    exact ofName?_name language

/-- A name passes a check exactly if something is found by it once it is brought into form. -/
theorem Settings.checkName_eq_valid_iff {α : Type} {form : String → String}
    {find? : String → Option α} {refuse : String → Offence.Cause} {t : Json.Text} {a : α} :
    checkName form find? refuse (.string t) = .valid a ↔ find? (form t.plain) = some a := by
  rw [checkName, checkText, Checked.andThen]
  cases find? (form t.plain) with
  | none => exact iff_of_false (by rintro ⟨⟩) (by rintro ⟨⟩)
  | some b => exact ⟨fun h => by cases h; rfl, fun h => by cases h; rfl⟩

theorem exists_trimBoth_cons {drops : Char → Bool} {c : Char} (h : drops c = false)
    (rest : List Char) : ∃ kept, trimBoth drops (c :: rest) = c :: kept := by
  have hc : ¬drops c = true := by simp [h]
  rw [trimBoth, List.dropWhile_cons_of_neg hc, List.reverse_cons, List.dropWhile_append]
  split
  · exact ⟨[], by rw [List.dropWhile_cons_of_neg hc]; rfl⟩
  · exact ⟨_, by rw [List.reverse_append]; rfl⟩

/-- A colon in front is still there in small letters and between blanks. -/
theorem exists_lower_trim_colon {v : String} {rest : List Char} (h : v.toList = ':' :: rest) :
    ∃ kept, (lower (trim v)).toList = ':' :: kept := by
  obtain ⟨kept, hkept⟩ : ∃ kept, trimBoth isBlank (':' :: rest) = ':' :: kept :=
    exists_trimBoth_cons (by decide) rest
  have hcolon : lowerIn [] ':' kept = [':'] := by
    rw [lowerIn, if_neg (by decide), if_neg (by decide)]
    decide
  refine ⟨lowerChars [':'] kept, ?_⟩
  rw [lower, trim, h, hkept, String.toList_ofList, String.toList_ofList, lowerChars, hcolon]
  rfl

/-- The name of a scope does not start with a colon, so that none is dropped from it. -/
theorem bareName_of_scope {v : String} {scope : Scope} (h : lower (trim v) = scope.name) :
    bareName v = v := by
  refine bareName_eq_self_iff.2 fun c rest hv => ?_
  obtain ⟨kept, hkept⟩ := exists_lower_trim_colon hv
  rw [h] at hkept
  cases scope <;> cases hkept

/-- The name of a scope is trimmed and in small letters. -/
theorem Scope.lower_trim_name (scope : Scope) : lower (trim scope.name) = scope.name := by
  cases scope <;> decide

theorem Language.lower_trim_name (language : Language) :
    lower (trim language.name) = language.name := by
  cases language <;> decide

theorem Log.Level.upper_trim_name (level : Level) : upper (trim level.name) = level.name := by
  cases level <;> decide

/-- A text is accepted as a scope exactly if it is its name, spaces and case aside. -/
theorem Settings.checkScope_eq_valid_iff {v : String} {scope : Scope} :
    checkScope (.string v) = .valid scope ↔ lower (trim v) = scope.name := by
  rw [checkScope, checkName_eq_valid_iff, Json.Text.plain_ofString, Scope.ofName?_eq_some_iff]

theorem Settings.checkLanguage_eq_valid_iff {v : String} {language : Language} :
    checkLanguage (.string v) = .valid language ↔
      Language.ofName? (lower (trim v)) = some language := by
  rw [checkLanguage, checkName_eq_valid_iff, Json.Text.plain_ofString]

theorem Settings.checkLevel_eq_valid_iff {v : String} {level : Log.Level} :
    checkLevel (.string v) = .valid level ↔ upper (trim v) = level.name := by
  rw [checkLevel, checkName_eq_valid_iff, Json.Text.plain_ofString, Log.Level.ofName?_eq_some_iff]

/-- A text is found as a scope by its name, spaces, case and a colon in front aside. -/
theorem Scope.ofValue_text (s : String) : Scope.ofValue (.text s) =
    match ofName? (lower (trim (bareName s))) with
    | some scope => .ok scope
    | none => .error (.invalidValue (.unknownScope (quoted s))) := by
  have hname : (Value.text s).keyName? = some (bareName s) := keyName?_text s
  generalize bareName s = name at hname
  unfold ofValue
  simp only [hname, written_some, bind, Except.bind]
  cases ofName? (lower (trim name)) with
  | some scope => rfl
  | none => rfl

/-- A text is found as a language by its name, spaces and case aside. -/
theorem Language.ofValue_text (s : String) : Language.ofValue (.text s) =
    match ofName? (lower (trim s)) with
    | some language => .ok language
    | none => .error (.invalidValue (.unknownLanguage (quoted s))) := by
  simp only [ofValue, Value.base]
  cases ofName? (lower (trim s)) with
  | some language => rfl
  | none => rfl

/-- A scope that settings accept is found. -/
theorem Scope.ofValue_of_checkScope {v : String} {scope : Scope}
    (h : checkScope (.string v) = .valid scope) : Scope.ofValue (.text v) = .ok scope := by
  have hname : lower (trim v) = scope.name := checkScope_eq_valid_iff.1 h
  have hfind : ofName? (lower (trim (bareName v))) = some scope := by
    rw [bareName_of_scope hname, hname, ofName?_name]
  rw [ofValue_text, hfind]

/-- A scope is found by the name that is stored for it. -/
theorem Scope.ofValue_name (scope : Scope) : Scope.ofValue (.text scope.name) = .ok scope :=
  ofValue_of_checkScope (checkScope_eq_valid_iff.2 scope.lower_trim_name)

/-- A language is found exactly if settings accept it. -/
theorem Language.ofValue_eq_ok_iff {v : String} {language : Language} :
    Language.ofValue (.text v) = .ok language ↔ checkLanguage (.string v) = .valid language := by
  rw [checkLanguage_eq_valid_iff, ofValue_text]
  cases ofName? (lower (trim v)) with
  | none => simp
  | some found => simp

/-- The name that is stored for a language is accepted again. -/
theorem Settings.checkLanguage_name (language : Language) :
    checkLanguage (.string language.name) = .valid language := by
  rw [checkLanguage_eq_valid_iff, language.lower_trim_name, Language.ofName?_name]

theorem Language.ofValue_name (language : Language) :
    Language.ofValue (.text language.name) = .ok language :=
  ofValue_eq_ok_iff.2 (checkLanguage_name language)

/-- A named level means the severity of the level that settings accept under this name. -/
theorem Log.LevelChoice.means_named_iff {v : String} {n : Int} :
    (LevelChoice.named v).Means n ↔
      ∃ level : Level, checkLevel (.string v) = .valid level ∧ level.severity = n := by
  simp only [checkLevel_eq_valid_iff]
  constructor
  · intro h
    cases h with
    | @named _ level h => exact ⟨level, h, rfl⟩
  · rintro ⟨level, h, rfl⟩
    exact .named h

def CompilerSettings.members (c : CompilerSettings) : Json.Members :=
  [("default_scope", .string c.defaultScope.name),
    ("default_language", .string c.defaultLanguage.name)]

def FormatterSettings.members (f : FormatterSettings) : Json.Members :=
  [("truncate_length", .int f.truncateLength), ("ellipsis", .string f.ellipsis),
    ("line_break_replacement", .string f.lineBreakReplacement)]

def LoggingSettings.members (l : LoggingSettings) : Json.Members :=
  [("level", .string l.level.name)]

/-- All settings as the members of an object, with the names that are stored. -/
def Settings.members (settings : Settings) : Json.Members :=
  [("compiler", .object settings.compiler.members),
    ("formatter", .object settings.formatter.members),
    ("logging", .object settings.logging.members)]

/-- Stored settings on selectors are accepted again as they are. -/
theorem CompilerSettings.check_members (c : CompilerSettings) : check c.members = .valid c := by
  rw [check_eq_valid_iff, checkField_of_lookup rfl, checkField_of_lookup rfl]
  exact ⟨checkScope_eq_valid_iff.2 c.defaultScope.lower_trim_name,
    checkLanguage_name c.defaultLanguage, rfl⟩

/-- A text of characters is kept as it is. -/
theorem Settings.checkText_ofString (s : String) : checkText (.string s) = .valid s :=
  congrArg Checked.valid (Json.Text.plain_ofString s)

theorem FormatterSettings.check_members {f : FormatterSettings} (h : 1 ≤ f.truncateLength) :
    check f.members = .valid f := by
  have hlength : checkAtLeast 1 (.int f.truncateLength) = .valid f.truncateLength := by
    rw [checkAtLeast, Checked.andThen_eq_valid_iff]
    exact ⟨f.truncateLength, rfl, if_neg (Int.not_lt.2 h)⟩
  rw [check_eq_valid_iff, checkField_of_lookup rfl, checkField_of_lookup rfl,
    checkField_of_lookup rfl]
  exact ⟨hlength, checkText_ofString _, checkText_ofString _, rfl⟩

theorem LoggingSettings.check_members (l : LoggingSettings) : check l.members = .valid l := by
  rw [check_eq_valid_iff, checkField_of_lookup rfl]
  exact ⟨checkLevel_eq_valid_iff.2 l.level.upper_trim_name, rfl⟩

/-- Stored settings are accepted as they are. -/
theorem Settings.check_members {settings : Settings} (h : 1 ≤ settings.formatter.truncateLength) :
    check settings.members = .valid settings := by
  rw [check_eq_valid_iff, checkField_of_lookup rfl, checkField_of_lookup rfl,
    checkField_of_lookup rfl]
  exact ⟨settings.compiler.check_members, FormatterSettings.check_members h,
    settings.logging.check_members, rfl⟩

/-- A scope that is accepted with its section is accepted by itself. -/
theorem CompilerSettings.check_scope {v : String} {c : CompilerSettings}
    (h : check [("default_scope", .string v)] = .valid c) :
    checkScope (.string v) = .valid c.defaultScope := by
  obtain ⟨hscope, -⟩ := check_eq_valid_iff.1 h
  exact (checkField_of_lookup rfl).1 hscope

/-- A language is accepted with its section exactly if it is by itself. -/
theorem CompilerSettings.exists_check_language_iff {v : String} {language : Language} :
    (∃ c, check [("default_language", .string v)] = .valid c ∧ c.defaultLanguage = language) ↔
      checkLanguage (.string v) = .valid language := by
  constructor
  · rintro ⟨c, hc, rfl⟩
    obtain ⟨-, hlanguage, -⟩ := check_eq_valid_iff.1 hc
    exact (checkField_of_lookup rfl).1 hlanguage
  · intro hlanguage
    refine ⟨{ defaultLanguage := language }, check_eq_valid_iff.2 ⟨rfl, ?_, rfl⟩, rfl⟩
    exact (checkField_of_lookup rfl).2 hlanguage

/-- A level is accepted with its section exactly if it is by itself. -/
theorem LoggingSettings.check_level_iff {v : String} {l : LoggingSettings} :
    check [("level", .string v)] = .valid l ↔ checkLevel (.string v) = .valid l.level := by
  rw [check_eq_valid_iff, checkField_of_lookup rfl]
  exact and_iff_left rfl

/-- The accepted levels are those that set up the logging. -/
theorem LoggingSettings.exists_check_level_iff {v : String} {r : Log.Routing} {stream : Nat} :
    (∃ l, check [("level", .string v)] = .valid l) ↔
      ∃ r', r.configure (.named v) stream = .ok r' := by
  constructor
  · rintro ⟨l, hl⟩
    have hmeans := Log.LevelChoice.means_named_iff.2 ⟨l.level, check_level_iff.1 hl, rfl⟩
    exact ⟨_, Log.Routing.configure_of_means hmeans⟩
  · rintro ⟨r', hr'⟩
    obtain ⟨n, hn, -⟩ := bind_eq_ok_iff.1 hr'
    obtain ⟨level, hlevel, -⟩ :=
      Log.LevelChoice.means_named_iff.1 (Log.LevelChoice.severity_eq_ok_iff.1 hn)
    exact ⟨⟨level⟩, check_level_iff.2 hlevel⟩

/-- Setting up the logging with a level as it is given and as it is stored comes to the same. -/
theorem LoggingSettings.exists_configure {v : String} {l : LoggingSettings}
    (h : check [("level", .string v)] = .valid l) (r : Log.Routing) (stream : Nat) :
    ∃ r', r.configure (.named v) stream = .ok r' ∧
      r.configure (.named l.level.name) stream = .ok r' ∧ r'.severity = l.level.severity := by
  have hgiven := Log.LevelChoice.means_named_iff.2 ⟨l.level, check_level_iff.1 h, rfl⟩
  have hstored : (Log.LevelChoice.named l.level.name).Means l.level.severity :=
    .named l.level.upper_trim_name
  exact ⟨_, Log.Routing.configure_of_means hgiven, Log.Routing.configure_of_means hstored, rfl⟩

/-- A file with accepted settings gives these settings. -/
theorem Settings.load_of_check {bytesAt : String → Option (List Nat)} {path : String}
    {bytes : List Nat} {cs : List Char} {members : Json.Members} {settings : Settings}
    (hfile : bytesAt (tidyPath path) = some bytes) (hdecode : Utf8.decode bytes = .ok cs)
    (hparse : Json.parse (unifyBreaks cs) = .ok (.object members))
    (hcheck : check members = .valid settings) : load bytesAt (some path) = .ok settings := by
  rw [load_of_bytesAt hfile]
  simp only [ofBytes, readJson, hdecode, hparse, hcheck, Except.mapError, bind, Except.bind]
  rfl

/-- Settings that are loaded are accepted again as they are stored. -/
theorem Settings.check_members_of_load {bytesAt : String → Option (List Nat)}
    {path : Option String} {settings : Settings} (h : load bytesAt path = .ok settings) :
    check settings.members = .valid settings := by
  cases path with
  | none =>
    cases h
    exact check_members (by decide)
  | some path =>
    cases hfile : bytesAt (tidyPath path) with
    | none =>
      simp only [load, hfile] at h
      cases h
    | some bytes => exact check_members (one_le_truncateLength_of_load hfile h)

end ElementQuery
