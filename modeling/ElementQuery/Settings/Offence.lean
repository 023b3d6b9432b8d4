import ElementQuery.Json.Text
import ElementQuery.Query.Error

/-!
# Offences against the form of settings

Everything that is wrong with given settings is reported, each offence with its place. A reading
that goes on after an offence is `Checked`: it gives a value or all offences in order.

## Main definitions

* `Offence` : what is wrong at which place.
* `Checked` : a value, or offences; readings are combined as an applicative functor.
-/

namespace ElementQuery

/-- What is wrong with a part of the settings. -/
inductive Offence.Cause where
  | unknownKey
  /-- A section is no object; the section's form has this name. -/
  | notASection (form : String)
  | notText
  | notWhole
  /-- A text does not spell a whole number. -/
  | notANumeral
  /-- A number is too large to be taken. -/
  | tooLarge
  | hasFraction
  | notFinite
  /-- A number is below the least one. -/
  | below (least : Int)
  | unknownScope (name : String)
  | unknownLanguage (name : String)
  | unknownLevel (name : String)
  deriving DecidableEq, Repr

namespace Offence.Cause

/-- The code of an offence. -/
def code : Cause → String
  | unknownKey => "extra_forbidden"
  | notASection _ => "model_type"
  | notText => "string_type"
  | notWhole => "int_type"
  | notANumeral => "int_parsing"
  | tooLarge => "int_parsing_size"
  | hasFraction => "int_from_float"
  | notFinite => "finite_number"
  | below _ => "greater_than_equal"
  | unknownScope _ | unknownLanguage _ | unknownLevel _ => "value_error"

/-- The wording of an offence. -/
def message : Cause → String
  | unknownKey => "Extra inputs are not permitted"
  | notASection form => "Input should be a valid dictionary or instance of " ++ form
  | notText => "Input should be a valid string"
  | notWhole => "Input should be a valid integer"
  | notANumeral => "Input should be a valid integer, unable to parse string as an integer"
  | tooLarge => "Unable to parse input string as an integer, exceeded maximum size"
  | hasFraction => "Input should be a valid integer, got a number with a fractional part"
  | notFinite => "Input should be a finite number"
  | below least => "Input should be greater than or equal to " ++ toString least
  | unknownScope name => "Value error, Unknown scope: " ++ name
  | unknownLanguage name => "Value error, Unsupported selector language: " ++ name
  | unknownLevel name => "Value error, Invalid log level: " ++ name

end Offence.Cause

/-- What is wrong with settings at a place. -/
structure Offence where
  /-- The keys that lead to the place, the outermost one first. -/
  place : List Json.Text
  cause : Offence.Cause
  deriving DecidableEq, Repr

/-- What a reading gives that goes on after an offence. -/
inductive Checked (α : Type) where
  | valid (value : α)
  | invalid (offences : List Offence)

namespace Checked

/-- All offences of a reading. -/
def offences {α : Type} : Checked α → List Offence
  | valid _ => []
  | invalid offences => offences

/-- Two readings one after the other: the offences of both are kept. -/
def apply {α β : Type} (f : Checked (α → β)) (x : Checked α) : Checked β :=
  match f, x with
  | valid f, valid a => valid (f a)
  | f, x => invalid (f.offences ++ x.offences)

instance : Applicative Checked where
  pure := valid
  seq f x := f.apply (x ())

@[simp] theorem offences_pure {α : Type} (a : α) : (pure a : Checked α).offences = [] := rfl

/-- Two readings one after the other offend where either of them does. -/
@[simp] theorem offences_apply {α β : Type} (f : Checked (α → β)) (x : Checked α) :
    (f.apply x).offences = f.offences ++ x.offences := by
  cases f <;> cases x <;> simp [apply, offences]

/-- Two checks in a row report what each of them reports. -/
@[simp] theorem offences_seq {α β : Type} (f : Checked (α → β)) (x : Checked α) :
    (f <*> x).offences = f.offences ++ x.offences := offences_apply f x

@[simp] theorem offences_map {α β : Type} (f : α → β) (x : Checked α) :
    (f <$> x).offences = x.offences :=
  offences_apply (valid f) x

/-- A reading that fails with one offence right here. -/
def offend {α : Type} (cause : Offence.Cause) : Checked α := invalid [⟨[], cause⟩]

/-- A reading of what lies under a key: its offences lie there as well. -/
def under {α : Type} (key : Json.Text) : Checked α → Checked α
  | valid a => valid a
  | invalid offences => invalid (offences.map fun o => ⟨key :: o.place, o.cause⟩)

/-- Under a key the same things offend, each place with the key in front. -/
@[simp] theorem offences_under {α : Type} (key : Json.Text) (x : Checked α) :
    (x.under key).offences = x.offences.map fun o => ⟨key :: o.place, o.cause⟩ := by
  cases x <;> simp [under, offences]

/-- Goes on with a value, if there is one. -/
def andThen {α β : Type} (x : Checked α) (f : α → Checked β) : Checked β :=
  match x with
  | valid a => f a
  | invalid offences => invalid offences

end Checked

end ElementQuery
