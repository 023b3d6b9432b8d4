import ElementQuery.Proofs.Settings.Acceptance
import ElementQuery.Proofs.Settings.Forms
import ElementQuery.Proofs.Settings.Numerals

/-!
# What fields of settings accept

A field holds a text, the name of something, or a whole number that is not too small. Each check of
a field gives the value that it reads, or offends once, at the field itself.

## Main definitions

* `Json.IsText`, `Json.IsName` : the values that are a text, and those that name something.
* `Json.IsWhole` : the values that are taken for a whole number.

## Main statements

* `Settings.checkWholeFloat_eq_valid_iff` : which floating point numbers pass.
* `Settings.readsAs_checkText`, `Settings.readsAs_checkName`, `Settings.readsAs_checkAtLeast` : how
  fields are read.
-/

namespace ElementQuery

open ElementQuery.Number ElementQuery.Text

/-- The values that are a text. -/
def Json.IsText (j : Json.Document) (s : String) : Prop := ∃ t, j = .string t ∧ t.plain = s

/-- The values that name something once they are brought into form. -/
def Json.IsName {α : Type} (form : String → String) (name : α → String) (j : Json.Document)
    (a : α) : Prop :=
  ∃ t, j = .string t ∧ form t.plain = name a

/-- The values that are taken for a whole number: whole numbers, truth values, floating point
numbers that are whole and not too large, and numerals. -/
inductive Json.IsWhole : Json.Document → Int → Prop where
  | int (n : Int) : IsWhole (.int n) n
  | bool (b : Bool) : IsWhole (.bool b) (if b then 1 else 0)
  | float {x : Binary64} {n : Int} (h : x.value? = some (n : ℚ)) (hbound : |n| < 2 ^ 63) :
      IsWhole (.float x) n
  | text {t : Json.Text} {n : Int} (h : Settings.IsWholeNumeral n t.plain.toList) :
      IsWhole (.string t) n

/-- The values that are taken for a whole number that is not below the least one. -/
def Json.IsAtLeast (least : Int) (j : Json.Document) (n : Int) : Prop := j.IsWhole n ∧ least ≤ n

namespace Settings

theorem readsAs_checkText : ReadsAs checkText Json.IsText where
  valid_iff {j s} := by
    cases j with
    | string t =>
      constructor
      · rintro ⟨⟩
        exact ⟨t, rfl, rfl⟩
      · rintro ⟨_, ⟨⟩, rfl⟩
        rfl
    | _ => exact iff_of_false nofun nofun
  valid_or_offend j := by
    cases j with
    | string t => exact .inl ⟨t.plain, rfl⟩
    | _ => exact .inr ⟨_, rfl⟩

section Names

variable {α : Type} {form : String → String} {find? : String → Option α}
  {refuse : String → Offence.Cause} {name : α → String}

/-- A name is read as what it is found to be. -/
theorem readsAs_checkName (hfind : ∀ s a, find? s = some a ↔ s = name a) :
    ReadsAs (checkName form find? refuse) (Json.IsName form name) where
  valid_iff {j a} := by
    cases j with
    | string v =>
      rw [checkName_eq_valid_iff, hfind]
      constructor
      · intro h
        exact ⟨v, rfl, h⟩
      · rintro ⟨_, ⟨⟩, h⟩
        exact h
    | _ => exact iff_of_false nofun nofun
  valid_or_offend j := by
    refine andThen_valid_or_offend (readsAs_checkText.valid_or_offend j) fun s => ?_
    cases find? (form s) with
    | some a => exact .inl ⟨a, rfl⟩
    | none => exact .inr ⟨_, rfl⟩

end Names

theorem readsAs_checkScope :
    ReadsAs checkScope (Json.IsName (fun s => lower (trim s)) Scope.name) :=
  readsAs_checkName fun _ _ => Scope.ofName?_eq_some_iff

theorem readsAs_checkLanguage :
    ReadsAs checkLanguage (Json.IsName (fun s => lower (trim s)) Language.name) :=
  readsAs_checkName fun _ _ => Language.ofName?_eq_some_iff

theorem readsAs_checkLevel :
    ReadsAs checkLevel (Json.IsName (fun s => upper (trim s)) Log.Level.name) :=
  readsAs_checkName fun _ _ => Log.Level.ofName?_eq_some_iff

/-- The floating point numbers that pass are those that are whole and not too large. -/
theorem checkWholeFloat_eq_valid_iff {x : Binary64} {n : Int} :
    checkWholeFloat x = .valid n ↔ x.value? = some (n : ℚ) ∧ |n| < 2 ^ 63 := by
  rw [← Binary64.toInt?_eq_some_iff, checkWholeFloat]
  have hfinite : x.toInt? = some n → x.isFinite = true := by
    cases x with
    | finite => exact fun _ => rfl
    | _ => exact nofun
  have hbound (m : Int) : -wholeBound < m ∧ m < wholeBound ↔ |m| < 2 ^ 63 := abs_lt.symm
  simp only [hbound]
  constructor
  · intro h
    split at h
    · cases h
    · split at h
      · cases h
      · next m hm =>
        split at h
        · next hlt =>
          cases h
          exact ⟨hm, hlt⟩
        · cases h
  · rintro ⟨hn, hlt⟩
    rw [if_neg (by rw [hfinite hn]; decide), hn]
    exact if_pos hlt

/-- A floating point number passes, or there is one thing wrong with it. -/
theorem checkWholeFloat_valid_or_offend (x : Binary64) :
    (∃ n, checkWholeFloat x = .valid n) ∨ ∃ cause, checkWholeFloat x = .offend cause := by
  rw [checkWholeFloat]
  split
  · exact .inr ⟨_, rfl⟩
  · split
    · exact .inr ⟨_, rfl⟩
    · split
      · exact .inl ⟨_, rfl⟩
      · exact .inr ⟨_, rfl⟩

/-- A plain text passes as a numeral, or there is one thing wrong with it. -/
theorem checkPlainNumeral_valid_or_offend (cs : List Char) :
    (∃ n, checkPlainNumeral cs = .valid n) ∨ ∃ cause, checkPlainNumeral cs = .offend cause := by
  obtain ⟨sign, body, hsign, hbody, rfl⟩ := exists_sign_append cs
  rw [checkPlainNumeral_eq hsign hbody]
  dsimp only
  split
  · exact .inr ⟨_, rfl⟩
  · split
    · exact .inl ⟨_, rfl⟩
    · exact .inr ⟨_, rfl⟩

/-- Whole numbers are read from whole numbers, truth values, whole floats and numerals. -/
theorem readsAs_checkWhole : ReadsAs checkWhole Json.IsWhole where
  valid_iff {j n} := by
    constructor
    · intro h
      cases j with
      | int m =>
        cases h
        exact .int n
      | bool b =>
        cases h
        exact .bool b
      | float x =>
        obtain ⟨hvalue, hbound⟩ := checkWholeFloat_eq_valid_iff.1 h
        exact .float hvalue hbound
      | string t =>
        rw [checkWhole] at h
        split at h
        · cases h
        · next cs hclean =>
          exact .text (cleanNumeral?_iff.1 ⟨cs, hclean, checkPlainNumeral_eq_valid_iff.1 h⟩)
      | _ => cases h
    · intro h
      cases h with
      | int => rfl
      | bool b => rfl
      | float hvalue hbound => exact checkWholeFloat_eq_valid_iff.2 ⟨hvalue, hbound⟩
      | text h =>
        obtain ⟨cs, hclean, hplain⟩ := cleanNumeral?_iff.2 h
        rw [checkWhole, hclean]
        exact checkPlainNumeral_eq_valid_iff.2 hplain
  valid_or_offend j := by
    cases j with
    | int n => exact .inl ⟨n, rfl⟩
    | bool b => exact .inl ⟨_, rfl⟩
    | float x => exact checkWholeFloat_valid_or_offend x
    | string t =>
      rw [checkWhole]
      split
      · exact .inr ⟨_, rfl⟩
      · exact checkPlainNumeral_valid_or_offend _
    | _ => exact .inr ⟨_, rfl⟩

theorem readsAs_checkAtLeast (least : Int) :
    ReadsAs (checkAtLeast least) (Json.IsAtLeast least) where
  valid_iff {j n} := by
    rw [checkAtLeast, Checked.andThen_eq_valid_iff]
    simp only [readsAs_checkWhole.valid_iff]
    constructor
    · rintro ⟨m, hm, h⟩
      split at h
      · cases h
      · next hle =>
        cases h
        exact ⟨hm, Int.not_lt.1 hle⟩
    · rintro ⟨hn, hle⟩
      exact ⟨n, hn, if_neg (Int.not_lt.2 hle)⟩
  valid_or_offend j := by
    refine andThen_valid_or_offend (readsAs_checkWhole.valid_or_offend j) fun n => ?_
    split
    · exact .inr ⟨_, rfl⟩
    · exact .inl ⟨_, rfl⟩

end Settings

end ElementQuery
