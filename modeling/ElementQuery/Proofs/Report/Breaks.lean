import ElementQuery.Proofs.Regex.Templates
import ElementQuery.Proofs.Report.Lines
import ElementQuery.Settings.Load

/-!
# When line breaks are replaced as the settings say

The replacement for line breaks is read as a template. It stands between the lines of every text as
it is written exactly if it is a text that stands for itself; otherwise some text gets something
else, or no text but the empty one has a result, and then there are elements without a report.

## Main definitions

* `lines` : the pieces of a text between its line breaks.

## Main statements

* `replaceBreaks_eq_intercalate` : texts between the lines.
* `Handle.failsWhen_reportElement` : which elements have no report.
* `breaks_as_written_iff` : which replacements stand between the lines as they are written.
* `not_breaks_as_written` : replacements that do not.
-/

namespace ElementQuery

open ElementQuery.Regex ElementQuery.Text

namespace Report

/-- The pieces of a text between its line breaks. -/
def lines (cs : List Char) : List (List Char) := (unifyBreaks cs).splitOn '\n'

/-- Lines end where a line feed is once breaks have been unified. -/
theorem lines_of_unifyBreaks {cs rest : List Char} {c : Char}
    (h : unifyBreaks cs = c :: unifyBreaks rest) :
    lines cs = if c = '\n' then [] :: lines rest else (lines rest).modifyHead (c :: ·) := by
  simp [lines, h, List.splitOn_eq_splitOnP, List.splitOnP_cons_eq_if_modifyHead]

/-- A line ends at a carriage return or a line feed. -/
theorem lines_cons {c : Char} {rest : List Char}
    (h : ∀ further, c = '\r' → rest = '\n' :: further → False) :
    lines (c :: rest) = if c = '\r' ∨ c = '\n' then [] :: lines rest
      else (lines rest).modifyHead (c :: ·) := by
  have hunify : unifyBreaks (c :: rest) = (if c = '\r' then '\n' else c) :: unifyBreaks rest := by
    rw [unifyBreaks]
    exact h
  rw [lines_of_unifyBreaks hunify]
  by_cases hc : c = '\r' <;> simp [hc]

/-- A break is replaced between the pieces around it, whatever the rest is. -/
theorem replaceBreaks_eq_intercalate (r cs : List Char) :
    replaceBreaks (fun _ => r) cs = r.intercalate (lines cs) := by
  have hbreak : ∀ rest, r.intercalate ([] :: lines rest) = r ++ r.intercalate (lines rest) :=
    fun rest => List.intercalate_cons_of_ne_nil (List.splitOn_ne_nil _ _)
  fun_induction replaceBreaks (fun _ => r) cs with
  | case1 => rfl
  | case2 rest ih => rw [lines_of_unifyBreaks (c := '\n') rfl, if_pos rfl, hbreak, ih]
  | case3 c rest hcrlf hc ih => rw [lines_cons hcrlf, if_pos hc, hbreak, ih]
  | case4 c rest hcrlf hc ih =>
    rw [lines_cons hcrlf, if_neg hc, ih]
    obtain ⟨line, further, hlines⟩ :=
      List.exists_cons_of_ne_nil (List.splitOn_ne_nil '\n' (unifyBreaks rest))
    rw [lines, hlines, List.modifyHead_cons]
    cases further with
    | nil => rfl
    | cons next further => simp [List.intercalate_cons_cons]

example : lines ['a', '\r', '\n', '\r', 'b', '\n'] = [['a'], [], ['b'], []] := by decide

theorem expand_map_char (matched cs : List Char) :
    Template.expand matched (cs.map .char) = cs := by
  simp [Template.expand, List.flatMap_map]

theorem length_expand {matched : List Char} (h : matched.length = 1) (template : Template) :
    (template.expand matched).length = template.length := by
  induction template with
  | nil => rfl
  | cons piece template ih =>
    rw [Template.expand] at ih
    cases piece <;> simp [Template.expand, ih, h, Nat.add_comm]

/-- Replacing breaks fails exactly over a bad template, and never on an empty text. -/
theorem eliminateBreaks_eq_error_iff {replacement text : String} {cause : Regex.Error} :
    eliminateBreaks replacement text = .error cause ↔
      Template.parse replacement = .error cause ∧ text ≠ "" := by
  rw [eliminateBreaks]
  by_cases htext : text = ""
  · rw [if_pos htext]
    constructor
    · rintro ⟨⟩
    · exact fun h => absurd htext h.2
  · rw [if_neg htext, and_iff_left htext, bind_eq_error_iff]
    constructor
    · rintro (hcause | ⟨_, -, ⟨⟩⟩)
      exact hcause
    · exact .inl

/-- A replacement that stands for itself comes between the lines. -/
theorem eliminateBreaks_of_isVerbatim {replacement : String}
    (h : Template.IsVerbatim replacement.toList) (text : String) :
    eliminateBreaks replacement text =
      .ok (String.ofList (replacement.toList.intercalate (lines text.toList))) := by
  rw [eliminateBreaks, Template.parse_of_isVerbatim h, ← replaceBreaks_eq_intercalate]
  by_cases htext : text = ""
  · rw [if_pos htext, htext]
    rfl
  · rw [if_neg htext]
    change Except.ok (String.ofList (replaceBreaks (fun m => Template.expand m _) _)) = _
    simp only [expand_map_char]

/-- A break alone shows whether the replacement is longer than what stands for it. -/
theorem isVerbatim_of_eliminateBreaks {replacement : String}
    (h : eliminateBreaks replacement "\n" = .ok replacement) :
    Template.IsVerbatim replacement.toList := by
  rw [eliminateBreaks, if_neg (by decide)] at h
  obtain ⟨template, htemplate, hshown⟩ := bind_eq_ok_iff.1 h
  obtain ⟨-, hverbatim⟩ := Template.isVerbatim_of_parse htemplate
  apply hverbatim
  have hexpand : template.expand ['\n'] = replacement.toList := by
    have htoList := congrArg String.toList (Except.ok.inj hshown)
    rw [String.toList_ofList] at htoList
    rw [← htoList]
    exact (List.append_nil _).symm
  have hone : ['\n'].length = 1 := rfl
  rw [← length_expand hone, hexpand, String.length_toList]

/-- The faults that a malformed replacement leads to. -/
def BadReplacement (replacement : String) (fault : Fault) : Prop :=
  ∃ cause, Template.parse replacement = .error cause ∧ fault = .badReplacement cause

/-- Cleaning a text fails over the replacement, if there is a text at all. -/
theorem failsWhen_clean (settings : FormatterSettings) (s : String) :
    FailsWhen (clean settings (.text s)) (BadReplacement settings.lineBreakReplacement)
      (s ≠ "") := by
  intro fault
  rw [clean_text, bind_eq_error_iff, mapError_eq_error_iff]
  constructor
  · rintro (⟨cause, hcause, rfl⟩ | ⟨_, -, ⟨⟩⟩)
    obtain ⟨hparse, hs⟩ := eliminateBreaks_eq_error_iff.1 hcause
    exact ⟨⟨cause, hparse, rfl⟩, hs⟩
  · rintro ⟨⟨cause, hparse, rfl⟩, hs⟩
    exact .inl ⟨cause, eliminateBreaks_eq_error_iff.2 ⟨hparse, hs⟩, rfl⟩

/-- A field fails when what it shows does. -/
theorem failsWhen_fieldOf {A : Fault → Prop} {P : String → Prop} {v : Value} (label : String)
    (shown : Value → Except Fault Value) (hv : v.IsOptionalText) (hempty : ¬P "")
    (hshown : ∀ s, FailsWhen (shown (.text s)) A (P s)) :
    FailsWhen (fieldOf label v shown) A (P v.givenText) := by
  rw [fieldOf_eq label shown hv]
  by_cases hs : v.givenText = ""
  · rw [if_pos hs, hs]
    exact .pure hempty []
  · rw [if_neg hs]
    exact fun fault => map_eq_error_iff.trans (hshown v.givenText fault)

/-- What is shown of a text, if anything, is a text. -/
def KeepsTexts (shown : Value → Except Fault Value) : Prop :=
  ∀ s w, shown (.text s) = .ok w → ∃ t, w = .text t

theorem keepsTexts_pure : KeepsTexts pure := fun s _ h => ⟨s, (Except.ok.inj h).symm⟩

theorem keepsTexts_bracketed : KeepsTexts bracketed := fun _ _ h => ⟨_, (Except.ok.inj h).symm⟩

theorem keepsTexts_clean (settings : FormatterSettings) :
    KeepsTexts fun v => .text <$> clean settings v := by
  intro s w h
  obtain ⟨t, -, rfl⟩ := map_eq_ok_iff.1 h
  exact ⟨t, rfl⟩

/-- A field that is shown as a text holds a text. -/
theorem KeepsTexts.holdTexts {shown : Value → Except Fault Value} (h : KeepsTexts shown)
    {v : Value} {label : String} {fields : List (String × Value)} (hv : v.IsOptionalText)
    (hfields : fieldOf label v shown = .ok fields) : HoldTexts fields := by
  rw [fieldOf_eq label shown hv] at hfields
  split at hfields
  · cases hfields
    exact nofun
  · obtain ⟨w, hw, rfl⟩ := map_eq_ok_iff.1 hfields
    obtain ⟨t, rfl⟩ := h _ w hw
    exact holdTexts_singleton label t

theorem keepsTexts_shownAttribute (settings : FormatterSettings) (isFree : Bool) :
    KeepsTexts (shownAttribute settings isFree) := by
  cases isFree with
  | true => exact keepsTexts_clean settings
  | false => exact keepsTexts_pure

end Report

namespace Handle

open Report

/-- Only free text can keep an element from being reported. -/
theorem failsWhen_reportElement {h : Handle} (htexts : h.IsElementOfTexts)
    (settings : FormatterSettings) : FailsWhen (h.reportElement settings)
      (BadReplacement settings.lineBreakReplacement)
      (answer h.text ≠ "" ∨ h.attributeText "value" ≠ "") := by
  obtain ⟨⟨tag, htag, htagText⟩, ⟨text, htext, htextText⟩, entries, hentries, hentriesText⟩ :=
    htexts
  have hplain : ∀ (v : Value) (label : String) (shown : Value → Except Report.Fault Value),
      v.IsOptionalText → (∀ s, ∃ w, shown (.text s) = pure w) →
      FailsWhen (fieldOf label v shown) (BadReplacement settings.lineBreakReplacement) False :=
    fun v label shown hv hshown =>
      failsWhen_fieldOf (P := fun _ => False) label _ hv not_false fun s => by
        obtain ⟨w, hw⟩ := hshown s
        exact hw ▸ .pure not_false w
  have hclean : ∀ (v : Value) (label : String), v.IsOptionalText →
      FailsWhen (fieldOf label v fun v => .text <$> clean settings v)
        (BadReplacement settings.lineBreakReplacement) (v.givenText ≠ "") := fun v label hv =>
    failsWhen_fieldOf (P := (· ≠ "")) label _ hv (not_not_intro rfl) fun s fault =>
      map_eq_error_iff.trans (failsWhen_clean settings s fault)
  have hattributes : ∀ a ∈ reportedAttributes, FailsWhen
      (fieldOf a.2.1 ((entries.lookup a.1).getD .none) (shownAttribute settings a.2.2))
      (BadReplacement settings.lineBreakReplacement)
      (a.2.2 = true ∧ h.attributeText a.1 ≠ "") := by
    rintro ⟨name, label, isFree⟩ -
    have hv := isOptionalText_lookup hentriesText name
    cases isFree with
    | false =>
      have hfield := hplain _ label (shownAttribute settings false) hv fun s => ⟨.text s, rfl⟩
      simpa using hfield
    | true =>
      have hfield : FailsWhen (fieldOf label _ (shownAttribute settings true)) _ _ :=
        hclean _ label hv
      rw [attributeText_eq hentries]
      simpa using hfield
  have hrender : ∀ tagFields, fieldOf "Tag" tag bracketed = .ok tagFields →
      ∀ textFields, (fieldOf "Text" text fun v => .text <$> clean settings v) = .ok textFields →
      ∀ attributeFields, (reportedAttributes.mapM fun a => fieldOf a.2.1
        ((entries.lookup a.1).getD .none) (shownAttribute settings a.2.2)) = .ok attributeFields →
      FailsWhen (render h.sort (tagFields ++ textFields ++ attributeFields.flatten))
        (BadReplacement settings.lineBreakReplacement) False := by
    intro tagFields htagFields textFields htextFields attributeFields hattributeFields
    have hhold : HoldTexts attributeFields.flatten := by
      intro f hf
      obtain ⟨fields, hfields, hf⟩ := List.mem_flatten.1 hf
      obtain ⟨a, -, hfield⟩ := exists_of_mapM_eq_ok hattributeFields hfields
      exact (keepsTexts_shownAttribute settings a.2.2).holdTexts
        (isOptionalText_lookup hentriesText a.1) hfield f hf
    have htags := keepsTexts_bracketed.holdTexts htagText htagFields
    have htexts := (keepsTexts_clean settings).holdTexts htextText htextFields
    -- Fields that all hold texts can be put together.
    rw [render_eq h.sort ((htags.append htexts).append hhold)]
    exact .pure not_false _
  have hall := (hplain tag "Tag" bracketed htagText fun _ => ⟨_, rfl⟩).bind
    fun tagFields htagFields => (hclean text "Text" htextText).bind
    fun textFields htextFields => (FailsWhen.mapM hattributes).bind
      (hrender tagFields htagFields textFields htextFields)
  intro fault
  simp only [reportElement, htag, htext, hentries, ask, pure_bind]
  refine (hall fault).trans ?_
  simp [reportedAttributes, answer]

end Handle

namespace Report

/-- The replacement of the settings stands between the lines of every text as it is written exactly
if it stands for itself; then no break is left unless the replacement has one, and every element
has a report. Otherwise the elements with free text have none if the replacement is malformed. -/
theorem breaks_as_written_iff (settings : FormatterSettings) :
    ((∀ text, eliminateBreaks settings.lineBreakReplacement text = .ok (String.ofList
        (settings.lineBreakReplacement.toList.intercalate (lines text.toList)))) ↔
      Template.IsVerbatim settings.lineBreakReplacement.toList) ∧
    (Template.IsVerbatim settings.lineBreakReplacement.toList →
      IsLine settings.lineBreakReplacement.toList → ∀ text, ∃ line,
        eliminateBreaks settings.lineBreakReplacement text = .ok line ∧ IsLine line.toList) ∧
    ∀ h : Handle, h.IsElementOfTexts →
      (Template.IsVerbatim settings.lineBreakReplacement.toList →
        ∃ report, h.reportElement settings = .ok report) ∧
      FailsWhen (h.reportElement settings) (BadReplacement settings.lineBreakReplacement)
        (Handle.answer h.text ≠ "" ∨ h.attributeText "value" ≠ "") := by
  refine ⟨⟨fun h => ?_, eliminateBreaks_of_isVerbatim⟩, fun hverbatim hline text => ?_,
    fun h htexts => ?_⟩
  · apply isVerbatim_of_eliminateBreaks
    have hlines : lines "\n".toList = [[], []] := by decide
    rw [h "\n", hlines]
    simp [List.intercalate_cons_cons]
  · refine ⟨_, eliminateBreaks_of_isVerbatim hverbatim text, ?_⟩
    rw [String.toList_ofList, ← replaceBreaks_eq_intercalate]
    exact isLine_replaceBreaks (fun _ => hline) _
  · have hfails := Handle.failsWhen_reportElement htexts settings
    refine ⟨fun hverbatim => ?_, hfails⟩
    cases hreport : h.reportElement settings with
    | ok report => exact ⟨report, rfl⟩
    | error fault =>
      obtain ⟨⟨cause, hparse, -⟩, -⟩ := (hfails fault).1 hreport
      rw [Template.parse_of_isVerbatim hverbatim] at hparse
      cases hparse

/-- A backslash between blanks. -/
theorem breaks_as_written_iff_spaced_backslash :
    let settings : FormatterSettings := { lineBreakReplacement := " \\ " }
    let element : Handle :=
      ⟨"Element", some (.text "a"), some (.text "x\r\ny"), some [], none, none, none⟩
    eliminateBreaks settings.lineBreakReplacement "x\r\ny" = .ok "x \\ y" ∧
    (∃ line, eliminateBreaks settings.lineBreakReplacement "\n\r" = .ok line ∧
      IsLine line.toList) ∧
    ∃ report, element.reportElement settings = .ok report := by
  intro settings element
  have hverbatim : Template.IsVerbatim settings.lineBreakReplacement.toList := by
    have htoList : settings.lineBreakReplacement.toList = [' ', '\\', ' '] := by decide
    rw [htoList]
    exact ⟨by decide, trivial⟩
  have helement : element.IsElementOfTexts :=
    ⟨⟨_, rfl, .inr ⟨_, rfl⟩⟩, ⟨_, rfl, .inr ⟨_, rfl⟩⟩, _, rfl, List.forall_mem_nil _⟩
  obtain ⟨hiff, hline, hreport⟩ := breaks_as_written_iff settings
  have hshown : String.ofList (settings.lineBreakReplacement.toList.intercalate
      (lines "x\r\ny".toList)) = "x \\ y" := by decide
  exact ⟨hshown ▸ hiff.2 hverbatim "x\r\ny", hline hverbatim (by decide) "\n\r",
    (hreport element helement).1 hverbatim⟩

/-- Replacements without breaks: one that becomes a break, and one that is accepted although it
keeps an element from being reported. -/
theorem not_breaks_as_written :
    (eliminateBreaks "\\n" "a\nb" = .ok "a\nb" ∧
      String.ofList ("\\n".toList.intercalate (lines "a\nb".toList)) = "a\\nb" ∧
      IsLine "\\n".toList ∧ ¬IsLine "a\nb".toList) ∧
    ∃ (settings : FormatterSettings) (h : Handle),
      FormatterSettings.check [("line_break_replacement", .string "\\q")] = .valid settings ∧
      h.IsElementOfTexts ∧ ∃ fault, h.reportElement settings = .error fault := by
  refine ⟨⟨by rfl, by decide, by decide, by decide⟩, _,
    ⟨"Element", some (.text "a"), some (.text "x"), some [], none, none, none⟩, rfl,
    ⟨⟨_, rfl, .inr ⟨_, rfl⟩⟩, ⟨_, rfl, .inr ⟨_, rfl⟩⟩, _, rfl, List.forall_mem_nil _⟩, ?_⟩
  exact ⟨_, rfl⟩

end Report

end ElementQuery
