import ElementQuery.Proofs.Outcome
import ElementQuery.Report.Handle
import Mathlib.Algebra.GroupWithZero.Nat

/-!
# Which reports are one bounded line

A report replaces line breaks in free text and cuts it, and it cuts the address of a page. All other
texts of a handle are shown as they are given: a report is one line exactly if these texts are, and
it is as long as they are together, up to a bounded rest.

## Main definitions

* `IsLine` : the texts without line breaks.
* `Shows` : which texts the fields of a report show as they are given.
* `Handle.IsElementOfTexts`, `Handle.IsDriverOfTexts` : the handles whose answers are texts.
* `Handle.elementTexts`, `Handle.driverTexts` : the texts that are shown as they are given.

## Main statements

* `Handle.reportElement_shows`, `Handle.reportDriver_shows` : what the reports show.
* `report_isLine_iff` : which reports are one line, and how long they are.
* `not_bounded_line` : no bound holds for all handles, and not all reports are one line.
-/

namespace ElementQuery

open ElementQuery.Text

/-- The values that are texts or missing. -/
def Value.IsOptionalText (v : Value) : Prop := v = .none ∨ ∃ s, v = .text s

/-- The text that a value is, if it is one. -/
def Value.givenText : Value → String
  | .text s => s
  | _ => ""

namespace Report

/-- The texts without line breaks. -/
def IsLine (cs : List Char) : Prop := ∀ c ∈ cs, c ≠ '\r' ∧ c ≠ '\n'

instance (cs : List Char) : Decidable (IsLine cs) := List.decidableBAll _ cs

theorem isLine_append {as bs : List Char} : IsLine (as ++ bs) ↔ IsLine as ∧ IsLine bs :=
  List.forall_mem_append

/-- Breaks that are replaced by lines leave a line. -/
theorem isLine_replaceBreaks {expand : List Char → List Char} (h : ∀ m, IsLine (expand m))
    (cs : List Char) : IsLine (replaceBreaks expand cs) := by
  fun_induction replaceBreaks expand cs with
  | case1 => exact List.forall_mem_nil _
  | case2 rest ih => exact isLine_append.2 ⟨h _, ih⟩
  | case3 c rest _ _ ih => exact isLine_append.2 ⟨h _, ih⟩
  | case4 c rest _ hc ih =>
    rw [not_or] at hc
    exact List.forall_mem_cons.2 ⟨hc, ih⟩

/-- A text is cut to its first characters, with a mark behind them if it had more. -/
theorem truncate_eq (limit : Nat) (ellipsis s : String) :
    truncate limit ellipsis s =
      String.ofList (s.toList.take limit) ++ if limit < s.length then ellipsis else "" := by
  have hlength : s.toList.length = s.length := String.length_toList
  by_cases hlong : limit < s.length
  · have hne : s ≠ "" := by
      rintro rfl
      exact absurd hlong (Nat.not_lt_zero limit)
    simp [truncate, takeInt, hlong, hne]
  · have hall : s.toList.take limit = s.toList := List.take_of_length_le (by omega)
    simp [truncate, hlong, hall]

/-- A text that is cut is a line exactly if what is kept is. -/
theorem isLine_truncate_iff {limit : Nat} {ellipsis : String} (h : IsLine ellipsis.toList)
    (s : String) : IsLine (truncate limit ellipsis s).toList ↔ IsLine (s.toList.take limit) := by
  have hmark : IsLine (if limit < s.length then ellipsis else "").toList := by
    split
    · exact h
    · exact nofun
  rw [truncate_eq, String.toList_append, isLine_append, String.toList_ofList, and_iff_left hmark]

/-- A cut text is longer than what is kept of it by the mark behind it at most. -/
theorem length_truncate (limit : Nat) (ellipsis s : String) :
    (s.toList.take limit).length ≤ (truncate limit ellipsis s).length ∧
      (truncate limit ellipsis s).length ≤ (s.toList.take limit).length + ellipsis.length := by
  rw [truncate_eq, String.length_append, String.length_ofList]
  split <;> simp

theorem parse_lineBreakReplacement :
    Regex.Template.parse ({} : FormatterSettings).lineBreakReplacement =
      .ok [.char ' ', .char ' '] := by
  rfl

/-- A text has its line breaks replaced and is then cut. -/
theorem clean_text (settings : FormatterSettings) (s : String) : clean settings (.text s) = do
    let line ← (eliminateBreaks settings.lineBreakReplacement s).mapError .badReplacement
    return truncate settings.truncateLength settings.ellipsis line := rfl

/-- Free text is shown as one bounded line. -/
theorem exists_clean (s : String) :
    ∃ line, clean {} (.text s) = .ok line ∧ IsLine line.toList ∧ line.length ≤ 63 := by
  have hbounded : ∀ t : String, (truncate (60 : Nat) "..." t).length ≤ 63 := by
    intro t
    have hcut := (length_truncate 60 "..." t).2
    have hmark : "...".length = 3 := by decide
    have hkept : (t.toList.take 60).length ≤ 60 := List.length_take_le 60 _
    omega
  obtain ⟨t, ht, hline⟩ : ∃ t, eliminateBreaks ({} : FormatterSettings).lineBreakReplacement s =
      .ok t ∧ IsLine t.toList := by
    rw [eliminateBreaks, parse_lineBreakReplacement]
    split
    · exact ⟨"", rfl, nofun⟩
    · refine ⟨_, rfl, ?_⟩
      rw [String.toList_ofList]
      exact isLine_replaceBreaks (fun _ => show IsLine [' ', ' '] by decide) _
  refine ⟨truncate (60 : Nat) "..." t, ?_, ?_, hbounded t⟩
  · rw [clean_text, ht]
    rfl
  · rw [isLine_truncate_iff (by decide)]
    exact fun c hc => hline c (List.mem_of_mem_take hc)

/-- How long texts are together. -/
def totalLength (texts : List String) : Nat := (texts.map String.length).sum

/-- What is shown holds some texts as they are given: it is a line exactly if these texts are, and
what else it holds is bounded. -/
structure Shows (shown : String) (texts : List String) (rest : Nat) : Prop where
  isLine_iff : IsLine shown.toList ↔ ∀ s ∈ texts, IsLine s.toList
  totalLength_le : totalLength texts ≤ shown.length
  length_le : shown.length ≤ totalLength texts + rest

theorem Shows.fixed {s : String} (h : IsLine s.toList) : Shows s [] s.length :=
  ⟨iff_of_true h nofun, Nat.zero_le _, by simp [totalLength]⟩

theorem Shows.given (s : String) : Shows s [s] 0 :=
  ⟨by simp, by simp [totalLength], by simp [totalLength]⟩

theorem Shows.append {s t : String} {texts texts' : List String} {rest rest' : Nat}
    (h : Shows s texts rest) (h' : Shows t texts' rest') :
    Shows (s ++ t) (texts ++ texts') (rest + rest') := by
  have htotal : totalLength (texts ++ texts') = totalLength texts + totalLength texts' := by
    simp [totalLength]
  have hlength : (s ++ t).length = s.length + t.length := String.length_append s t
  have hle := h.totalLength_le
  have hle' := h'.totalLength_le
  have hadd := h.length_le
  have hadd' := h'.length_le
  refine ⟨?_, by omega, by omega⟩
  rw [String.toList_append, isLine_append, List.forall_mem_append, h.isLine_iff, h'.isLine_iff]

theorem Shows.mono {s : String} {texts : List String} {rest rest' : Nat} (h : Shows s texts rest)
    (hrest : rest ≤ rest') : Shows s texts rest' :=
  ⟨h.isLine_iff, h.totalLength_le, Nat.le_trans h.length_le (Nat.add_le_add_left hrest _)⟩

/-- The fields that hold texts, as all fields of a handle of texts do in the end. -/
def HoldTexts (fields : List (String × Value)) : Prop := ∀ f ∈ fields, ∃ s, f.2 = .text s

/-- Fields as they stand in a report, each in front of what follows it. -/
def fieldsText (fields : List (String × Value)) : String :=
  String.join (fields.map fun f => f.1 ++ ": " ++ f.2.givenText ++ ", ")

theorem fieldsText_append (fields fields' : List (String × Value)) :
    fieldsText (fields ++ fields') = fieldsText fields ++ fieldsText fields' := by
  simp [fieldsText]

theorem HoldTexts.append {fields fields' : List (String × Value)} (h : HoldTexts fields)
    (h' : HoldTexts fields') : HoldTexts (fields ++ fields') :=
  List.forall_mem_append.2 ⟨h, h'⟩

theorem holdTexts_singleton (label s : String) : HoldTexts [(label, .text s)] :=
  List.forall_mem_singleton.2 ⟨s, rfl⟩

/-- Texts with a separator between them and a last one behind them. -/
theorem intercalate_concat (sep last : String) (parts : List String) :
    String.intercalate sep (parts ++ [last]) = String.join (parts.map (· ++ sep)) ++ last := by
  induction parts with
  | nil => simp
  | cons part parts ih =>
    have hne : parts ++ [last] ≠ [] := by simp
    obtain ⟨next, rest, hrest⟩ := List.exists_cons_of_ne_nil hne
    rw [List.cons_append, List.map_cons, String.join_cons, String.append_assoc, ← ih, hrest,
      String.intercalate_cons_cons, String.append_assoc]

/-- A report with fields that hold texts. -/
def reportOf (sort : String) (fields : List (String × Value)) : String :=
  "#<" ++ fieldsText fields ++ ("Object: " ++ sort ++ " at 0x0>")

/-- Texts can always be written. -/
theorem render_eq (sort : String) {fields : List (String × Value)} (h : HoldTexts fields) :
    render sort fields = .ok (reportOf sort fields) := by
  have hparts : fields.mapM (fun f => return f.1 ++ ": " ++ (← given f.2)) =
      (Except.ok (fields.map fun f => f.1 ++ ": " ++ f.2.givenText) : Except Fault _) := by
    induction fields with
    | nil => rfl
    | cons f fields ih =>
      obtain ⟨⟨s, hs⟩, hfields⟩ := List.forall_mem_cons.1 h
      rw [List.mapM_cons, ih hfields, hs, List.map_cons, hs]
      rfl
  have hend : " at 0x0>" = " at 0x0" ++ ">" := by decide
  rw [render, hparts, reportOf, fieldsText, hend]
  refine congrArg Except.ok ?_
  rw [intercalate_concat, List.map_map]
  simp only [String.append_assoc, Function.comp_def]

/-- What stands around the fields of a report is bounded, but for the sort of the handle. -/
theorem Shows.reportOf {fields : List (String × Value)} {texts : List String} {rest : Nat}
    (h : Shows (fieldsText fields) texts rest) (sort : String) :
    Shows (reportOf sort fields) (texts ++ [sort]) (rest + 18) := by
  have hlead : Shows "#<" [] 2 := .fixed (by decide)
  have hobject : Shows "Object: " [] 8 := .fixed (by decide)
  have hend : Shows " at 0x0>" [] 8 := .fixed (by decide)
  have hall := (hlead.append h).append ((hobject.append (.given sort)).append hend)
  exact hall.mono (by omega)

/-- A field of a text or a missing value is there exactly if the text is not empty. -/
theorem fieldOf_eq {v : Value} (label : String) (shown : Value → Except Fault Value)
    (hv : v.IsOptionalText) : fieldOf label v shown =
      if v.givenText = "" then .ok []
      else (fun t => [(label, t)]) <$> shown (.text v.givenText) := by
  rcases hv with rfl | ⟨s, rfl⟩
  · rfl
  · by_cases hs : s = ""
    · rw [hs]
      rfl
    · have hpresent : isPresent (.text s) = true := by simp [isPresent, Value.base, hs]
      rw [fieldOf, if_pos hpresent, Value.givenText, if_neg hs, ← bind_pure_comp]

/-- A step gives fields that hold texts, of which some are shown as they are given. -/
def GivesFields (step : Except Fault (List (String × Value))) (texts : List String)
    (rest : Nat) : Prop :=
  ∃ fields, step = .ok fields ∧ HoldTexts fields ∧ Shows (fieldsText fields) texts rest

/-- A field shows the text that is given for it, with its label. -/
theorem givesFields_fieldOf {v : Value} (label : String) (shown : Value → Except Fault Value)
    (given : String → List String) (rest : Nat) (hlabel : IsLine label.toList)
    (hv : v.IsOptionalText) (hempty : Shows "" (given "") rest)
    (hshown : ∀ s, ∃ t, shown (.text s) = .ok (.text t) ∧ Shows t (given s) rest) :
    GivesFields (fieldOf label v shown) (given v.givenText) (label.length + 4 + rest) := by
  rw [fieldOf_eq label shown hv]
  by_cases hs : v.givenText = ""
  · rw [if_pos hs, hs]
    exact ⟨[], rfl, nofun, hempty.mono (by omega)⟩
  · obtain ⟨t, ht, hshows⟩ := hshown v.givenText
    have hcolon : Shows ": " [] 2 := .fixed (by decide)
    have hcomma : Shows ", " [] 2 := .fixed (by decide)
    have hfield := (((Shows.fixed hlabel).append hcolon).append hshows).append hcomma
    rw [List.append_nil] at hfield
    refine ⟨[(label, .text t)], by rw [if_neg hs, ht]; rfl, holdTexts_singleton label t, ?_⟩
    have htext : fieldsText [(label, .text t)] = label ++ ": " ++ t ++ ", " := by
      simp [fieldsText, Value.givenText]
    rw [htext]
    exact hfield.mono (by omega)

/-- A field that is shown as it is given. -/
theorem givesFields_plain {v : Value} (label : String) (hlabel : IsLine label.toList)
    (hv : v.IsOptionalText) :
    GivesFields (fieldOf label v pure) [v.givenText] (label.length + 4) :=
  givesFields_fieldOf label _ (fun s => [s]) 0 hlabel hv (.given "") fun s => ⟨s, rfl, .given s⟩

/-- A field with free text. -/
theorem givesFields_clean {v : Value} (label : String) (hlabel : IsLine label.toList)
    (hv : v.IsOptionalText) :
    GivesFields (fieldOf label v fun v => .text <$> clean {} v) [] (label.length + 67) := by
  have hempty : Shows "" [] 63 := (Shows.fixed (by decide)).mono (Nat.zero_le 63)
  refine givesFields_fieldOf label _ (fun _ => []) 63 hlabel hv hempty fun s => ?_
  obtain ⟨line, hline, hisLine, hlength⟩ := exists_clean s
  exact ⟨line, by rw [hline]; rfl, (Shows.fixed hisLine).mono hlength⟩

/-- A text is cut to the length of the settings; the empty text stays empty. -/
theorem cut_text (settings : FormatterSettings) (s : String) : cut settings (.text s) =
    .ok (.text (truncate settings.truncateLength settings.ellipsis s)) := by
  by_cases hs : s = ""
  · have hempty : truncate settings.truncateLength settings.ellipsis "" = "" := by simp [truncate]
    rw [hs, hempty]
    rfl
  · have htruthy : (Value.text s).isTruthy = true := by simp [Value.isTruthy, Value.base, hs]
    simp only [cut, if_pos htruthy, Value.base, truncate, if_neg hs]
    by_cases hlong : settings.truncateLength < s.length
    · rw [if_pos hlong, if_pos hlong]
      rfl
    · rw [if_neg hlong, if_neg hlong]
      rfl

/-- The field of an address, of which the first characters are shown as they are given. -/
theorem givesFields_cut {v : Value} (label : String) (hlabel : IsLine label.toList)
    (hv : v.IsOptionalText) :
    GivesFields (fieldOf label v (cut {})) [String.ofList (v.givenText.toList.take 60)]
      (label.length + 7) := by
  have hempty : Shows "" [String.ofList ("".toList.take 60)] 3 :=
    (Shows.given "").mono (Nat.zero_le 3)
  refine givesFields_fieldOf label _ (fun s => [String.ofList (s.toList.take 60)]) 3 hlabel hv
    hempty fun s => ⟨truncate (60 : Nat) "..." s, cut_text {} s, ?_, ?_, ?_⟩
  · rw [isLine_truncate_iff (by decide), List.forall_mem_singleton, String.toList_ofList]
  · have hkept := (length_truncate 60 "..." s).1
    simpa [totalLength] using hkept
  · have hcut := (length_truncate 60 "..." s).2
    have hmark : "...".length = 3 := by decide
    rw [hmark] at hcut
    simpa [totalLength] using hcut

/-- Several fields show what each of them shows. -/
theorem givesFields_mapM {α : Type} {f : α → Except Fault (List (String × Value))}
    {given : α → List String} {rest : α → Nat} {as : List α}
    (h : ∀ a ∈ as, GivesFields (f a) (given a) (rest a)) :
    GivesFields (List.flatten <$> as.mapM f) (as.flatMap given) (as.map rest).sum := by
  induction as with
  | nil => exact ⟨[], rfl, nofun, .fixed nofun⟩
  | cons a as ih =>
    obtain ⟨ha, has⟩ := List.forall_mem_cons.1 h
    obtain ⟨fields, hfields, htexts, hshows⟩ := ha
    obtain ⟨further, hfurther, htexts', hshows'⟩ := ih has
    obtain ⟨parts, hparts, rfl⟩ := map_eq_ok_iff.1 hfurther
    refine ⟨fields ++ parts.flatten, ?_, htexts.append htexts', ?_⟩
    · rw [List.mapM_cons, hfields, hparts]
      rfl
    · rw [fieldsText_append, List.flatMap_cons, List.map_cons, List.sum_cons]
      exact hshows.append hshows'

end Report

namespace Handle

open Report

/-- The handles of elements whose answers are texts or missing. -/
structure IsElementOfTexts (h : Handle) : Prop where
  tag : ∃ v, h.tag = some v ∧ v.IsOptionalText
  text : ∃ v, h.text = some v ∧ v.IsOptionalText
  attributes : ∃ entries, h.attributes = some entries ∧ ∀ e ∈ entries, e.2.IsOptionalText

/-- The handles of driver sessions whose answers are texts or missing. Whether there are scripts is
a truth value or missing, and any further capabilities are left open. -/
structure IsDriverOfTexts (h : Handle) : Prop where
  title : ∃ v, h.title = some v ∧ v.IsOptionalText
  url : ∃ v, h.url = some v ∧ v.IsOptionalText
  capabilities : ∃ c, h.capabilities = some c ∧ c.browser.IsOptionalText ∧
    c.version.IsOptionalText ∧ (c.scripts = .none ∨ ∃ b, c.scripts = .bool b)

/-- The text of an answer that is there. -/
def answer (v? : Option Value) : String := v?.elim "" Value.givenText

/-- The text of an attribute. -/
def attributeText (h : Handle) (name : String) : String :=
  answer (h.attributes.bind (·.lookup name))

/-- The texts of an element that a report shows as they are given. -/
def elementTexts (h : Handle) : List String :=
  answer h.tag :: ["id", "class", "name", "href", "src"].map h.attributeText

/-- The texts of a driver session that a report shows as they are given. Of the address of the page
it is the first characters. -/
def driverTexts (h : Handle) : List String :=
  [answer h.title, String.ofList ((answer h.url).toList.take 60),
    answer (h.capabilities.map (·.browser)), answer (h.capabilities.map (·.version))]

/-- An attribute of such an element is a text or missing. -/
theorem isOptionalText_lookup {entries : List (String × Value)}
    (h : ∀ e ∈ entries, e.2.IsOptionalText) (name : String) :
    ((entries.lookup name).getD .none).IsOptionalText := by
  induction entries with
  | nil => exact .inl rfl
  | cons entry entries ih =>
    obtain ⟨hentry, hentries⟩ := List.forall_mem_cons.1 h
    rw [List.lookup_cons]
    split
    · exact hentry
    · exact ih hentries

/-- An attribute that is missing is an empty text. -/
theorem attributeText_eq {h : Handle} {entries : List (String × Value)}
    (hentries : h.attributes = some entries) (name : String) :
    h.attributeText name = ((entries.lookup name).getD .none).givenText := by
  rw [attributeText, hentries, Option.bind_some, answer]
  cases entries.lookup name <;> rfl

/-- An attribute is shown as it is given, unless it holds free text. -/
theorem givesFields_attribute {h : Handle} {entries : List (String × Value)}
    (hentries : h.attributes = some entries) (htexts : ∀ e ∈ entries, e.2.IsOptionalText)
    (name : String) {label : String} (hlabel : IsLine label.toList) (isFree : Bool) :
    GivesFields (fieldOf label ((entries.lookup name).getD .none) (shownAttribute {} isFree))
      (if isFree then [] else [h.attributeText name])
      (label.length + if isFree then 67 else 4) := by
  have hv := isOptionalText_lookup htexts name
  cases isFree with
  | true => exact givesFields_clean label hlabel hv
  | false =>
    simp only [Bool.false_eq_true, if_false, attributeText_eq hentries]
    exact givesFields_plain label hlabel hv

/-- The report about an element shows its texts and little more. -/
theorem reportElement_shows {h : Handle} (htexts : h.IsElementOfTexts) :
    ∃ report, h.reportElement {} = .ok report ∧
      Shows report (h.elementTexts ++ [h.sort]) 211 := by
  obtain ⟨⟨tag, htag, htagText⟩, ⟨text, htext, htextText⟩, entries, hentries, hentriesText⟩ :=
    htexts
  have hangles : ∀ s : String, Shows ("<" ++ s ++ ">") [s] 2 := fun s =>
    ((Shows.fixed (s := "<") (by decide)).append (.given s)).append (.fixed (by decide))
  obtain ⟨tagFields, htagFields, htagHold, htagShows⟩ := givesFields_fieldOf "Tag"
    bracketed (fun s => [s]) 2 (by decide) htagText
    ((Shows.given "").mono (Nat.zero_le 2)) fun s => ⟨_, rfl, hangles s⟩
  obtain ⟨textFields, htextFields, htextHold, htextShows⟩ :=
    givesFields_clean "Text" (by decide) htextText
  have hlabels : ∀ a ∈ reportedAttributes, IsLine a.2.1.toList := by decide
  obtain ⟨attributeFields, hattributeFields, hattributeHold, hattributeShows⟩ := givesFields_mapM
    fun a ha => givesFields_attribute hentries hentriesText a.1 (hlabels a ha) a.2.2
  obtain ⟨parts, hparts, rfl⟩ := map_eq_ok_iff.1 hattributeFields
  refine ⟨reportOf h.sort (tagFields ++ textFields ++ parts.flatten), ?_, ?_⟩
  · simp only [reportElement, htag, htext, hentries, ask, pure_bind]
    exact bind_eq_ok_iff.2 ⟨tagFields, htagFields, bind_eq_ok_iff.2 ⟨textFields, htextFields,
      bind_eq_ok_iff.2 ⟨parts, hparts,
        render_eq h.sort ((htagHold.append htextHold).append hattributeHold)⟩⟩⟩
  · have hall := (htagShows.append htextShows).append hattributeShows
    rw [← fieldsText_append, ← fieldsText_append] at hall
    have hreport := hall.reportOf h.sort
    have hanswer : tag.givenText = answer h.tag := by
      rw [htag]
      rfl
    rw [hanswer] at hreport
    exact hreport

theorem givesFields_scripts {scripts : Value} (h : scripts = .none ∨ ∃ b, scripts = .bool b) :
    GivesFields (scriptFields scripts) [] 19 := by
  rcases h with rfl | ⟨b, rfl⟩
  · exact ⟨[], rfl, nofun, (Shows.fixed (by decide)).mono (by decide)⟩
  · cases b <;>
      exact ⟨_, rfl, holdTexts_singleton _ _, (Shows.fixed (by decide)).mono (by decide)⟩

/-- The field about the events of a driver session. -/
def eventFields (c : Capabilities) : List (String × Value) :=
  [("Native Events Enabled", .text (if c.nativeEvents then "true" else "false"))]

/-- Whether there are native events is shown by a fixed text. -/
theorem eventFields_shows (c : Capabilities) : Shows (fieldsText (eventFields c)) [] 30 := by
  rw [eventFields]
  cases c.nativeEvents <;> exact (Shows.fixed (by decide)).mono (by decide)

/-- The report about a driver shows its texts and little more. -/
theorem reportDriver_shows {h : Handle} (htexts : h.IsDriverOfTexts) :
    ∃ report, h.reportDriver {} = .ok report ∧
      Shows report (h.driverTexts ++ [h.sort]) 108 := by
  obtain ⟨⟨title, htitle, htitleText⟩, ⟨url, hurl, hurlText⟩, c, hc, hbrowserText, hversionText,
    hscripts⟩ := htexts
  obtain ⟨titleFields, htitleFields, htitleHold, htitleShows⟩ :=
    givesFields_plain "Title" (by decide) htitleText
  obtain ⟨urlFields, hurlFields, hurlHold, hurlShows⟩ :=
    givesFields_cut "URL" (by decide) hurlText
  obtain ⟨browserFields, hbrowserFields, hbrowserHold, hbrowserShows⟩ :=
    givesFields_plain "Browser" (by decide) hbrowserText
  obtain ⟨versionFields, hversionFields, hversionHold, hversionShows⟩ :=
    givesFields_plain "Version" (by decide) hversionText
  obtain ⟨scripts, hscripts, hscriptHold, hscriptShows⟩ := givesFields_scripts hscripts
  have hhold := ((((htitleHold.append hurlHold).append hbrowserHold).append hversionHold).append
    hscriptHold).append (holdTexts_singleton _ _ : HoldTexts (eventFields c))
  refine ⟨reportOf h.sort (titleFields ++ urlFields ++ browserFields ++ versionFields ++
    scripts ++ eventFields c), ?_, ?_⟩
  · simp only [reportDriver, hc, htitle, hurl, ask, pure_bind]
    exact bind_eq_ok_iff.2 ⟨titleFields, htitleFields, bind_eq_ok_iff.2 ⟨urlFields, hurlFields,
      bind_eq_ok_iff.2 ⟨browserFields, hbrowserFields, bind_eq_ok_iff.2
        ⟨versionFields, hversionFields, bind_eq_ok_iff.2
          ⟨scripts, hscripts, render_eq h.sort hhold⟩⟩⟩⟩⟩
  · have hall := ((((htitleShows.append hurlShows).append hbrowserShows).append
      hversionShows).append hscriptShows).append (eventFields_shows c)
    simp only [← fieldsText_append] at hall
    have hreport := hall.reportOf h.sort
    have hanswers : h.driverTexts = [title.givenText, String.ofList (url.givenText.toList.take 60),
        c.browser.givenText, c.version.givenText] := by
      rw [driverTexts, htitle, hurl, hc]
      rfl
    rw [hanswers]
    exact hreport

end Handle

namespace Report

/-- The report on an element whose answers are texts is one line exactly if its tag, its attributes
but for the value, and the sort of the handle are lines, and it is as long as these are together, up
to 211 characters. The report on a driver session is one line exactly if the title and the first
characters of the address of its page, its browser and the version are, and as long as these are
together, up to 108 characters. -/
theorem report_isLine_iff (h : Handle) :
    (h.IsElementOfTexts → ∃ report, h.reportElement {} = .ok report ∧
      (IsLine report.toList ↔ ∀ s ∈ h.elementTexts ++ [h.sort], IsLine s.toList) ∧
      totalLength (h.elementTexts ++ [h.sort]) ≤ report.length ∧
      report.length ≤ totalLength (h.elementTexts ++ [h.sort]) + 211) ∧
    (h.IsDriverOfTexts → ∃ report, h.reportDriver {} = .ok report ∧
      (IsLine report.toList ↔ ∀ s ∈ h.driverTexts ++ [h.sort], IsLine s.toList) ∧
      totalLength (h.driverTexts ++ [h.sort]) ≤ report.length ∧
      report.length ≤ totalLength (h.driverTexts ++ [h.sort]) + 108) := by
  constructor
  · intro htexts
    obtain ⟨report, hreport, hline, hle, hlength⟩ := h.reportElement_shows htexts
    exact ⟨report, hreport, hline, hle, hlength⟩
  · intro htexts
    obtain ⟨report, hreport, hline, hle, hlength⟩ := h.reportDriver_shows htexts
    exact ⟨report, hreport, hline, hle, hlength⟩

/-- Line breaks in the text and in the value of an element, and a driver session with a title. -/
theorem report_isLine_iff_free_text :
    let element : Handle := ⟨"Element", some (.text "a"), some (.text "x\ny"),
      some [("value", .text "x\r\ny")], none, none, none⟩
    let session : Handle := ⟨"Driver", none, none, none, some (.text "Start"),
      some (.text "about:blank"), some ⟨.none, .none, .bool true, []⟩⟩
    (∃ report, element.reportElement {} = .ok report ∧ IsLine report.toList ∧
      report.length ≤ 219) ∧
    ∃ report, session.reportDriver {} = .ok report ∧ IsLine report.toList ∧
      report.length ≤ 130 := by
  intro element session
  have helement : element.IsElementOfTexts :=
    ⟨⟨_, rfl, .inr ⟨_, rfl⟩⟩, ⟨_, rfl, .inr ⟨_, rfl⟩⟩, _, rfl,
      List.forall_mem_singleton.2 (.inr ⟨_, rfl⟩)⟩
  have hsession : session.IsDriverOfTexts :=
    ⟨⟨_, rfl, .inr ⟨_, rfl⟩⟩, ⟨_, rfl, .inr ⟨_, rfl⟩⟩, _, rfl, .inl rfl, .inl rfl, .inr ⟨_, rfl⟩⟩
  have hgiven : element.elementTexts ++ [element.sort] = ["a", "", "", "", "", "", "Element"] := rfl
  have hgiven' : session.driverTexts ++ [session.sort] =
      ["Start", "about:blank", "", "", "Driver"] := by cbv
  obtain ⟨report, hreport, hline, -, hlength⟩ := (report_isLine_iff element).1 helement
  obtain ⟨report', hreport', hline', -, hlength'⟩ := (report_isLine_iff session).2 hsession
  rw [hgiven] at hline hlength
  rw [hgiven'] at hline' hlength'
  exact ⟨⟨report, hreport, hline.2 (by decide), hlength⟩,
    report', hreport', hline'.2 (by decide), hlength'⟩

/-- A link with an identifier. -/
def elementOf (id : String) : Handle :=
  ⟨"Element", some (.text "a"), some .none, some [("id", .text id)], none, none, none⟩

/-- A driver session of which the title of its page is known alone. -/
def sessionOf (title : String) : Handle :=
  ⟨"Driver", none, none, none, some (.text title), some .none, some ⟨.none, .none, .none, []⟩⟩

theorem isElementOfTexts_elementOf (id : String) : (elementOf id).IsElementOfTexts :=
  ⟨⟨_, rfl, .inr ⟨_, rfl⟩⟩, ⟨_, rfl, .inl rfl⟩, _, rfl,
    List.forall_mem_singleton.2 (.inr ⟨id, rfl⟩)⟩

theorem isDriverOfTexts_sessionOf (title : String) : (sessionOf title).IsDriverOfTexts :=
  ⟨⟨_, rfl, .inr ⟨title, rfl⟩⟩, ⟨_, rfl, .inl rfl⟩, _, rfl, .inl rfl, .inl rfl, .inl rfl⟩

/-- An identifier is shown in full, with the breaks that it has. -/
theorem exists_report_elementOf (id : String) :
    ∃ report, (elementOf id).reportElement {} = .ok report ∧
      (IsLine report.toList ↔ IsLine id.toList) ∧
      id.length + (elementOf id).sort.length ≤ report.length := by
  have hgiven : (elementOf id).elementTexts ++ [(elementOf id).sort] =
      "a" :: id :: ["", "", "", "", "Element"] := rfl
  obtain ⟨report, hreport, hline, hle, -⟩ :=
    Handle.reportElement_shows (isElementOfTexts_elementOf id)
  rw [hgiven] at hline hle
  refine ⟨report, hreport, ?_, ?_⟩
  · rw [hline, List.forall_mem_cons, List.forall_mem_cons, and_iff_right (by decide),
      and_iff_left (by decide)]
  · have htotal : id.length + "Element".length ≤
        totalLength ("a" :: id :: ["", "", "", "", "Element"]) := by
      simp [totalLength]
    exact Nat.le_trans htotal hle

/-- A title is shown in full, with the breaks that it has. -/
theorem exists_report_sessionOf (title : String) :
    ∃ report, (sessionOf title).reportDriver {} = .ok report ∧
      (IsLine report.toList ↔ IsLine title.toList) ∧
      title.length + (sessionOf title).sort.length ≤ report.length := by
  have hgiven : (sessionOf title).driverTexts ++ [(sessionOf title).sort] =
      title :: [String.ofList ("".toList.take 60), "", "", "Driver"] := rfl
  obtain ⟨report, hreport, hline, hle, -⟩ :=
    Handle.reportDriver_shows (isDriverOfTexts_sessionOf title)
  rw [hgiven] at hline hle
  refine ⟨report, hreport, ?_, by simpa [totalLength, sessionOf] using hle⟩
  rw [hline, List.forall_mem_cons, and_iff_left (by decide)]

/-- There are lines of any length. -/
theorem exists_isLine_of_length (n : Nat) : ∃ s : String, IsLine s.toList ∧ s.length = n := by
  refine ⟨String.ofList (List.replicate n 'x'), ?_, by simp⟩
  rw [String.toList_ofList]
  intro c hc
  rw [List.eq_of_mem_replicate hc]
  decide

/-- A break in an identifier or in a title is a break in the report, and no bound holds for the
reports on all elements or on all driver sessions, not even for those that are one line. -/
theorem not_bounded_line :
    (∃ h : Handle, h.IsElementOfTexts ∧ ∃ report, h.reportElement {} = .ok report ∧
      ¬IsLine report.toList) ∧
    (∃ h : Handle, h.IsDriverOfTexts ∧ ∃ report, h.reportDriver {} = .ok report ∧
      ¬IsLine report.toList) ∧
    ∀ bound, (∃ h : Handle, h.IsElementOfTexts ∧ ∃ report, h.reportElement {} = .ok report ∧
        IsLine report.toList ∧ h.sort.length + bound < report.length) ∧
      ∃ h : Handle, h.IsDriverOfTexts ∧ ∃ report, h.reportDriver {} = .ok report ∧
        IsLine report.toList ∧ h.sort.length + bound < report.length := by
  have hbreak : ¬IsLine "\n".toList := by decide
  refine ⟨⟨_, isElementOfTexts_elementOf "\n", ?_⟩, ⟨_, isDriverOfTexts_sessionOf "\n", ?_⟩,
    fun bound => ?_⟩
  · obtain ⟨report, hreport, hline, -⟩ := exists_report_elementOf "\n"
    exact ⟨report, hreport, hline.not.2 hbreak⟩
  · obtain ⟨report, hreport, hline, -⟩ := exists_report_sessionOf "\n"
    exact ⟨report, hreport, hline.not.2 hbreak⟩
  · obtain ⟨s, hs, hlength⟩ := exists_isLine_of_length (bound + 1)
    obtain ⟨report, hreport, hline, hle⟩ := exists_report_elementOf s
    obtain ⟨report', hreport', hline', hle'⟩ := exists_report_sessionOf s
    exact ⟨⟨_, isElementOfTexts_elementOf s, report, hreport, hline.2 hs, by omega⟩,
      _, isDriverOfTexts_sessionOf s, report', hreport', hline'.2 hs, by omega⟩

end Report

end ElementQuery
