import ElementQuery.Proofs.Notation.Tokens

/-!
# The grammar of the query notation

A map is a sequence of entries between braces, an entry is a keyword with a value, and a text is a
map, or a vector of maps between brackets. The tokens that lead the reading of a form from its start
to its end are those of the grammar, and at each stage the tokens that can follow are those that
are accepted.

## Main definitions

* `IsEntries`, `IsMap`, `IsMaps`, `IsVector`, `IsForm` : the grammar.
* `entriesOf`, `mapEntries` : the entries that tokens are.
* `Stage.run` : where tokens lead.
* `Stage.HasRead` : the tokens that a stage can have behind it.
* `IsQueryText` : the texts that follow the grammar.
* `CanFollow` : what can follow tokens in such a text.

## Main statements

* `Stage.HasRead.run` : where tokens lead, they have been read.
* `isForm_iff`, `isMap_iff`, `isVector_iff` : the tokens of the grammar are those that lead to a
  form.
* `Stage.run_vector` : the maps of a vector are those of its blocks of tokens.
* `Tokenizes.exists_isForm` : what has been read can always be completed.
* `canFollow_iff` : what can follow is what is accepted.
-/

namespace ElementQuery.Notation

/-- The sorts of tokens that a value can be. -/
inductive IsValue : Terminal → Prop where
  | keyword : IsValue .keyword
  | string : IsValue .string
  | regex : IsValue .regex
  | integer : IsValue .integer

/-- Keywords, each with a value. -/
inductive IsEntries : List Terminal → Prop where
  | nil : IsEntries []
  | cons {v : Terminal} {rest : List Terminal} (hv : IsValue v) (h : IsEntries rest) :
      IsEntries (.keyword :: v :: rest)

/-- Entries between braces. -/
inductive IsMap : List Terminal → Prop where
  | braces {body : List Terminal} (h : IsEntries body) : IsMap (.openMap :: (body ++ [.closeMap]))

/-- Maps, one after the other. -/
inductive IsMaps : List Terminal → Prop where
  | nil : IsMaps []
  | cons {first rest : List Terminal} (hfirst : IsMap first) (h : IsMaps rest) :
      IsMaps (first ++ rest)

/-- Maps between brackets. -/
inductive IsVector : List Terminal → Prop where
  | brackets {body : List Terminal} (h : IsMaps body) :
      IsVector (.openVector :: (body ++ [.closeVector]))

/-- A map or a vector. -/
inductive IsForm : List Terminal → Prop where
  | map {ts : List Terminal} (h : IsMap ts) : IsForm ts
  | vector {ts : List Terminal} (h : IsVector ts) : IsForm ts

theorem IsEntries.append {a b : List Terminal} (ha : IsEntries a) (hb : IsEntries b) :
    IsEntries (a ++ b) := by
  induction ha with
  | nil => exact hb
  | cons hv _ ih => exact .cons hv ih

theorem IsMaps.append {a b : List Terminal} (ha : IsMaps a) (hb : IsMaps b) : IsMaps (a ++ b) := by
  induction ha with
  | nil => exact hb
  | cons hfirst _ ih =>
    rw [List.append_assoc]
    exact .cons hfirst ih

theorem IsMaps.singleton {ts : List Terminal} (h : IsMap ts) : IsMaps ts := by
  have hmaps := IsMaps.cons h .nil
  rwa [List.append_nil] at hmaps

theorem IsMaps.head?_eq {ts : List Terminal} {t : Terminal} (h : IsMaps ts)
    (ht : ts.head? = some t) : t = .openMap := by
  cases h with
  | nil => cases ht
  | cons hfirst _ =>
    cases hfirst
    cases ht
    rfl

theorem IsMaps.getLast?_eq {ts : List Terminal} {t : Terminal} (h : IsMaps ts)
    (ht : ts.getLast? = some t) : t = .closeMap := by
  induction h with
  | nil => cases ht
  | @cons first rest hfirst _ ih =>
    cases hfirst with
    | braces =>
      rw [List.getLast?_append] at ht
      cases hrest : rest.getLast? with
      | none =>
        rw [hrest, Option.none_or, ← List.cons_append, List.getLast?_concat] at ht
        exact (Option.some.inj ht).symm
      | some last =>
        rw [hrest] at ht
        exact ih (hrest.trans ht)

/-- The sorts of the tokens. -/
abbrev terminals (tokens : List Token) : List Terminal := tokens.map (·.terminal)

/-- Tokens between an opening and a closing one. -/
theorem exists_of_terminals_eq {tokens : List Token} {opening closing : Terminal}
    {body : List Terminal} (h : terminals tokens = opening :: (body ++ [closing])) :
    ∃ first inner last, tokens = first :: (inner ++ [last]) ∧ first.terminal = opening ∧
      terminals inner = body ∧ last.terminal = closing := by
  obtain ⟨first, behind, rfl, hfirst, hbehind⟩ := List.map_eq_cons_iff.1 h
  obtain ⟨inner, tail, rfl, hinner, htail⟩ := List.map_eq_append_iff.1 hbehind
  obtain ⟨last, rfl, hlast⟩ := List.map_eq_singleton_iff.1 htail
  exact ⟨first, inner, last, rfl, hfirst, hinner, hlast⟩

/-- The texts whose tokens follow the grammar. -/
def IsQueryText (text : List Char) : Prop :=
  ∃ tokens, Tokenizes text tokens ∧ IsForm (terminals tokens)

/-- What comes first: a token, or the end of the text. -/
def upcoming (tokens : List Token) : Terminal := tokens.head?.elim .endOfText (·.terminal)

/-- What can follow tokens in a text that follows the grammar. -/
def CanFollow (read : List Token) (t : Terminal) : Prop :=
  ∃ text rest, Tokenizes text (read ++ rest) ∧ IsForm (terminals (read ++ rest)) ∧
    upcoming rest = t

namespace Stage

/-- Where tokens lead, if each of them fits. -/
def run (stage : Stage) (tokens : List Token) : Option Stage := tokens.foldlM step stage

@[simp] theorem run_nil (stage : Stage) : stage.run [] = some stage := rfl

@[simp] theorem run_cons (stage : Stage) (token : Token) (tokens : List Token) :
    stage.run (token :: tokens) = (stage.step token).bind (run · tokens) := rfl

@[simp] theorem run_append (stage : Stage) (a b : List Token) :
    stage.run (a ++ b) = (stage.run a).bind (run · b) :=
  List.foldlM_append

/-- What stands in front of a map: the bracket and the other maps, in a vector. -/
inductive IsLead : Option (List (List Entry)) → List Terminal → Prop where
  | outside : IsLead none []
  | inside {earlier : List (List Entry)} {body : List Terminal} (h : IsMaps body) :
      IsLead (some earlier) (.openVector :: body)

/-- The tokens that a stage can have behind it. -/
inductive HasRead : Stage → List Terminal → Prop where
  | start : HasRead start []
  | entries {outer : Option (List (List Entry))} {read : List Entry} {lead body : List Terminal}
      (hlead : IsLead outer lead) (hbody : IsEntries body) :
      HasRead (entries outer read) (lead ++ .openMap :: body)
  | value {outer : Option (List (List Entry))} {read : List Entry} {key : Token}
      {lead body : List Terminal} (hlead : IsLead outer lead) (hbody : IsEntries body) :
      HasRead (value outer read key) (lead ++ .openMap :: (body ++ [.keyword]))
  | maps {read : List (List Entry)} {body : List Terminal} (h : IsMaps body) :
      HasRead (maps read) (.openVector :: body)
  | map {read : List Entry} {ts : List Terminal} (h : IsMap ts) : HasRead (done (.map read)) ts
  | vector {read : List (List Entry)} {ts : List Terminal} (h : IsVector ts) :
      HasRead (done (.vector read)) ts

variable {outer : Option (List (List Entry))} {read : List Entry} {key token : Token}

theorem step_start_openMap (h : token.terminal = .openMap) :
    start.step token = some (entries none []) := by
  simp only [step, h]

theorem step_start_openVector (h : token.terminal = .openVector) :
    start.step token = some (maps []) := by
  simp only [step, h]

theorem step_entries_keyword (h : token.terminal = .keyword) :
    (entries outer read).step token = some (value outer read token) := by
  simp only [step, h]

theorem step_entries_closeMap (h : token.terminal = .closeMap) :
    (entries outer read).step token = some (closeMap outer read) := by
  simp only [step, h]

theorem step_value (h : IsValue token.terminal) :
    (value outer read key).step token = some (entries outer (read ++ [⟨key, token⟩])) := by
  generalize hsort : token.terminal = sort at h
  cases h <;> simp only [step, hsort]

theorem step_maps_openMap {earlier : List (List Entry)} (h : token.terminal = .openMap) :
    (maps earlier).step token = some (entries (some earlier) []) := by
  simp only [step, h]

theorem step_maps_closeVector {earlier : List (List Entry)} (h : token.terminal = .closeVector) :
    (maps earlier).step token = some (done (.vector earlier)) := by
  simp only [step, h]

/-- A closing brace ends a map wherever it can stand. -/
theorem IsLead.closeMap {lead body : List Terminal} (hlead : IsLead outer lead)
    (hbody : IsEntries body) :
    (closeMap outer read).HasRead (lead ++ .openMap :: (body ++ [.closeMap])) := by
  cases hlead with
  | outside => exact .map (.braces hbody)
  | inside h => exact .maps (h.append (.singleton (.braces hbody)))

/-- A key with its value goes on with the entries of a map. -/
theorem IsLead.addEntry {lead body : List Terminal} {v : Terminal} (hlead : IsLead outer lead)
    (hbody : IsEntries body) (hv : IsValue v) :
    (entries outer read).HasRead (lead ++ .openMap :: (body ++ [.keyword]) ++ [v]) := by
  have hread : HasRead (.entries outer read) (lead ++ .openMap :: (body ++ [.keyword, v])) :=
    .entries hlead (hbody.append (.cons hv .nil))
  simpa using hread

/-- A token that fits has then been read. -/
theorem HasRead.step {stage next : Stage} {ts : List Terminal}
    (h : stage.HasRead ts) (hstep : stage.step token = some next) :
    next.HasRead (ts ++ [token.terminal]) := by
  revert hstep
  -- The stage decides in which of the ways it has been read; the token is put behind that.
  fun_cases Stage.step stage token with
  | case1 heq =>
    rintro ⟨⟩
    cases h
    exact heq ▸ .entries .outside .nil
  | case2 heq =>
    rintro ⟨⟩
    cases h
    exact heq ▸ .maps .nil
  | case3 outer read heq =>
    rintro ⟨⟩
    obtain _ | ⟨hlead, hbody⟩ := h
    rw [List.append_assoc]
    exact heq ▸ .value hlead hbody
  | case4 outer read heq =>
    rintro ⟨⟩
    obtain _ | ⟨hlead, hbody⟩ := h
    rw [List.append_assoc]
    exact heq ▸ hlead.closeMap hbody
  | case5 outer read key heq =>
    rintro ⟨⟩
    obtain _ | _ | ⟨hlead, hbody⟩ := h
    exact hlead.addEntry hbody (heq ▸ .keyword)
  | case6 outer read key heq =>
    rintro ⟨⟩
    obtain _ | _ | ⟨hlead, hbody⟩ := h
    exact hlead.addEntry hbody (heq ▸ .string)
  | case7 outer read key heq =>
    rintro ⟨⟩
    obtain _ | _ | ⟨hlead, hbody⟩ := h
    exact hlead.addEntry hbody (heq ▸ .regex)
  | case8 outer read key heq =>
    rintro ⟨⟩
    obtain _ | _ | ⟨hlead, hbody⟩ := h
    exact hlead.addEntry hbody (heq ▸ .integer)
  | case9 read heq =>
    rintro ⟨⟩
    obtain _ | _ | _ | h := h
    exact heq ▸ .entries (.inside h) .nil
  | case10 read heq =>
    rintro ⟨⟩
    obtain _ | _ | _ | h := h
    exact heq ▸ .vector (.brackets h)
  | case11 => exact nofun

/-- Where tokens lead, they have been read. -/
theorem HasRead.run {stage last : Stage} {ts : List Terminal} {tokens : List Token}
    (h : stage.HasRead ts) (hrun : stage.run tokens = some last) :
    last.HasRead (ts ++ terminals tokens) := by
  induction tokens generalizing stage ts with
  | nil =>
    cases hrun
    simpa using h
  | cons token tokens ih =>
    obtain ⟨next, hstep, hrest⟩ := Option.bind_eq_some_iff.1 hrun
    simpa using ih (h.step hstep) hrest

end Stage

/-- The entries that tokens make in pairs. -/
def entriesOf : List Token → List Entry
  | key :: value :: rest => ⟨key, value⟩ :: entriesOf rest
  | _ => []

/-- The entries of the tokens of a map. -/
def mapEntries (tokens : List Token) : List Entry := entriesOf tokens.tail.dropLast

/-- Entries are read one behind the other. -/
theorem IsEntries.run {tokens : List Token} (h : IsEntries (terminals tokens))
    (outer : Option (List (List Entry))) (read : List Entry) :
    (Stage.entries outer read).run tokens = some (.entries outer (read ++ entriesOf tokens)) := by
  generalize hts : terminals tokens = ts at h
  induction h generalizing tokens read with
  | nil =>
    obtain rfl := List.map_eq_nil_iff.1 hts
    simp [entriesOf]
  | cons hv _ ih =>
    obtain ⟨key, behind, rfl, hkey, hbehind⟩ := List.map_eq_cons_iff.1 hts
    obtain ⟨value, rest, rfl, hvalue, hrest⟩ := List.map_eq_cons_iff.1 hbehind
    have hentries := ih (read ++ [⟨key, value⟩]) hrest
    simpa [Stage.step_entries_keyword hkey, Stage.step_value (hvalue ▸ hv), entriesOf]
      using hentries

/-- The tokens of a map lead from its start to its end. -/
theorem IsMap.run {tokens : List Token} (h : IsMap (terminals tokens)) {stage : Stage}
    {outer : Option (List (List Entry))}
    (hopen : ∀ token : Token, token.terminal = .openMap →
      stage.step token = some (.entries outer [])) :
    stage.run tokens = some (.closeMap outer (mapEntries tokens)) := by
  generalize hts : terminals tokens = ts at h
  cases h with
  | braces hbody =>
    obtain ⟨first, body, close, rfl, hfirst, hentries, hclose⟩ := exists_of_terminals_eq hts
    rw [← hentries] at hbody
    have hinner : mapEntries (first :: (body ++ [close])) = entriesOf body := by
      rw [mapEntries, List.tail_cons, List.dropLast_concat]
    simp [hopen first hfirst, hbody.run outer [], Stage.step_entries_closeMap hclose, hinner]

/-- Tokens of maps can be told apart by the maps. -/
theorem IsMaps.exists_flatten {tokens : List Token} (h : IsMaps (terminals tokens)) :
    ∃ maps : List (List Token), tokens = maps.flatten ∧ ∀ m ∈ maps, IsMap (terminals m) := by
  generalize hts : terminals tokens = ts at h
  induction h generalizing tokens with
  | nil => exact ⟨[], List.map_eq_nil_iff.1 hts, by simp⟩
  | cons hfirst _ ih =>
    obtain ⟨first, rest, rfl, hmap, hrest⟩ := List.map_eq_append_iff.1 hts
    obtain ⟨maps, rfl, hmaps⟩ := ih hrest
    rw [← hmap] at hfirst
    exact ⟨first :: maps, rfl, List.forall_mem_cons.2 ⟨hfirst, hmaps⟩⟩

/-- The tokens of maps lead through a vector. -/
theorem Stage.run_flatten {maps : List (List Token)} (h : ∀ m ∈ maps, IsMap (terminals m))
    (read : List (List Entry)) :
    (Stage.maps read).run maps.flatten = some (.maps (read ++ maps.map mapEntries)) := by
  induction maps generalizing read with
  | nil => simp
  | cons m maps ih =>
    obtain ⟨hm, hmaps⟩ := List.forall_mem_cons.1 h
    have hopen : ∀ token : Token, token.terminal = .openMap →
        (Stage.maps read).step token = some (.entries (some read) []) :=
      fun _ => Stage.step_maps_openMap
    simpa [hm.run hopen, Stage.closeMap] using ih hmaps (read ++ [mapEntries m])

/-- The tokens of maps are those that lead from one place between the maps of a vector to
another. -/
theorem isMaps_iff {tokens : List Token} (read : List (List Entry)) :
    IsMaps (terminals tokens) ↔ ∃ maps, (Stage.maps read).run tokens = some (.maps maps) := by
  constructor
  · intro h
    obtain ⟨maps, rfl, hmaps⟩ := h.exists_flatten
    exact ⟨_, Stage.run_flatten hmaps read⟩
  · rintro ⟨maps, hrun⟩
    have hstart : (Stage.maps read).HasRead [.openVector] := .maps .nil
    have hread := hstart.run hrun
    cases hread with
    | maps h => exact h

/-- What follows maps is maps if all of it is. -/
theorem IsMaps.of_append_left {a b : List Token} (ha : IsMaps (terminals a))
    (h : IsMaps (terminals (a ++ b))) : IsMaps (terminals b) := by
  obtain ⟨front, hfront⟩ := (isMaps_iff []).1 ha
  obtain ⟨maps, hmaps⟩ := (isMaps_iff []).1 h
  rw [Stage.run_append, hfront] at hmaps
  exact (isMaps_iff front).2 ⟨maps, hmaps⟩

/-- What stands in front of maps is maps if all of it is. -/
theorem IsMaps.of_append_right {a b : List Token} (hb : IsMaps (terminals b))
    (h : IsMaps (terminals (a ++ b))) : IsMaps (terminals a) := by
  obtain ⟨maps, hmaps⟩ := (isMaps_iff []).1 h
  rw [Stage.run_append] at hmaps
  obtain ⟨stage, hstage, hbehind⟩ := Option.bind_eq_some_iff.1 hmaps
  cases b with
  | nil =>
    cases hbehind
    exact (isMaps_iff []).2 ⟨maps, hstage⟩
  | cons token b =>
    -- Only between the maps of a vector can another map start.
    have hopen : token.terminal = .openMap := hb.head?_eq rfl
    obtain ⟨next, hstep, -⟩ := Option.bind_eq_some_iff.1 hbehind
    have hfits := (Stage.isSome_step.1 (Option.isSome_of_eq_some hstep)).1
    rw [hopen] at hfits
    have hopened : (Stage.maps []).HasRead [.openVector] := .maps .nil
    have hread := hopened.run hstage
    generalize hts : [Terminal.openVector] ++ terminals a = ts at hread
    cases hread with
    | maps hbody =>
      cases hts
      exact hbody
    | start => cases hts
    | entries | value | map | vector => simp [Stage.accepts] at hfits

/-- The tokens of a map are those that lead to one. -/
theorem isMap_iff {tokens : List Token} :
    IsMap (terminals tokens) ↔ ∃ es, Stage.start.run tokens = some (.done (.map es)) := by
  constructor
  · intro h
    exact ⟨mapEntries tokens, h.run fun _ => Stage.step_start_openMap⟩
  · rintro ⟨es, hrun⟩
    have hread := Stage.HasRead.start.run hrun
    cases hread with
    | map h => exact h

/-- The tokens of a vector are those of its maps between two brackets. -/
theorem IsVector.exists_flatten {tokens : List Token} (h : IsVector (terminals tokens)) :
    ∃ (opening closing : Token) (maps : List (List Token)),
      tokens = opening :: (maps.flatten ++ [closing]) ∧ opening.terminal = .openVector ∧
      (∀ m ∈ maps, IsMap (terminals m)) ∧ closing.terminal = .closeVector := by
  generalize hts : terminals tokens = ts at h
  cases h with
  | brackets hbody =>
    obtain ⟨opening, inner, closing, rfl, hopen, hinner, hclose⟩ := exists_of_terminals_eq hts
    rw [← hinner] at hbody
    obtain ⟨maps, rfl, hmaps⟩ := hbody.exists_flatten
    exact ⟨opening, closing, maps, rfl, hopen, hmaps, hclose⟩

/-- The tokens of a vector lead from its start to its end. -/
theorem Stage.run_vector {opening closing : Token} {maps : List (List Token)}
    (hopen : opening.terminal = .openVector) (hmaps : ∀ m ∈ maps, IsMap (terminals m))
    (hclose : closing.terminal = .closeVector) :
    start.run (opening :: (maps.flatten ++ [closing])) =
      some (.done (.vector (maps.map mapEntries))) := by
  simp [step_start_openVector hopen, run_flatten hmaps, step_maps_closeVector hclose]

/-- A vector is what the stages read as one. -/
theorem isVector_iff {tokens : List Token} :
    IsVector (terminals tokens) ↔ ∃ maps, Stage.start.run tokens = some (.done (.vector maps)) := by
  constructor
  · intro h
    obtain ⟨opening, closing, maps, rfl, hopen, hmaps, hclose⟩ := h.exists_flatten
    exact ⟨_, Stage.run_vector hopen hmaps hclose⟩
  · rintro ⟨maps, hrun⟩
    have hread := Stage.HasRead.start.run hrun
    cases hread with
    | vector h => exact h

/-- The tokens of the grammar are those that lead to a form. -/
theorem isForm_iff {tokens : List Token} :
    IsForm (terminals tokens) ↔ ∃ form, Stage.start.run tokens = some (.done form) := by
  constructor
  · rintro (h | h)
    · obtain ⟨es, hrun⟩ := isMap_iff.1 h
      exact ⟨.map es, hrun⟩
    · obtain ⟨maps, hrun⟩ := isVector_iff.1 h
      exact ⟨.vector maps, hrun⟩
  · rintro ⟨form, hrun⟩
    cases form with
    | map es => exact .map (isMap_iff.2 ⟨es, hrun⟩)
    | vector maps => exact .vector (isVector_iff.2 ⟨maps, hrun⟩)

namespace Stage

/-- Tokens that complete a form. -/
def completion : Stage → List Terminal
  | start => [.openMap, .closeMap]
  | entries outer _ => .closeMap :: behindMap outer
  | value outer _ _ => .keyword :: .closeMap :: behindMap outer
  | maps _ => [.closeVector]
  | done _ => []
where
  /-- Tokens that complete a form behind a map. -/
  behindMap : Option (List (List Entry)) → List Terminal
    | none => []
    | some _ => [.closeVector]

theorem ne_endOfText_of_mem_completion {stage : Stage} :
    ∀ t ∈ stage.completion, t ≠ .endOfText := by
  cases stage with
  | start => decide
  | entries outer read => cases outer <;> simp [completion, completion.behindMap]
  | value outer read key => cases outer <;> simp [completion, completion.behindMap]
  | maps read => simp [completion]
  | done form => simp [completion]

/-- Every stage gets to a form by the tokens that complete it. -/
theorem run_completion {stage : Stage} {tokens : List Token}
    (h : terminals tokens = stage.completion) : ∃ form, stage.run tokens = some (.done form) := by
  have hbehind : ∀ {outer : Option (List (List Entry))} {read : List Entry} {tokens : List Token},
      terminals tokens = .closeMap :: completion.behindMap outer →
      ∃ form, (entries outer read).run tokens = some (.done form) := by
    intro outer read tokens h
    obtain ⟨close, rest, rfl, hclose, hrest⟩ := List.map_eq_cons_iff.1 h
    cases outer with
    | none =>
      obtain rfl := List.map_eq_nil_iff.1 hrest
      exact ⟨.map read, by simp [step_entries_closeMap hclose, closeMap]⟩
    | some earlier =>
      obtain ⟨bracket, rfl, hbracket⟩ := List.map_eq_singleton_iff.1 hrest
      exact ⟨.vector (earlier ++ [read]), by
        simp [step_entries_closeMap hclose, closeMap, step_maps_closeVector hbracket]⟩
  cases stage with
  | start => exact isForm_iff.1 (h ▸ .map (.braces .nil))
  | entries outer read => exact hbehind h
  | value outer read key =>
    obtain ⟨v, rest, rfl, hv, hrest⟩ := List.map_eq_cons_iff.1 h
    obtain ⟨form, hform⟩ := hbehind hrest
    have hvalue : IsValue v.terminal := hv ▸ .keyword
    exact ⟨form, by rw [run_cons, step_value hvalue]; exact hform⟩
  | maps read =>
    obtain ⟨bracket, rfl, hbracket⟩ := List.map_eq_singleton_iff.1 h
    exact ⟨.vector read, by simp [step_maps_closeVector hbracket]⟩
  | done form =>
    obtain rfl := List.map_eq_nil_iff.1 h
    exact ⟨form, rfl⟩

/-- The text can end exactly where a form has been read. -/
theorem endOfText_mem_accepts {stage : Stage} :
    .endOfText ∈ stage.accepts ↔ ∃ form, stage = done form := by
  cases stage <;> simp [accepts]

end Stage

/-- What leads to a stage is the start of a text that follows the grammar. -/
theorem Tokenizes.exists_isForm {text : List Char} {read : List Token} {stage : Stage}
    (h : Tokenizes text read) (hrun : Stage.start.run read = some stage) :
    ∃ tail more, Tokenizes (text ++ tail) (read ++ more) ∧ IsForm (terminals (read ++ more)) := by
  obtain ⟨tail, more, hmore, hterminals⟩ := h.exists_append stage.ne_endOfText_of_mem_completion
  obtain ⟨form, hform⟩ := Stage.run_completion hterminals
  refine ⟨tail, more, hmore, isForm_iff.2 ⟨form, ?_⟩⟩
  rw [Stage.run_append, hrun]
  exact hform

/-- What comes next in the tokens of the grammar is accepted at the stage in front of it. -/
theorem upcoming_mem_accepts {read rest : List Token} {stage : Stage}
    (hrun : Stage.start.run read = some stage) (h : IsForm (terminals (read ++ rest))) :
    upcoming rest ∈ stage.accepts := by
  obtain ⟨form, hform⟩ := isForm_iff.1 h
  rw [Stage.run_append, hrun, Option.bind_some] at hform
  cases rest with
  | nil => exact Stage.endOfText_mem_accepts.2 ⟨form, Option.some.inj hform⟩
  | cons token rest =>
    obtain ⟨next, hstep, -⟩ := Option.bind_eq_some_iff.1 hform
    exact (Stage.isSome_step.1 (Option.isSome_of_eq_some hstep)).1

/-- What can follow tokens is what is accepted at the stage that they lead to. -/
theorem canFollow_iff {text : List Char} {read : List Token} {stage : Stage}
    (h : Tokenizes text read) (hrun : Stage.start.run read = some stage) {t : Terminal} :
    CanFollow read t ↔ t ∈ stage.accepts := by
  constructor
  · rintro ⟨_, rest, -, hform, rfl⟩
    exact upcoming_mem_accepts hrun hform
  · intro ht
    by_cases hend : t = .endOfText
    · obtain ⟨form, rfl⟩ := Stage.endOfText_mem_accepts.1 (hend ▸ ht)
      refine ⟨text, [], ?_, ?_, hend.symm⟩
      · rwa [List.append_nil]
      · rw [List.append_nil]
        exact isForm_iff.2 ⟨form, hrun⟩
    · -- The token is made to follow first; then the stage behind it is completed.
      have hone : ∀ u ∈ [t], u ≠ .endOfText := List.forall_mem_singleton.2 hend
      obtain ⟨tail, more, hmore, hterminals⟩ := h.exists_append hone
      obtain ⟨token, rfl, htoken⟩ := List.map_eq_singleton_iff.1 hterminals
      obtain ⟨next, hstep⟩ := Option.isSome_iff_exists.1
        (Stage.isSome_step.2 ⟨htoken ▸ ht, htoken ▸ hend⟩)
      have hnext : Stage.start.run (read ++ [token]) = some next := by
        simp [hrun, hstep]
      obtain ⟨tail', more', hmore', hform⟩ := hmore.exists_isForm hnext
      rw [List.append_assoc read] at hmore' hform
      exact ⟨_, _, hmore', hform, htoken⟩

end ElementQuery.Notation
