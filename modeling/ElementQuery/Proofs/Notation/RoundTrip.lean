import ElementQuery.Proofs.Notation.Spelling
import ElementQuery.Proofs.Query.Writing

/-!
# Maps that are written and read back

However keys with their values are spelled as a map, reading the map makes the query of the keys
with their values, or complains as making that query does.

## Main statements

* `SpellsEntries.readFrom` : spelled entries lead the reading of a map on to its end.
* `parse_of_spellsMap` : a spelled map is read as the query of its keys with their values.
-/

namespace ElementQuery.Notation

open ElementQuery.Text ElementQuery.Number

/-- Nothing in front of spelled entries goes on into them. -/
theorem SpellsEntries.isBoundary {pairs : List (Value × Value)} {body rest : List Char}
    (h : SpellsEntries pairs body) (hrest : IsBoundary rest) : IsBoundary (body ++ rest) := by
  cases h with
  | nil => exact hrest
  | cons hgap =>
    rw [List.append_assoc]
    exact IsBoundary.append hgap (isBoundary_cons.2 (by decide))

/-- A spelled value that is no number starts with a colon or a quote, which ends the key in front
of it. -/
theorem SpellsValue.isBoundary {v : Value} {form : List Char} (h : SpellsValue v form)
    (hv : ∀ n, v ≠ .int n) (rest : List Char) : IsBoundary (form ++ rest) := by
  cases h with
  | keyword => exact isBoundary_cons.2 (by decide)
  | string => exact isBoundary_cons.2 (by decide)
  | integer => exact absurd rfl (hv _)

/-- Spelled entries lead the reading of a map on, and the meanings of what is read are the keys
with their values. -/
theorem SpellsEntries.readFrom [Regex.Engine] {pairs : List (Value × Value)} {body rest : List Char}
    (h : SpellsEntries pairs body) (hrest : IsBoundary rest)
    (outer : Option (List (List Entry))) :
    ∀ (read : List Entry) (last place : Place), ∃ es last' place',
      Form.readFrom (.entries outer read) last place (body ++ rest) =
        Form.readFrom (.entries outer (read ++ es)) last' place' rest ∧
      es.mapM Entry.meaning = .ok pairs := by
  induction h with
  | nil =>
    intro read last place
    exact ⟨[], last, place, by simp, rfl⟩
  | @cons name v pairs gap gap' form body hgap hne hname hgap' hv hapart hentries ih =>
    intro read last place
    obtain ⟨t, ht, hread, hmeaning⟩ := hv.exists_token
    -- The key is read up to the separators behind it or, without any, up to the value.
    have hkey : IsBoundary (gap' ++ (form ++ (body ++ rest))) := by
      cases gap' with
      | nil => exact hv.isBoundary (hapart rfl) _
      | cons c gap' =>
        rw [List.cons_append, isBoundary_cons]
        exact isKeywordChar_of_isSeparator (hgap' c List.mem_cons_self)
    let key : Token := ⟨.keyword, ':' :: name.toList, place.after gap⟩
    let behind := (place.after gap).after (':' :: name.toList)
    let value : Token := ⟨t, form, behind.after gap'⟩
    have hstep : Stage.step (.value outer read key) value =
        some (.entries outer (read ++ [⟨key, value⟩])) := by
      simp only [List.mem_cons, List.not_mem_nil, or_false] at ht
      rcases ht with rfl | rfl | rfl | rfl <;> rfl
    obtain ⟨es, last', place', hes, hpairs⟩ :=
      ih (read ++ [⟨key, value⟩]) (behind.after gap') ((behind.after gap').after form)
    refine ⟨⟨key, value⟩ :: es, last', place', ?_, ?_⟩
    · calc Form.readFrom (.entries outer read) last place
            (gap ++ (':' :: name.toList ++ (gap' ++ (form ++ body))) ++ rest)
          = Form.readFrom (.entries outer read) last place
              (gap ++ ((':' :: name.toList) ++ (gap' ++ (form ++ (body ++ rest))))) := by
            simp only [List.append_assoc]
        _ = Form.readFrom (.value outer read key) (place.after gap) behind
              (gap' ++ (form ++ (body ++ rest))) :=
            Form.readFrom_token (t := .keyword) hgap (by simp [Stage.scans, Stage.accepts])
              (readKeyword?_append (toList_ne_nil hne) hname hkey) rfl
        _ = Form.readFrom (.entries outer (read ++ [⟨key, value⟩])) (behind.after gap')
              ((behind.after gap').after form) (body ++ rest) :=
            Form.readFrom_token hgap' ht (hread _ (hentries.isBoundary hrest)) hstep
        _ = Form.readFrom (.entries outer (read ++ ⟨key, value⟩ :: es)) last' place' rest := by
            rw [hes, List.append_assoc, List.singleton_append]
    · have hentry : Entry.meaning ⟨key, value⟩ = .ok (.text name, v) := by
        have hkeyMeaning : key.meaning = .ok (.text name) := by
          simp [key, Token.meaning, pure, Except.pure]
        rw [Entry.meaning, hkeyMeaning, hmeaning]
        rfl
      exact mapM_eq_ok_iff.2 (.cons hentry (mapM_eq_ok_iff.1 hpairs))

/-- A spelled map is read as entries that mean its pairs. -/
theorem SpellsMap.read [Regex.Engine] {pairs : List (Value × Value)} {text : String}
    (h : SpellsMap pairs text) :
    ∃ es, Form.read text = .ok (.map es) ∧ es.mapM Entry.meaning = .ok pairs := by
  obtain ⟨lead, body, gap, trail, hlead, hbody, hgap, htrail, htext⟩ := h
  have hboundary : IsBoundary (gap ++ (['}'] ++ trail)) :=
    IsBoundary.append hgap (isBoundary_cons.2 (by decide))
  have hopen : Terminal.openMap.read? (['{'] ++ (body ++ (gap ++ (['}'] ++ trail)))) =
      some (['{'], body ++ (gap ++ (['}'] ++ trail))) := readChar?_append '{' _
  have hclose : Terminal.closeMap.read? (['}'] ++ trail) = some (['}'], trail) :=
    readChar?_append '}' _
  obtain ⟨es, last, place, hes, hpairs⟩ := hbody.readFrom hboundary none []
    (Place.start.after lead) ((Place.start.after lead).after ['{'])
  refine ⟨es, ?_, hpairs⟩
  rw [Form.read, htext, Form.readFrom_token hlead (by decide) hopen rfl, hes,
    Form.readFrom_token hgap (by simp [Stage.scans, Stage.accepts]) hclose rfl]
  exact Form.readFrom_done htrail

/-- What is spelled as a value can be written. -/
theorem SpellsValue.isWritable {v : Value} {form : List Char} (h : SpellsValue v form) :
    v.IsWritable := by
  cases h with
  | keyword | string => exact Value.isWritable_text _
  | @integer n sign zeros _ hlen =>
    refine Value.isWritable_int ?_
    rw [Printable, Nat.pow_eq, ← Nat.length_toDigits_le_iff (by decide) (by decide)]
    omega

/-- What can be spelled can be written. -/
theorem SpellsEntries.isWritable {pairs : List (Value × Value)} {body : List Char}
    (h : SpellsEntries pairs body) :
    ∀ pair ∈ pairs, (entryName? pair).isSome = true ∧ pair.2.IsWritable := by
  induction h with
  | nil => exact List.forall_mem_nil _
  | cons _ _ _ _ hv _ _ ih => exact List.forall_mem_cons.2 ⟨⟨rfl, hv.isWritable⟩, ih⟩

/-- What can be spelled as a map can be written. -/
theorem SpellsMap.isWritable {pairs : List (Value × Value)} {text : String}
    (h : SpellsMap pairs text) :
    ∀ pair ∈ pairs, (entryName? pair).isSome = true ∧ pair.2.IsWritable := by
  obtain ⟨_, _, _, _, -, hbody, -⟩ := h
  exact hbody.isWritable

/-- However keys with their values are spelled as a map, reading it makes their query, or fails
with the complaint about making it. -/
theorem parse_of_spellsMap [Regex.Engine] {pairs : List (Value × Value)} {text : String}
    (h : SpellsMap pairs text) :
    match Query.ofPairs pairs with
    | .ok q => parse text = .ok (.query q)
    | .error fault => ∃ cause, fault = .invalidValue cause ∧
        parse text = .error (.invalidQuery cause) ∧
        (Error.invalidQuery cause).message = "Invalid query: " ++ cause.message := by
  obtain ⟨es, hread, hpairs⟩ := h.read
  have hparse : parse text = Parsed.query <$> (Query.ofPairs pairs).mapError .ofFault := by
    rw [parse, hread]
    change Parsed.query <$> evaluateMap es = _
    rw [evaluateMap, hpairs]
    rfl
  rw [hparse]
  cases hquery : Query.ofPairs pairs with
  | ok q => rfl
  | error fault =>
    obtain ⟨cause, rfl⟩ := Query.exists_invalid_of_ofPairs h.isWritable hquery
    exact ⟨cause, rfl, rfl, rfl⟩

/-- A code for a quote, a raw line feed, a sign and a zero in front of a number, and a key right
behind a string. -/
theorem parse_of_spellsMap_escapes :
    SpellsMap [(.text "id", .text "a\"\n"), (.text "index", .int 2)]
        "\x7b:id\"a\\u0022\n\":index +02,\x7d" ∧
      parse "\x7b:id\"a\\u0022\n\":index +02,\x7d" =
        .ok (.query ⟨[⟨"id", .named, .literal "a\"\n"⟩, ⟨"index", .index, .index 2⟩]⟩) := by
  have hquote : SpellsChar '"' ['\\', 'u', '0', '0', '2', '2'] :=
    .code rfl (List.all_eq_true.1 (by decide)) (by decide)
  have htext : SpellsText "a\"\n".toList
      (['a'] ++ (['\\', 'u', '0', '0', '2', '2'] ++ (['\n'] ++ []))) :=
    .cons (.raw (by decide) (by decide)) (.cons hquote
      (.cons (.raw (by decide) (by decide)) .nil))
  have hnumber : SpellsValue (.int 2) (['+'] ++ (List.replicate 1 '0' ++ Nat.toDigits 10 2)) :=
    .integer (.inl ⟨by decide, .inr rfl⟩) (by decide)
  have hindex : SpellsEntries [(.text "index", .int 2)]
      ([] ++ (':' :: "index".toList ++ ([' '] ++ (_ ++ [])))) :=
    .cons (by decide) (by decide) (by decide) (by decide) hnumber (by simp) .nil
  have hentries : SpellsEntries [(.text "id", .text "a\"\n"), (.text "index", .int 2)]
      ([] ++ (':' :: "id".toList ++ ([] ++ (_ ++ _)))) :=
    .cons (by decide) (by decide) (by decide) (by decide) (.string htext) (by simp) hindex
  have h : SpellsMap [(.text "id", .text "a\"\n"), (.text "index", .int 2)]
      "\x7b:id\"a\\u0022\n\":index +02,\x7d" :=
    ⟨[], _, [','], [], by decide, hentries, by decide, by decide, by decide⟩
  exact ⟨h, parse_of_spellsMap h⟩

end ElementQuery.Notation
