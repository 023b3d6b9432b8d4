import ElementQuery.Proofs.Report.Breaks

/-!
# Free text that is cleaned

Line breaks are replaced from left to right, and a carriage return in front of a line feed takes it
along. A text can therefore be replaced part by part, as long as no part ends between the two. What
is cut to a length with a mark behind it is longer than that length by the mark at most, so that it
is cut at the same place with the same mark again: cleaning a second time changes nothing.

## Main definitions

* `SplitsBreak` : a carriage return and its line feed in two texts.

## Main statements

* `replaceBreaks_append_iff` : when two texts are replaced one by one.
* `eliminateBreaks_append` : the same for a replacement without backslashes.
* `truncate_truncate` : a text that was cut stays as it is.
* `clean_bounded_idempotent` : what cleaning makes of a text.
-/

namespace ElementQuery.Report

open ElementQuery.Regex

/-- A carriage return ends a text and a line feed begins the next one, so that together they hold
one break. -/
def SplitsBreak (as bs : List Char) : Prop := ∃ as' bs', as = as' ++ ['\r'] ∧ bs = '\n' :: bs'

theorem SplitsBreak.cons {as bs : List Char} (h : SplitsBreak as bs) (c : Char) :
    SplitsBreak (c :: as) bs := by
  obtain ⟨as', bs', rfl, rfl⟩ := h
  exact ⟨c :: as', bs', rfl, rfl⟩

theorem not_splitsBreak_return (as bs : List Char) : ¬SplitsBreak as ('\r' :: bs) := by
  rintro ⟨_, _, -, ⟨⟩⟩

section Replaced

variable {expand : List Char → List Char}

/-- A character that does not begin a pair is replaced or kept by itself. -/
theorem replaceBreaks_cons {c : Char} {rest : List Char}
    (h : ∀ further, c = '\r' → rest = '\n' :: further → False) :
    replaceBreaks expand (c :: rest) =
      (if c = '\r' ∨ c = '\n' then expand [c] else [c]) ++ replaceBreaks expand rest := by
  rw [replaceBreaks]
  · split <;> rfl
  · exact h

theorem replaceBreaks_lineFeed (bs : List Char) :
    replaceBreaks expand ('\n' :: bs) = expand ['\n'] ++ replaceBreaks expand bs := rfl

/-- Texts that split no break have their breaks replaced one by one. -/
theorem replaceBreaks_append {as bs : List Char} (h : ¬SplitsBreak as bs) :
    replaceBreaks expand (as ++ bs) = replaceBreaks expand as ++ replaceBreaks expand bs := by
  induction as using replaceBreaks.induct with
  | case1 => rfl
  | case2 rest ih =>
    have hrest : ¬SplitsBreak rest bs := fun hsplits => h ((hsplits.cons '\n').cons '\r')
    rw [List.cons_append, List.cons_append, replaceBreaks, replaceBreaks, ih hrest,
      List.append_assoc]
  | case3 c rest hcrlf hc ih | case4 c rest hcrlf hc ih =>
    have hrest : ¬SplitsBreak rest bs := fun hsplits => h (hsplits.cons c)
    -- Only if nothing is left of the first text, the second one can complete a pair.
    have hcrlf' : ∀ further, c = '\r' → rest ++ bs = '\n' :: further → False := by
      rintro further rfl hnext
      cases rest with
      | nil => exact h ⟨[], further, rfl, hnext⟩
      | cons d rest => exact hcrlf rest rfl (by rw [(List.cons.inj hnext).1])
    rw [List.cons_append, replaceBreaks_cons hcrlf', replaceBreaks_cons hcrlf, ih hrest,
      List.append_assoc]

/-- A carriage return and a line feed are one break wherever they are. -/
theorem replaceBreaks_append_pair (as bs : List Char) :
    replaceBreaks expand (as ++ '\r' :: '\n' :: bs) =
      replaceBreaks expand as ++ expand ['\r', '\n'] ++ replaceBreaks expand bs := by
  rw [replaceBreaks_append (not_splitsBreak_return as _), replaceBreaks, List.append_assoc]

theorem replaceBreaks_concat_return (as : List Char) :
    replaceBreaks expand (as ++ ['\r']) = replaceBreaks expand as ++ expand ['\r'] := by
  have hreturn : replaceBreaks expand ['\r'] = expand ['\r'] ++ [] := rfl
  rw [replaceBreaks_append (not_splitsBreak_return as _), hreturn, List.append_nil]

end Replaced

/-- The halves of a break are two breaks if they are replaced one by one, which shows unless the
replacement is empty. -/
theorem replaceBreaks_append_iff (r as bs : List Char) :
    replaceBreaks (fun _ => r) (as ++ bs) =
        replaceBreaks (fun _ => r) as ++ replaceBreaks (fun _ => r) bs ↔
      ¬SplitsBreak as bs ∨ r = [] := by
  by_cases hsplits : SplitsBreak as bs
  · rw [or_iff_right (not_not_intro hsplits)]
    obtain ⟨as', bs', rfl, rfl⟩ := hsplits
    rw [List.append_assoc, List.singleton_append, replaceBreaks_append_pair,
      replaceBreaks_concat_return, replaceBreaks_lineFeed]
    constructor
    · intro h
      have hlength := congrArg List.length h
      simp only [List.length_append] at hlength
      exact List.eq_nil_of_length_eq_zero (by omega)
    · rintro rfl
      simp
  · exact iff_of_true (replaceBreaks_append hsplits) (.inl hsplits)

section Verbatim

variable {replacement : String} (h : Template.IsVerbatim replacement.toList)

include h

/-- A replacement that stands for itself is put in the place of each break. -/
theorem eliminateBreaks_eq_replaceBreaks (text : String) : eliminateBreaks replacement text =
    .ok (String.ofList (replaceBreaks (fun _ => replacement.toList) text.toList)) := by
  rw [replaceBreaks_eq_intercalate]
  exact eliminateBreaks_of_isVerbatim h text

/-- With a line as the replacement every text becomes a line. -/
theorem exists_eliminateBreaks_isLine (hline : IsLine replacement.toList) (text : String) :
    ∃ line, eliminateBreaks replacement text = .ok line ∧ IsLine line.toList := by
  refine ⟨_, eliminateBreaks_eq_replaceBreaks h text, ?_⟩
  rw [String.toList_ofList]
  exact isLine_replaceBreaks (fun _ => hline) _

/-- A line is left as it is. -/
theorem eliminateBreaks_eq_self {line : String} (hline : IsLine line.toList) :
    eliminateBreaks replacement line = .ok line := by
  rw [eliminateBreaks_eq_replaceBreaks h, replaceBreaks_eq_self hline, String.ofList_toList]

end Verbatim

/-- Two texts are replaced one by one exactly if they split no break or the replacement is empty.
A break that they split is replaced once, between what comes before and behind it. -/
theorem eliminateBreaks_append {replacement : String} (h : '\\' ∉ replacement.toList)
    (a b : String) :
    (∃ s t, eliminateBreaks replacement a = .ok s ∧ eliminateBreaks replacement b = .ok t ∧
      (eliminateBreaks replacement (a ++ b) = .ok (s ++ t) ↔
        ¬SplitsBreak a.toList b.toList ∨ replacement = "")) ∧
    ∀ a' b', a = a' ++ "\r" → b = "\n" ++ b' →
      ∃ s t, eliminateBreaks replacement a' = .ok s ∧ eliminateBreaks replacement b' = .ok t ∧
        eliminateBreaks replacement (a ++ b) = .ok (s ++ replacement ++ t) := by
  have hreplaced := eliminateBreaks_eq_replaceBreaks (Template.isVerbatim_of_not_mem h)
  refine ⟨⟨_, _, hreplaced a, hreplaced b, ?_⟩, ?_⟩
  · rw [hreplaced, Except.ok.injEq, ← String.ofList_append, String.ofList_inj,
      String.toList_append, replaceBreaks_append_iff, String.toList_eq_nil_iff]
  · rintro a' b' rfl rfl
    refine ⟨_, _, hreplaced a', hreplaced b', ?_⟩
    have htext : (a' ++ "\r" ++ ("\n" ++ b')).toList = a'.toList ++ '\r' :: '\n' :: b'.toList := by
      simp
    rw [hreplaced, htext, replaceBreaks_append_pair, String.ofList_append, String.ofList_append,
      String.ofList_toList]

/-- Carriage returns around a break that two texts split, and a line feed in front of a carriage
return. -/
theorem eliminateBreaks_append_returns :
    '\\' ∉ "|".toList ∧
    (∃ s t, eliminateBreaks "|" "x\r\r" = .ok s ∧ eliminateBreaks "|" "\n\ry" = .ok t ∧
      eliminateBreaks "|" ("x\r\r" ++ "\n\ry") ≠ .ok (s ++ t)) ∧
    (∃ s t, eliminateBreaks "|" "x\r" = .ok s ∧ eliminateBreaks "|" "\ry" = .ok t ∧
      eliminateBreaks "|" ("x\r\r" ++ "\n\ry") = .ok (s ++ "|" ++ t)) ∧
    ∃ s t, eliminateBreaks "|" "x\n" = .ok s ∧ eliminateBreaks "|" "\ry" = .ok t ∧
      eliminateBreaks "|" ("x\n" ++ "\ry") = .ok (s ++ t) := by
  have h : '\\' ∉ "|".toList := by decide
  obtain ⟨⟨s, t, hs, ht, hsplit⟩, hpair⟩ := eliminateBreaks_append h "x\r\r" "\n\ry"
  obtain ⟨⟨s', t', hs', ht', happend⟩, -⟩ := eliminateBreaks_append h "x\n" "\ry"
  have hsplits : SplitsBreak "x\r\r".toList "\n\ry".toList :=
    ⟨['x', '\r'], ['\r', 'y'], by decide⟩
  refine ⟨h, ⟨s, t, hs, ht, fun hequal => ?_⟩, hpair "x\r" "\ry" (by decide) (by decide),
    s', t', hs', ht', happend.2 (.inl (not_splitsBreak_return _ _))⟩
  exact (hsplit.1 hequal).elim (fun hno => hno hsplits) (by decide)

section Cut

variable {limit : Nat} (ellipsis : String) {s : String}

theorem truncate_of_le (h : s.length ≤ limit) : truncate limit ellipsis s = s := by
  have hall : s.toList.take limit = s.toList :=
    List.take_of_length_le (by rwa [String.length_toList])
  rw [truncate_eq, hall, if_neg (Nat.not_lt.2 h), String.ofList_toList, String.append_empty]

theorem truncate_of_lt (h : limit < s.length) :
    truncate limit ellipsis s = String.ofList (s.toList.take limit) ++ ellipsis := by
  rw [truncate_eq, if_pos h]

end Cut

/-- A text is left as it is up to the limit. -/
theorem take_isPrefix_truncate (limit : Nat) (ellipsis s : String) :
    s.toList.take limit <+: (truncate limit ellipsis s).toList := by
  rw [truncate_eq, String.toList_append, String.toList_ofList]
  exact List.prefix_append _ _

/-- The mark behind a text that was cut is cut off and added again. An empty mark leaves nothing to
cut. -/
theorem truncate_truncate (limit : Nat) (ellipsis s : String) :
    truncate limit ellipsis (truncate limit ellipsis s) = truncate limit ellipsis s := by
  rcases Nat.lt_or_ge limit s.length with hlong | hshort
  · have hkept : (s.toList.take limit).length = limit :=
      List.length_take_of_le (by rw [String.length_toList]; exact Nat.le_of_lt hlong)
    have hlength : (String.ofList (s.toList.take limit) ++ ellipsis).length =
        limit + ellipsis.length := by
      rw [String.length_append, String.length_ofList, hkept]
    rw [truncate_of_lt ellipsis hlong]
    by_cases hmark : ellipsis.length = 0
    · exact truncate_of_le ellipsis (by omega)
    · have hcut : limit < (String.ofList (s.toList.take limit) ++ ellipsis).length := by omega
      rw [truncate_of_lt ellipsis hcut, String.toList_append, String.toList_ofList,
        List.take_left' hkept]
  · rw [truncate_of_le ellipsis hshort, truncate_of_le ellipsis hshort]

/-- A text is cleaned by replacing its breaks first and cutting it then. -/
theorem clean_eq_ok {settings : FormatterSettings} {text line : String}
    (h : eliminateBreaks settings.lineBreakReplacement text = .ok line) :
    clean settings (.text text) =
      .ok (truncate settings.truncateLength settings.ellipsis line) := by
  rw [clean_text, h]
  rfl

/-- With settings that bring in no breaks, a cleaned text is one line of bounded length that begins
like the text without its breaks, and cleaning it again changes nothing. -/
theorem clean_bounded_idempotent (settings : FormatterSettings)
    (hlimit : 1 ≤ settings.truncateLength)
    (hreplacement : IsLine settings.lineBreakReplacement.toList)
    (hbackslash : '\\' ∉ settings.lineBreakReplacement.toList)
    (hellipsis : IsLine settings.ellipsis.toList) (text : String) :
    ∃ line shown, eliminateBreaks settings.lineBreakReplacement text = .ok line ∧
      truncate settings.truncateLength settings.ellipsis line = shown ∧
      clean settings (.text text) = .ok shown ∧ IsLine shown.toList ∧
      shown.length ≤ settings.truncateLength + settings.ellipsis.length ∧
      line.toList.take (min settings.truncateLength.toNat line.length) <+: shown.toList ∧
      clean settings (.text shown) = .ok shown := by
  have hverbatim := Template.isVerbatim_of_not_mem hbackslash
  obtain ⟨line, hline, hisLine⟩ := exists_eliminateBreaks_isLine hverbatim hreplacement text
  obtain ⟨limit, hnat⟩ : ∃ limit : Nat, settings.truncateLength = limit :=
    Int.eq_ofNat_of_zero_le (by omega)
  have hcleaned := clean_eq_ok hline
  rw [hnat] at hcleaned ⊢
  have hshown : IsLine (truncate limit settings.ellipsis line).toList :=
    (isLine_truncate_iff hellipsis line).2 fun c hc => hisLine c (List.mem_of_mem_take hc)
  refine ⟨line, _, hline, rfl, hcleaned, hshown, ?_, ?_, ?_⟩
  · have hcut := (length_truncate limit settings.ellipsis line).2
    have hkept : (line.toList.take limit).length ≤ limit := List.length_take_le _ _
    omega
  · rw [Int.toNat_natCast, ← String.length_toList, ← List.take_eq_take_min]
    exact take_isPrefix_truncate limit settings.ellipsis line
  · have hagain := clean_eq_ok (eliminateBreaks_eq_self hverbatim hshown)
    rwa [hnat, truncate_truncate] at hagain

/-- A text that is cut within a replacement. -/
theorem clean_bounded_idempotent_cut_replacement :
    let settings : FormatterSettings := ⟨3, "..", " / "⟩
    clean settings (.text "a\r\nb") = .ok "a /.." ∧
    clean settings (.text "a /..") = .ok "a /.." := by
  intro settings
  obtain ⟨line, shown, -, -, hclean, -, -, -, hagain⟩ := clean_bounded_idempotent settings
    (by decide) (by decide) (by decide) (by decide) "a\r\nb"
  have hshown : clean settings (.text "a\r\nb") = .ok "a /.." := by decide
  rw [hshown, Except.ok.injEq] at hclean
  rw [← hclean] at hagain
  exact ⟨hshown, hagain⟩

end ElementQuery.Report
