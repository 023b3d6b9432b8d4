import ElementQuery.Proofs.Outcome
import ElementQuery.Regex.Template

/-!
# Templates that stand for themselves

A template is read as the text that it is exactly if each backslash in it has a character behind it
that is no letter, no digit and no backslash. Any other sequence that is read at all becomes a
single piece, so the template is shorter than its text.

## Main definitions

* `Template.IsVerbatim` : the texts that stand for themselves.
* `Forward` : the readers that never go back, with what is known of their results.

## Main statements

* `Template.parse_of_isVerbatim` : a text that stands for itself is read as it is.
* `Template.isVerbatim_of_parse` : any other one becomes shorter, if it is read at all.
-/

namespace ElementQuery.Regex

open ElementQuery.Text

variable {α β : Type}

/-- A character without a meaning of its own behind a backslash. -/
def isInert (c : Char) : Bool := !isAsciiLetter c && !isAsciiDigit c && c != '\\'

/-- The texts in which each backslash has a character without a meaning behind it. -/
def Template.IsVerbatim : List Char → Prop
  | [] => True
  | ['\\'] => False
  | '\\' :: c :: rest => isInert c = true ∧ IsVerbatim rest
  | _ :: rest => IsVerbatim rest

/-- The readers that, away from a lone backslash at the end, leave an end of what was unread, no
lone backslash again, and a result as described. -/
def Forward (r : Reading α) (P : α → Prop) : Prop :=
  ∀ c a c', r c = .ok (a, c') → c.rest ≠ ['\\'] → c'.rest <:+ c.rest ∧ c'.rest ≠ ['\\'] ∧ P a

theorem bind_run (r : Reading α) (f : α → Reading β) (c : Cursor) :
    (r >>= f) c = r c >>= fun p => f p.1 p.2 := rfl

section Rules

variable {P : α → Prop} {Q : β → Prop} {r : Reading α} {f : α → Reading β}

theorem Forward.pure {a : α} (h : P a) : Forward (pure a) P := by
  rintro c _ _ ⟨⟩ hc
  exact ⟨List.suffix_refl _, hc, h⟩

/-- Two steps that go forward go forward together. -/
theorem Forward.bind (hr : Forward r P) (hf : ∀ a, P a → Forward (f a) Q) :
    Forward (r >>= f) Q := by
  intro c b c'' h hc
  rw [bind_run] at h
  obtain ⟨⟨a, c'⟩, ha, hb⟩ := bind_eq_ok_iff.1 h
  obtain ⟨hrest, hc', hP⟩ := hr c a c' ha hc
  obtain ⟨hrest', hc'', hQ⟩ := hf a hP c' b c'' hb hc'
  exact ⟨hrest'.trans hrest, hc'', hQ⟩

/-- Readers in a row of whose first results nothing needs to be known. -/
theorem Forward.andThen (hr : Forward r fun _ => True) (hf : ∀ a, Forward (f a) Q) :
    Forward (r >>= f) Q :=
  hr.bind fun a _ => hf a

theorem forward_get : Forward get fun _ => True := by
  rintro c _ _ ⟨⟩ hc
  exact ⟨List.suffix_refl _, hc, trivial⟩

theorem forward_throw (e : Error) : Forward (throw e) P := by
  rintro c _ _ ⟨⟩

theorem forward_failBack (problem : Problem) (back : Nat) : Forward (failBack problem back) P :=
  forward_get.andThen fun _ => forward_get.andThen fun _ => forward_throw _

/-- A check in front of a reader: it fails, or the reader goes on. -/
theorem Forward.guard {condition : Prop} [Decidable condition] {fail : Reading PUnit}
    {next : PUnit → Reading α} (hfail : Forward fail fun _ => False)
    (h : ¬condition → Forward (next ⟨⟩) P) :
    Forward (if condition then fail >>= next else next ⟨⟩) P := by
  by_cases hcondition : condition
  · rw [if_pos hcondition]
    exact hfail.bind fun _ hnever => hnever.elim
  · rw [if_neg hcondition]
    exact h hcondition

end Rules

/-- Where the reading stands behind the next token. -/
def Cursor.behind (c : Cursor) : Cursor :=
  { c with rest := c.rest.drop c.token.length, position := c.position + c.token.length }

theorem advance_run (c : Cursor) : advance c = checkToken c.behind := rfl

theorem checkToken_run (c : Cursor) :
    checkToken c = if c.rest = ['\\'] then failBack .trailingBackslash 0 c else .ok ((), c) := by
  change (if c.rest = ['\\'] then failBack .trailingBackslash 0 else pure ()) c = _
  by_cases h : c.rest = ['\\']
  · rw [if_pos h, if_pos h]
  · rw [if_neg h, if_neg h]
    rfl

/-- Taking a token goes behind it, unless a lone backslash comes next. -/
theorem take_eq_ok_iff {c c' : Cursor} {token : List Char} :
    take c = .ok (token, c') ↔ token = c.token ∧ c' = c.behind ∧ c.behind.rest ≠ ['\\'] := by
  change (advance c >>= fun p => Except.ok (c.token, p.2)) = _ ↔ _
  rw [advance_run, checkToken_run]
  by_cases hlone : c.behind.rest = ['\\']
  · rw [if_pos hlone]
    exact iff_of_false nofun fun h => h.2.2 hlone
  · rw [if_neg hlone]
    constructor
    · rintro ⟨⟩
      exact ⟨rfl, rfl, hlone⟩
    · rintro ⟨rfl, rfl, -⟩
      rfl

/-- Away from a lone backslash, the next token is a character or a backslash and a character. -/
theorem token_cases {c : Cursor} (h : c.rest ≠ ['\\']) :
    (c.rest = [] ∧ c.token = []) ∨
    (∃ x, x ≠ '\\' ∧ c.token = [x] ∧ c.rest = x :: c.behind.rest) ∨
    ∃ x, c.token = ['\\', x] ∧ c.rest = '\\' :: x :: c.behind.rest := by
  unfold Cursor.behind Cursor.token
  split
  · rename_i x rest hrest
    exact .inr (.inr ⟨x, rfl, by simp [hrest]⟩)
  · rename_i x rest hother hrest
    refine .inr (.inl ⟨x, ?_, rfl, by simp [hrest]⟩)
    rintro rfl
    cases rest with
    | nil => exact h hrest
    | cons y rest => exact hother y rest rfl rfl
  · rename_i hrest
    exact .inl ⟨hrest, rfl⟩

theorem forward_advance : Forward advance fun _ => True := by
  intro c _ c' h _
  rw [advance_run, checkToken_run] at h
  by_cases hlone : c.behind.rest = ['\\']
  · rw [if_pos hlone] at h
    cases h
  · rw [if_neg hlone] at h
    cases h
    exact ⟨List.drop_suffix _ _, hlone, trivial⟩

theorem forward_accept (x : Char) : Forward (accept x) fun _ => True := by
  refine forward_get.andThen fun c => ?_
  by_cases h : c.token = [x]
  · simp only [if_pos h]
    exact forward_advance.andThen fun _ => .pure trivial
  · simp only [if_neg h]
    exact .pure trivial

theorem forward_takeTokens (keep : List Char → Bool) (limit : Nat) :
    Forward (takeTokens keep limit) fun _ => True := by
  induction limit with
  | zero => exact .pure trivial
  | succ limit ih =>
    refine forward_get.andThen fun c => ?_
    dsimp only
    split
    · exact .pure trivial
    · exact forward_advance.andThen fun _ => ih.andThen fun _ => .pure trivial

theorem forward_takeWhile (keep : List Char → Bool) : Forward (takeWhile keep) fun _ => True :=
  forward_get.andThen fun _ => forward_takeTokens keep _

theorem forward_readName (terminator : Char) (what : String) :
    Forward (readName terminator what) fun _ => True := by
  refine (forward_takeWhile _).andThen fun name => forward_get.andThen fun c => ?_
  split
  · split <;> exact forward_failBack _ _
  · refine forward_advance.andThen fun _ => ?_
    split
    · exact forward_failBack _ _
    · exact .pure trivial

namespace Template

theorem forward_reference (number back : Nat) : Forward (reference number back) fun _ => True := by
  unfold reference
  split
  · exact .pure trivial
  · exact forward_failBack _ _

theorem forward_readReference : Forward readReference fun _ => True := by
  refine (forward_accept '<').andThen fun _ => .guard (forward_failBack _ _) fun _ => ?_
  refine (forward_readName _ _).andThen fun name => .guard (forward_throw _) fun _ => ?_
  split
  · exact forward_failBack _ _
  · exact .guard (forward_failBack _ _) fun _ => forward_reference _ _

theorem forward_readDigits (first : Char) : Forward (readDigits first) fun _ => True := by
  refine (forward_takeTokens _ _).andThen fun second => ?_
  have hrest : ∀ third : List Char, Forward (do
      let digits := first :: second ++ third
      if third.isEmpty then reference (ofDigits 10 digits) digits.length
      else
        let code := ofDigits 8 digits
        if 0o377 < code then
          failBack (.octalTooLarge (String.ofList ('\\' :: digits))) (digits.length + 1)
        return .char (Char.ofNat code)) fun _ => True := by
    intro third
    dsimp only
    split
    · exact forward_reference _ _
    · exact .guard (forward_failBack _ _) fun _ => .pure trivial
  dsimp only
  split
  · exact (forward_takeTokens _ _).andThen hrest
  · exact (Forward.pure (P := fun _ => True) trivial).andThen hrest

/-- A sequence is read as a single piece, unless its character has no meaning of its own. -/
theorem forward_readEscape (c : Char) : Forward (readEscape c) fun template =>
    template.length = 1 ∨ isInert c = true ∧ template = [.char '\\', .char c] := by
  have hsingle : ∀ piece : TemplatePiece, [piece].length = 1 ∨
      isInert c = true ∧ [piece] = [.char '\\', .char c] := fun _ => .inl rfl
  unfold readEscape
  by_cases hg : c = 'g'
  · rw [if_pos hg]
    exact forward_readReference.andThen fun piece => .pure (hsingle piece)
  rw [if_neg hg]
  by_cases hzero : c = '0'
  · rw [if_pos hzero]
    exact (forward_takeTokens _ _).andThen fun _ => .pure (hsingle _)
  rw [if_neg hzero]
  by_cases hdigit : isAsciiDigit c = true
  · rw [if_pos hdigit]
    exact (forward_readDigits c).andThen fun piece => .pure (hsingle piece)
  rw [if_neg hdigit]
  by_cases hb : c = 'b'
  · rw [if_pos hb]
    exact .pure (hsingle _)
  rw [if_neg hb]
  cases hcontrol : controlEscape? c with
  | some code => exact .pure (hsingle _)
  | none =>
    have hbackslash : c ≠ '\\' := by
      rintro rfl
      cases hcontrol
    refine .guard (forward_failBack _ _) fun hletter => .pure (.inr ⟨?_, rfl⟩)
    simp [isInert, hletter, hdigit, hbackslash]

/-- An escape that means nothing stands for itself, its backslash included. -/
theorem readEscape_of_isInert {x : Char} (h : isInert x = true) (c : Cursor) :
    readEscape x c = .ok ([.char '\\', .char x], c) := by
  have hnot : ∀ y, isInert y = false → x ≠ y := by
    rintro y hy rfl
    rw [h] at hy
    cases hy
  have hcontrol : controlEscape? x = none := by
    unfold controlEscape?
    split
    all_goals first | exact absurd rfl (hnot _ (by decide)) | rfl
  simp only [isInert, Bool.and_eq_true, Bool.not_eq_true'] at h
  obtain ⟨⟨hletter, hdigit⟩, -⟩ := h
  have hg := hnot 'g' (by decide)
  have hzero := hnot '0' (by decide)
  have hb := hnot 'b' (by decide)
  simp only [readEscape, hg, hzero, hb, hdigit, hletter, hcontrol, if_false]
  rfl

theorem IsVerbatim.ne_lone {cs : List Char} (h : IsVerbatim cs) : cs ≠ ['\\'] := by
  rintro rfl
  exact h

theorem isVerbatim_cons {x : Char} (hx : x ≠ '\\') (cs : List Char) :
    IsVerbatim (x :: cs) ↔ IsVerbatim cs := by
  rw [IsVerbatim]
  · rintro rfl
    exact absurd rfl hx
  · rintro _ _ rfl
    exact absurd rfl hx

/-- A text without a backslash stands for itself. -/
theorem isVerbatim_of_not_mem {cs : List Char} (h : '\\' ∉ cs) : IsVerbatim cs := by
  induction cs with
  | nil => trivial
  | cons x cs ih =>
    rw [List.mem_cons, not_or] at h
    exact (isVerbatim_cons (Ne.symm h.1) cs).2 (ih h.2)

section Pieces

variable {steps : Nat} {c c' : Cursor} {x : Char} {template : Template}

theorem readPieces_end (htoken : c.token = []) :
    readPieces (steps + 1) c = .ok (template, c') ↔
      template = [] ∧ c' = c.behind ∧ c.behind.rest ≠ ['\\'] := by
  rw [readPieces, bind_run, bind_eq_ok_iff]
  simp only [Prod.exists, take_eq_ok_iff, htoken]
  constructor
  · rintro ⟨_, _, ⟨rfl, rfl, hlone⟩, ⟨⟩⟩
    exact ⟨rfl, rfl, hlone⟩
  · rintro ⟨rfl, rfl, hlone⟩
    exact ⟨_, _, ⟨rfl, rfl, hlone⟩, rfl⟩

/-- A character of a template is a piece of its own. -/
theorem readPieces_char (htoken : c.token = [x]) :
    readPieces (steps + 1) c = .ok (template, c') ↔ c.behind.rest ≠ ['\\'] ∧
      ∃ pieces, readPieces steps c.behind = .ok (pieces, c') ∧ template = .char x :: pieces := by
  rw [readPieces, bind_run, bind_eq_ok_iff]
  simp only [Prod.exists, take_eq_ok_iff, htoken]
  constructor
  · rintro ⟨_, _, ⟨rfl, rfl, hlone⟩, h⟩
    simp only at h
    obtain ⟨⟨pieces, c₁⟩, hpieces, ⟨⟩⟩ := bind_eq_ok_iff.1 h
    exact ⟨hlone, pieces, hpieces, rfl⟩
  · rintro ⟨hlone, pieces, hpieces, rfl⟩
    refine ⟨_, _, ⟨rfl, rfl, hlone⟩, ?_⟩
    simp only
    exact bind_eq_ok_iff.2 ⟨_, hpieces, rfl⟩

/-- An escape of a template is read by itself. -/
theorem readPieces_escape (htoken : c.token = ['\\', x]) :
    readPieces (steps + 1) c = .ok (template, c') ↔ c.behind.rest ≠ ['\\'] ∧
      ∃ first c₁ pieces, readEscape x c.behind = .ok (first, c₁) ∧
        readPieces steps c₁ = .ok (pieces, c') ∧ template = first ++ pieces := by
  rw [readPieces, bind_run, bind_eq_ok_iff]
  simp only [Prod.exists, take_eq_ok_iff, htoken]
  constructor
  · rintro ⟨_, _, ⟨rfl, rfl, hlone⟩, h⟩
    obtain ⟨⟨first, c₁⟩, hfirst, h⟩ := bind_eq_ok_iff.1 h
    obtain ⟨⟨pieces, c₂⟩, hpieces, ⟨⟩⟩ := bind_eq_ok_iff.1 h
    exact ⟨hlone, first, c₁, pieces, hfirst, hpieces, rfl⟩
  · rintro ⟨hlone, first, c₁, pieces, hfirst, hpieces, rfl⟩
    exact ⟨_, _, ⟨rfl, rfl, hlone⟩,
      bind_eq_ok_iff.2 ⟨_, hfirst, bind_eq_ok_iff.2 ⟨_, hpieces, rfl⟩⟩⟩

end Pieces

/-- A text that stands for itself is read as the characters that it has. -/
theorem readPieces_of_isVerbatim {steps : Nat} {c : Cursor} (hsteps : c.rest.length < steps)
    (h : IsVerbatim c.rest) : ∃ c', readPieces steps c = .ok (c.rest.map .char, c') := by
  induction steps generalizing c with
  | zero => exact absurd hsteps (Nat.not_lt_zero _)
  | succ steps ih =>
    rcases token_cases h.ne_lone with ⟨hrest, htoken⟩ | ⟨x, hx, htoken, hrest⟩ | ⟨x, htoken, hrest⟩
    · refine ⟨c.behind, (readPieces_end htoken).2 ⟨by simp [hrest], rfl, ?_⟩⟩
      simp [Cursor.behind, hrest]
    · rw [hrest, isVerbatim_cons hx] at h
      rw [hrest, List.length_cons] at hsteps
      obtain ⟨c', hc'⟩ := ih (by omega) h
      exact ⟨c', (readPieces_char htoken).2 ⟨h.ne_lone, _, hc', by rw [hrest, List.map_cons]⟩⟩
    · rw [hrest] at h
      obtain ⟨hx, h⟩ : isInert x = true ∧ IsVerbatim c.behind.rest := h
      rw [hrest, List.length_cons, List.length_cons] at hsteps
      obtain ⟨c', hc'⟩ := ih (by omega) h
      refine ⟨c', (readPieces_escape htoken).2 ⟨h.ne_lone, _, c.behind, _,
        readEscape_of_isInert hx _, hc', ?_⟩⟩
      rw [hrest]
      rfl

/-- Any other text becomes shorter, if it is read at all. -/
theorem length_of_readPieces {steps : Nat} {c c' : Cursor} {template : Template}
    (hsteps : c.rest.length < steps) (hlone : c.rest ≠ ['\\'])
    (h : readPieces steps c = .ok (template, c')) :
    template.length ≤ c.rest.length ∧ (template.length = c.rest.length → IsVerbatim c.rest) := by
  induction steps generalizing c template with
  | zero => exact absurd hsteps (Nat.not_lt_zero _)
  | succ steps ih =>
    rcases token_cases hlone with ⟨hrest, htoken⟩ | ⟨x, hx, htoken, hrest⟩ | ⟨x, htoken, hrest⟩
    · obtain ⟨rfl, -⟩ := (readPieces_end htoken).1 h
      rw [hrest]
      exact ⟨Nat.le_refl _, fun _ => trivial⟩
    · obtain ⟨hbehind, pieces, hpieces, rfl⟩ := (readPieces_char htoken).1 h
      rw [hrest, List.length_cons] at hsteps
      obtain ⟨hle, hverbatim⟩ := ih (by omega) hbehind hpieces
      rw [hrest, isVerbatim_cons hx, List.length_cons, List.length_cons]
      exact ⟨by omega, fun hlength => hverbatim (by omega)⟩
    · obtain ⟨hbehind, first, c₁, pieces, hfirst, hpieces, rfl⟩ := (readPieces_escape htoken).1 h
      obtain ⟨hsuffix, hlone₁, hcases⟩ := forward_readEscape x _ _ _ hfirst hbehind
      rw [hrest, List.length_cons, List.length_cons] at hsteps
      have hshorter := hsuffix.length_le
      obtain ⟨hle, hverbatim⟩ := ih (by omega) hlone₁ hpieces
      rw [hrest, List.length_append, List.length_cons, List.length_cons]
      -- A sequence that becomes one piece makes up for nothing that is read behind it.
      rcases hcases with hsingle | ⟨hx, rfl⟩
      · exact ⟨by omega, fun hlength => by omega⟩
      · have htwo : [TemplatePiece.char '\\', .char x].length = 2 := rfl
        -- Only if nothing was read behind the character is the length the same.
        refine ⟨by omega, fun hlength => ⟨hx, ?_⟩⟩
        rw [← hsuffix.eq_of_length (by omega)]
        exact hverbatim (by omega)

/-- A template is read from its first token on, unless that is a lone backslash. -/
theorem parse_eq_ok_iff {text : String} {template : Template} :
    parse text = .ok template ↔ text.toList ≠ ['\\'] ∧ ∃ c',
      readPieces (text.length + 1)
        ⟨text, text.toList, 0, .none, [none], [], none, [], fun _ => none⟩ =
          .ok (template, c') := by
  rw [parse]
  change (Except.map (·.1) (checkToken _ >>= fun p => readPieces _ p.2)) = _ ↔ _
  rw [checkToken_run]
  by_cases hlone : text.toList = ['\\']
  · rw [if_pos hlone]
    exact iff_of_false nofun fun h => h.1 hlone
  · rw [if_neg hlone]
    constructor
    · intro h
      obtain ⟨⟨_, c'⟩, hpieces, rfl⟩ := map_eq_ok_iff.1 h
      exact ⟨hlone, c', hpieces⟩
    · rintro ⟨-, c', hpieces⟩
      exact map_eq_ok_iff.2 ⟨_, hpieces, rfl⟩

/-- A text that stands for itself is read as its characters. -/
theorem parse_of_isVerbatim {text : String} (h : IsVerbatim text.toList) :
    parse text = .ok (text.toList.map .char) := by
  have hsteps : text.toList.length < text.length + 1 := by rw [String.length_toList]; omega
  exact parse_eq_ok_iff.2 ⟨h.ne_lone, readPieces_of_isVerbatim hsteps h⟩

/-- A template has no more pieces than characters, and as many only if it stands for itself. -/
theorem isVerbatim_of_parse {text : String} {template : Template}
    (h : parse text = .ok template) : template.length ≤ text.length ∧
      (template.length = text.length → IsVerbatim text.toList) := by
  obtain ⟨hlone, c', hpieces⟩ := parse_eq_ok_iff.1 h
  have hsteps : text.toList.length < text.length + 1 := by rw [String.length_toList]; omega
  rw [← String.length_toList]
  exact length_of_readPieces hsteps hlone hpieces

end Template

end ElementQuery.Regex
