import ElementQuery.Proofs.Number.Numerals
import ElementQuery.Settings.Check
import Mathlib.Data.List.Basic

/-!
# Numerals in settings

Which texts are taken for which whole number. The digits are ASCII digits, between two of which a
single underscore may stand. In front of them there can be a plus and zeros with any underscores
behind the first one, or a minus and an underscore, and behind them a point and zeros; white space
may surround all of it. Zeros count for nothing where they are let through, so that the digits
themselves start with a zero only if there is no other digit.

## Main definitions

* `Settings.IsPlainNumeral` : the texts of digits that spell a whole number.
* `Settings.GroupsDigits` : digits with underscores between them.
* `Settings.IsWholeNumeral` : the texts that are taken for a whole number.

## Main statements

* `Settings.checkPlainNumeral_eq_valid_iff` : the plain numerals are those that pass.
* `Settings.cleanNumeral?_iff` : behind a text there is a plain numeral of a number exactly if the
  text is taken for it.
-/

namespace ElementQuery.Settings

open ElementQuery.Number ElementQuery.Text

/-- The texts of ASCII digits, with a minus in front if need be, that spell a whole number. They
start with a zero only if there is no other digit. -/
inductive IsPlainNumeral : Int → List Char → Prop where
  | intro {sign digits : List Char} (hsign : sign ∈ [[], ['-']]) (hne : digits ≠ [])
      (hdigits : ∀ c ∈ digits, isAsciiDigit c = true)
      (hzero : digits.head? = some '0' → digits.length = 1)
      (hlength : digits.length + sign.length ≤ maxDigits) :
      IsPlainNumeral (signed (sign == ['-'])
        (Nat.ofDigits 10 (digits.map fun c => c.toNat - '0'.toNat).reverse)) (sign ++ digits)

/-- ASCII digits as they are written, a single underscore allowed between two. -/
inductive GroupsDigits : List Char → List Char → Prop where
  | last {c : Char} (h : isAsciiDigit c = true) : GroupsDigits [c] [c]
  | next {c : Char} {digits rest : List Char} (h : isAsciiDigit c = true)
      (hrest : GroupsDigits digits rest) : GroupsDigits (c :: digits) (c :: rest)
  | apart {c : Char} {digits rest : List Char} (h : isAsciiDigit c = true)
      (hrest : GroupsDigits digits rest) : GroupsDigits (c :: digits) (c :: '_' :: rest)

/-- Zeros, and underscores that stand behind the first of them. -/
def IsZeros (cs : List Char) : Prop := cs.head? ≠ some '_' ∧ ∀ c ∈ cs, c = '0' ∨ c = '_'

/-- A point and zeros, or nothing. -/
def IsZeroFraction (cs : List Char) : Prop :=
  cs = [] ∨ ∃ count, cs = '.' :: List.replicate count '0'

/-- The texts that are taken for a whole number. A minus stands right in front of the digits, or an
underscore apart; zeros can be in front of them only if there is none. -/
inductive IsWholeNumeral : Int → List Char → Prop where
  | unsigned {n : Int} {lead plus zeros digits body fraction trail : List Char}
      (hlead : ∀ c ∈ lead, isSpace c = true) (hplus : plus ∈ [[], ['+']]) (hzeros : IsZeros zeros)
      (hbody : GroupsDigits digits body) (hplain : IsPlainNumeral n digits)
      (hfraction : IsZeroFraction fraction) (htrail : ∀ c ∈ trail, isSpace c = true) :
      IsWholeNumeral n (lead ++ (plus ++ (zeros ++ (body ++ fraction)) ++ trail))
  | negative {n : Int} {lead mark digits body fraction trail : List Char}
      (hlead : ∀ c ∈ lead, isSpace c = true) (hmark : mark ∈ [[], ['_']])
      (hbody : GroupsDigits digits body) (hplain : IsPlainNumeral n ('-' :: digits))
      (hfraction : IsZeroFraction fraction) (htrail : ∀ c ∈ trail, isSpace c = true) :
      IsWholeNumeral n (lead ++ ('-' :: (mark ++ (body ++ fraction)) ++ trail))

/-- What comes of a sign and of what stands behind it. -/
theorem checkPlainNumeral_eq {sign body : List Char} (hsign : sign ∈ [[], ['-']])
    (hbody : sign = [] → body.head? ≠ some '-') : checkPlainNumeral (sign ++ body) =
      let digits := body.takeWhile isAsciiDigit
      let isPlain := !digits.isEmpty && (digits.head? != some '0' || digits.length == 1)
      if digits.head? != some '0' && maxDigits < digits.length + sign.length then .offend .tooLarge
      else if isPlain && digits.length == body.length then
        .valid (signed (sign == ['-']) (ofDigitList (digits.map fun c => c.toNat - '0'.toNat)))
      else .offend .notANumeral := by
  rcases List.mem_pair.1 hsign with rfl | rfl
  · rw [List.nil_append, checkPlainNumeral]
    · rfl
    · rintro rest rfl
      exact hbody rfl rfl
  · rfl

/-- A text splits into a minus, if it starts with one, and the rest. -/
theorem exists_sign_append (cs : List Char) : ∃ sign body, sign ∈ [[], ['-']] ∧
    (sign = [] → body.head? ≠ some '-') ∧ cs = sign ++ body := by
  cases cs with
  | nil => exact ⟨[], [], List.mem_cons_self, nofun, rfl⟩
  | cons c rest =>
    by_cases hc : c = '-'
    · subst hc
      exact ⟨['-'], rest, List.mem_cons_of_mem _ List.mem_cons_self, nofun, rfl⟩
    · exact ⟨[], c :: rest, List.mem_cons_self, fun _ h => hc (Option.some.inj h), rfl⟩

/-- The plain numerals are those that pass. -/
theorem checkPlainNumeral_eq_valid_iff {cs : List Char} {n : Int} :
    checkPlainNumeral cs = .valid n ↔ IsPlainNumeral n cs := by
  constructor
  · intro h
    obtain ⟨sign, body, hsign, hbody, rfl⟩ := exists_sign_append cs
    have hshort : sign.length ≤ 1 := by
      rcases List.mem_pair.1 hsign with rfl | rfl <;> decide
    rw [checkPlainNumeral_eq hsign hbody] at h
    dsimp only at h
    split at h
    · cases h
    · next hsize =>
      split at h
      · next hplain =>
        simp only [Bool.and_eq_true, Bool.or_eq_true, Bool.not_eq_true', List.isEmpty_eq_false_iff,
          bne_iff_ne, beq_iff_eq, decide_eq_true_eq, not_and_or, not_not] at hsize hplain
        obtain ⟨⟨hne, hzero⟩, hlength⟩ := hplain
        have hbody : body.takeWhile isAsciiDigit = body :=
          (List.takeWhile_prefix _).eq_of_length hlength
        rw [hbody] at h hne hzero hsize
        rw [ofDigitList_eq] at h
        cases h
        refine .intro hsign hne (List.takeWhile_eq_self_iff.1 hbody)
          (fun h => hzero.resolve_left (not_not.2 h)) ?_
        rcases hsize with h0 | hle
        · have hone := hzero.resolve_left (not_not.2 h0)
          have hmax : 2 ≤ maxDigits := by decide
          omega
        · exact Nat.not_lt.1 hle
      · cases h
  · rintro ⟨hsign, hne, hdigits, hzero, hlength⟩
    rename_i sign digits
    have hhead : digits.head? ≠ some '-' := by
      intro h
      obtain ⟨rest, rfl⟩ := List.head?_eq_some_iff.1 h
      exact absurd (hdigits '-' List.mem_cons_self) (by decide)
    rw [checkPlainNumeral_eq hsign fun _ => hhead, List.takeWhile_eq_self_iff.2 hdigits]
    dsimp only
    rw [if_neg, if_pos, ofDigitList_eq]
    · simp only [Bool.and_eq_true, Bool.or_eq_true, Bool.not_eq_true', List.isEmpty_eq_false_iff,
        bne_iff_ne, beq_iff_eq, and_true]
      exact ⟨hne, or_iff_not_imp_left.2 fun h => hzero (not_not.1 h)⟩
    · simp only [Bool.and_eq_true, decide_eq_true_eq, not_and]
      exact fun _ => Nat.not_lt.2 hlength

/-- A plain numeral is digits, with a minus at most. -/
theorem IsPlainNumeral.exists_sign {n : Int} {cs : List Char} (h : IsPlainNumeral n cs) :
    ∃ sign digits, sign ∈ [[], ['-']] ∧ digits ≠ [] ∧
      (∀ c ∈ digits, isAsciiDigit c = true) ∧ cs = sign ++ digits := by
  cases h with
  | intro hsign hne hdigits => exact ⟨_, _, hsign, hne, hdigits, rfl⟩

/-- A numeral that starts with a zero is a zero. -/
theorem IsPlainNumeral.eq_zero {n : Int} {cs : List Char} (h : IsPlainNumeral n cs)
    (hhead : cs.head? = some '0') : cs = ['0'] := by
  cases h with
  | intro hsign _ _ hzero =>
    rcases List.mem_pair.1 hsign with rfl | rfl
    · obtain ⟨c, rfl⟩ := List.length_eq_one_iff.1 (hzero hhead)
      exact congrArg ([·]) (Option.some.inj hhead)
    · cases hhead

theorem ne_underscore {c : Char} (h : isAsciiDigit c = true) : c ≠ '_' := by
  rintro rfl
  exact absurd h (by decide)

/-- Behind another character the underscores are single if they are in the rest. -/
theorem hasSingleUnderscores_cons {c : Char} {rest : List Char} (hc : c ≠ '_') (hrest : rest ≠ []) :
    hasSingleUnderscores (c :: rest) = hasSingleUnderscores rest := by
  cases rest with
  | nil => exact absurd rfl hrest
  | cons d rest => simp [hasSingleUnderscores, hc]

/-- Behind an underscore stands another character. -/
theorem hasSingleUnderscores_underscore {rest : List Char} :
    hasSingleUnderscores ('_' :: rest) = true ↔
      rest.head? ≠ some '_' ∧ hasSingleUnderscores rest = true := by
  cases rest with
  | nil => decide
  | cons c rest =>
    by_cases hc : c = '_'
    · subst hc
      simp [hasSingleUnderscores]
    · simp [hasSingleUnderscores, hc]

namespace GroupsDigits

variable {digits body : List Char}

theorem exists_cons (h : GroupsDigits digits body) : ∃ c digits' rest,
    digits = c :: digits' ∧ body = c :: rest ∧ isAsciiDigit c = true := by
  cases h with
  | last h => exact ⟨_, _, _, rfl, rfl, h⟩
  | next h => exact ⟨_, _, _, rfl, rfl, h⟩
  | apart h => exact ⟨_, _, _, rfl, rfl, h⟩

theorem mem_body (h : GroupsDigits digits body) :
    ∀ c ∈ body, isAsciiDigit c = true ∨ c = '_' := by
  induction h with
  | last h => exact List.forall_mem_singleton.2 (.inl h)
  | next h _ ih => exact List.forall_mem_cons.2 ⟨.inl h, ih⟩
  | apart h _ ih => exact List.forall_mem_cons.2 ⟨.inl h, List.forall_mem_cons.2 ⟨.inr rfl, ih⟩⟩

/-- The underscores between digits are single. -/
theorem hasSingle (h : GroupsDigits digits body) : hasSingleUnderscores body = true := by
  induction h with
  | last h => simp [hasSingleUnderscores, ne_underscore h]
  | next h hrest ih =>
    obtain ⟨_, _, _, rfl, rfl, -⟩ := hrest.exists_cons
    rw [hasSingleUnderscores_cons (ne_underscore h) (List.cons_ne_nil _ _), ih]
  | apart h hrest ih =>
    obtain ⟨_, _, _, rfl, rfl, hc⟩ := hrest.exists_cons
    rw [hasSingleUnderscores_cons (ne_underscore h) (List.cons_ne_nil _ _)]
    exact hasSingleUnderscores_underscore.2 ⟨by simpa using ne_underscore hc, ih⟩

theorem filter_eq (h : GroupsDigits digits body) : body.filter (· != '_') = digits := by
  induction h with
  | last h => exact List.filter_cons_of_pos (by simpa using ne_underscore h)
  | next h _ ih => rw [List.filter_cons_of_pos (by simpa using ne_underscore h), ih]
  | apart h _ ih =>
    rw [List.filter_cons_of_pos (by simpa using ne_underscore h),
      List.filter_cons_of_neg (by decide), ih]

/-- A digit that stands alone is written as it is. -/
theorem eq_singleton {c : Char} (h : GroupsDigits [c] body) : body = [c] := by
  cases h with
  | last => rfl
  | next _ h => cases h
  | apart _ h => cases h

end GroupsDigits

/-- Digits are written as they are. -/
theorem groupsDigits_self {digits : List Char} (hne : digits ≠ [])
    (hdigits : ∀ c ∈ digits, isAsciiDigit c = true) : GroupsDigits digits digits := by
  induction digits with
  | nil => exact absurd rfl hne
  | cons c digits ih =>
    obtain ⟨hc, hrest⟩ := List.forall_mem_cons.1 hdigits
    cases digits with
    | nil => exact .last hc
    | cons d digits => exact .next hc (ih (List.cons_ne_nil _ _) hrest)

/-- Digits with single underscores between them are what is left without the underscores. -/
theorem groupsDigits_filter : ∀ {body : List Char}, hasSingleUnderscores body = true →
    body.head? ≠ some '_' → (∀ c ∈ body, isAsciiDigit c = true ∨ c = '_') →
      GroupsDigits (body.filter (· != '_')) body
  | [], h, _, _ => Bool.noConfusion h
  | [c], _, hhead, hbody => by
    have hc : c ≠ '_' := fun hc => hhead (congrArg some hc)
    have hdigit := (hbody c List.mem_cons_self).resolve_right hc
    rw [List.filter_cons_of_pos (by simpa using hc)]
    exact .last hdigit
  | c :: d :: rest, h, hhead, hbody => by
    have hc : c ≠ '_' := fun hc => hhead (congrArg some hc)
    have hdigit := (hbody c List.mem_cons_self).resolve_right hc
    have hrest := (List.forall_mem_cons.1 hbody).2
    rw [hasSingleUnderscores_cons hc (List.cons_ne_nil _ _)] at h
    rw [List.filter_cons_of_pos (by simpa using hc)]
    by_cases hd : d = '_'
    · subst hd
      obtain ⟨hbehind, hsingle⟩ := hasSingleUnderscores_underscore.1 h
      rw [List.filter_cons_of_neg (by decide)]
      exact .apart hdigit (groupsDigits_filter hsingle hbehind (List.forall_mem_cons.1 hrest).2)
    · exact .next hdigit (groupsDigits_filter h (by simpa using hd) hrest)

theorem dropUnderscores_of_groupsDigits {digits body : List Char} (h : GroupsDigits digits body) :
    dropUnderscores body = digits := by
  obtain ⟨c, _, rest, rfl, rfl, hc⟩ := h.exists_cons
  have hhead : (c :: rest).head? != some '_' := by simpa using ne_underscore hc
  rw [dropUnderscores, hhead, h.hasSingle, Bool.and_self, if_pos rfl, h.filter_eq]

/-- Behind a minus an underscore may stand as well. -/
theorem dropUnderscores_minus {digits body mark : List Char} (h : GroupsDigits digits body)
    (hmark : mark ∈ [[], ['_']]) : dropUnderscores ('-' :: (mark ++ body)) = '-' :: digits := by
  obtain ⟨c, digits, rest, rfl, rfl, hc⟩ := h.exists_cons
  have hsingle : hasSingleUnderscores ('-' :: (mark ++ c :: rest)) = true := by
    rw [hasSingleUnderscores_cons (by decide) (by simp)]
    rcases List.mem_pair.1 hmark with rfl | rfl
    · exact h.hasSingle
    · exact hasSingleUnderscores_underscore.2 ⟨by simpa using ne_underscore hc, h.hasSingle⟩
  have hfilter : (mark ++ c :: rest).filter (· != '_') = c :: digits := by
    rw [List.filter_append, h.filter_eq]
    rcases List.mem_pair.1 hmark with rfl | rfl <;> rfl
  rw [dropUnderscores, hsingle, Bool.and_true, if_pos (by rfl),
    List.filter_cons_of_pos (by decide), hfilter]

/-- What is digits without underscores has them single between the digits, or is a minus with an
underscore behind it. -/
theorem exists_groupsDigits {sign digits cs : List Char} (hsign : sign ∈ [[], ['-']])
    (hne : digits ≠ []) (hdigits : ∀ c ∈ digits, isAsciiDigit c = true)
    (h : dropUnderscores cs = sign ++ digits) : ∃ mark body, GroupsDigits digits body ∧
      cs = sign ++ (mark ++ body) ∧ (mark = [] ∨ sign = ['-'] ∧ mark = ['_']) := by
  rw [dropUnderscores] at h
  split at h
  · next hcond =>
    obtain ⟨hhead, hsingle⟩ := Bool.and_eq_true_iff.1 hcond
    have hhead : cs.head? ≠ some '_' := by simpa using hhead
    -- Whatever is left without underscores, the rest of it is digits and underscores.
    have hbody : ∀ {body : List Char}, body.filter (· != '_') = digits →
        ∀ c ∈ body, isAsciiDigit c = true ∨ c = '_' := by
      rintro body rfl c hc
      by_cases hc' : c = '_'
      · exact .inr hc'
      · exact .inl (hdigits c (List.mem_filter.2 ⟨hc, by simpa using hc'⟩))
    have hgroups : ∀ {body : List Char}, body.filter (· != '_') = digits →
        hasSingleUnderscores body = true → body.head? ≠ some '_' → GroupsDigits digits body :=
      fun hfilter hsingle hhead => hfilter ▸ groupsDigits_filter hsingle hhead (hbody hfilter)
    rcases List.mem_pair.1 hsign with rfl | rfl
    · exact ⟨[], cs, hgroups h hsingle hhead, rfl, .inl rfl⟩
    · cases cs with
      | nil => cases h
      | cons c rest =>
        have hc : c ≠ '_' := by simpa using hhead
        rw [List.filter_cons_of_pos (by simpa using hc)] at h
        obtain ⟨rfl, hfilter⟩ := List.cons.inj h
        have hrest : rest ≠ [] := by
          rintro rfl
          exact hne hfilter.symm
        rw [hasSingleUnderscores_cons hc hrest] at hsingle
        by_cases hmark : rest.head? = some '_'
        · obtain ⟨body, rfl⟩ := List.head?_eq_some_iff.1 hmark
          obtain ⟨hbehind, hsingle⟩ := hasSingleUnderscores_underscore.1 hsingle
          rw [List.filter_cons_of_neg (by decide)] at hfilter
          exact ⟨['_'], body, hgroups hfilter hsingle hbehind, rfl, .inr ⟨rfl, rfl⟩⟩
        · exact ⟨[], rest, hgroups hfilter hsingle hmark, rfl, .inl rfl⟩
  · exact ⟨[], digits, groupsDigits_self hne hdigits, h, .inl rfl⟩

/-- A fraction of zeros is dropped, and nothing else. -/
theorem IsZeroFraction.append_dropFraction {front fraction : List Char}
    (h : IsZeroFraction fraction) (hfront : '.' ∉ front) :
    dropFraction (front ++ fraction) = front := by
  have hkeep : ∀ c ∈ front, (c != '.') = true := by
    intro c hc
    simp only [bne_iff_ne]
    rintro rfl
    exact hfront hc
  rw [dropFraction, List.dropWhile_append_of_pos hkeep, List.takeWhile_append_of_pos hkeep]
  rcases h with rfl | ⟨count, rfl⟩
  · simp
  · simp

/-- What is left without a fraction had one of zeros, or none. -/
theorem exists_isZeroFraction {cs kept : List Char} (h : dropFraction cs = kept) :
    ∃ fraction, IsZeroFraction fraction ∧ cs = kept ++ fraction := by
  rw [dropFraction] at h
  split at h
  · next hzeros =>
    refine ⟨cs.dropWhile (· != '.'), ?_, ?_⟩
    · cases hfraction : cs.dropWhile (· != '.') with
      | nil => exact .inl rfl
      | cons c zeros =>
        have hc : c = '.' := by
          have hstop := List.head?_dropWhile_not (· != '.') cs
          rw [hfraction] at hstop
          simpa using hstop
        rw [hfraction] at hzeros
        have hall : zeros = List.replicate zeros.length '0' :=
          List.eq_replicate_iff.2 ⟨rfl, by simpa using hzeros⟩
        exact .inr ⟨zeros.length, by rw [hc, ← hall]⟩
    · rw [← h, List.takeWhile_append_dropWhile]
  · exact ⟨[], .inl rfl, by rw [h, List.append_nil]⟩

/-- Without a zero that something follows, nothing is dropped from a digit or a minus. -/
theorem dropZeros?_cons {c : Char} {rest : List Char} (h : c = '0' → rest = []) :
    dropZeros? (c :: rest) = if isAsciiDigit c || c == '-' then some (c :: rest) else none := by
  rw [dropZeros?]
  rintro d rest' heq
  obtain ⟨rfl, rfl⟩ := List.cons.inj heq
  exact absurd (h rfl) (List.cons_ne_nil _ _)

theorem isFiller_iff {c : Char} : isFiller c = true ↔ c = '0' ∨ c = '_' := by simp [isFiller]

/-- Zeros start with a zero. -/
theorem IsZeros.exists_cons {zeros : List Char} (h : IsZeros zeros) (hne : zeros ≠ []) :
    ∃ fillers, zeros = '0' :: fillers ∧ ∀ c ∈ fillers, isFiller c = true := by
  obtain ⟨c, fillers, rfl⟩ := List.exists_cons_of_ne_nil hne
  obtain ⟨hc, hfillers⟩ := List.forall_mem_cons.1 h.2
  obtain rfl := hc.resolve_right fun hc => h.1 (congrArg some hc)
  exact ⟨fillers, rfl, fun d hd => isFiller_iff.2 (hfillers d hd)⟩

/-- What stands in front among zeros is such, too. -/
theorem IsZeros.of_append {front behind : List Char} (h : IsZeros (front ++ behind)) :
    IsZeros front := by
  refine ⟨fun hhead => h.1 ?_, fun c hc => h.2 c (List.mem_append_left _ hc)⟩
  rw [List.head?_append, hhead]
  rfl

/-- Of the zeros in front of something else, the last one stays if that is a point or nothing. -/
theorem dropZeros?_zeros {front behind : List Char} {last : Char}
    (hzeros : IsZeros (front ++ [last]))
    (hbehind : ∀ c, behind.head? = some c → isFiller c = false) :
    dropZeros? (front ++ last :: behind) =
      if behind = [] ∨ behind.head? = some '.' then some (last :: behind)
      else if behind.head?.any isAsciiDigit then some behind else none := by
  obtain ⟨fillers, hfront, hfillers⟩ := hzeros.exists_cons (by simp)
  have htext : front ++ last :: behind = '0' :: (fillers ++ behind) := by
    rw [← List.cons_append, ← hfront, List.append_assoc, List.singleton_append]
  have hlast : ('0' :: fillers).getLast? = some last := by
    rw [← hfront, List.getLast?_concat]
  have hstop : behind.takeWhile isFiller = [] ∧ behind.dropWhile isFiller = behind := by
    cases behind with
    | nil => exact ⟨rfl, rfl⟩
    | cons c rest => simp [hbehind c rfl]
  have hkept : (fillers ++ behind).takeWhile isFiller = fillers := by
    rw [List.takeWhile_append_of_pos hfillers, hstop.1, List.append_nil]
  have hdrop : (fillers ++ behind).dropWhile isFiller = behind := by
    rw [List.dropWhile_append_of_pos hfillers, hstop.2]
  rw [htext]
  cases hmore : fillers ++ behind with
  | nil =>
    obtain ⟨rfl, rfl⟩ := List.append_eq_nil_iff.1 hmore
    obtain rfl : '0' = last := Option.some.inj hlast
    rfl
  | cons d rest =>
    rw [hmore] at hkept hdrop
    rw [dropZeros?, hdrop, List.takeWhile_cons_of_pos rfl, hkept, hlast]
    cases behind with
    | nil =>
      rw [List.append_nil] at hmore
      rw [hmore, List.getLast?_cons_cons] at hlast
      rw [hlast]
      rfl
    | cons c rest =>
      by_cases hc : c = '.'
      · subst hc
        rfl
      · rw [if_neg (by simp [hc])]
        split
        · next h => cases h
        · next h => exact absurd (List.cons.inj h).1 hc
        · next h =>
          cases h
          rfl

/-- What is dropped in front are zeros, with underscores among them, and nothing in front of a
minus. -/
theorem exists_isZeros {cs kept : List Char} (h : dropZeros? cs = some kept) :
    ∃ zeros, IsZeros zeros ∧ (kept.head? = some '-' → zeros = []) ∧ cs = zeros ++ kept := by
  cases cs with
  | nil => cases h
  | cons c rest =>
    by_cases hc : c = '0'
    · subst hc
      have hzeros : IsZeros ('0' :: rest.takeWhile isFiller) :=
        ⟨nofun, List.forall_mem_cons.2 ⟨.inl rfl, fun d hd =>
          isFiller_iff.1 (List.mem_takeWhile_imp hd)⟩⟩
      obtain ⟨front, last, hfront⟩ :=
        (List.eq_nil_or_concat' ('0' :: rest.takeWhile isFiller)).resolve_left nofun
      have hbehind : ∀ d, (rest.dropWhile isFiller).head? = some d → isFiller d = false := by
        intro d hd
        have hstop := List.head?_dropWhile_not isFiller rest
        rw [hd] at hstop
        simpa using hstop
      have htext : '0' :: rest = front ++ last :: rest.dropWhile isFiller := by
        rw [← List.singleton_append (l := rest.dropWhile isFiller), ← List.append_assoc, ← hfront,
          List.cons_append, List.takeWhile_append_dropWhile]
      rw [hfront] at hzeros
      rw [htext, dropZeros?_zeros hzeros hbehind] at h
      rw [htext]
      split at h
      · cases h
        refine ⟨front, hzeros.of_append, fun hhead => ?_, rfl⟩
        obtain rfl : last = '-' := Option.some.inj hhead
        rcases hzeros.2 '-' (by simp) with h | h <;> cases h
      · obtain ⟨hdigit, hkept⟩ := Option.ite_none_right_eq_some.1 h
        cases hkept
        refine ⟨front ++ [last], hzeros, fun hhead => ?_, by simp⟩
        rw [hhead] at hdigit
        cases hdigit
    · rw [dropZeros?_cons fun h => absurd h hc] at h
      obtain ⟨-, hkept⟩ := Option.ite_none_right_eq_some.1 h
      exact ⟨[], ⟨nofun, nofun⟩, fun _ => rfl, Option.some.inj hkept⟩

/-- Zeros in front of digits are dropped, but for the one that is the only digit. -/
theorem IsZeros.dropZeros?_append {zeros digits body fraction : List Char} (hzeros : IsZeros zeros)
    (hbody : GroupsDigits digits body) (hzero : digits.head? = some '0' → digits = ['0'])
    (hfraction : IsZeroFraction fraction) :
    dropZeros? (zeros ++ (body ++ fraction)) = some (body ++ fraction) := by
  obtain ⟨c, digits, rest, rfl, rfl, hc⟩ := hbody.exists_cons
  by_cases hc0 : c = '0'
  · -- The only digit is a zero, and it is the last of all zeros.
    subst hc0
    rw [hzero rfl] at hbody
    obtain rfl := (List.cons.inj hbody.eq_singleton).2
    have hall : IsZeros (zeros ++ ['0']) := by
      refine ⟨?_, List.forall_mem_append.2 ⟨hzeros.2, List.forall_mem_singleton.2 (.inl rfl)⟩⟩
      cases zeros with
      | nil => exact nofun
      | cons z zeros => exact hzeros.1
    have hpoint : fraction = [] ∨ fraction.head? = some '.' :=
      hfraction.imp_right fun ⟨_, h⟩ => congrArg List.head? h
    have hbehind : ∀ d, fraction.head? = some d → isFiller d = false := by
      intro d hd
      rcases hpoint with rfl | hpoint
      · cases hd
      · obtain rfl := Option.some.inj (hpoint.symm.trans hd)
        rfl
    exact (dropZeros?_zeros hall hbehind).trans (if_pos hpoint)
  · rcases List.eq_nil_or_concat' zeros with rfl | ⟨front, last, rfl⟩
    · rw [List.nil_append, List.cons_append, dropZeros?_cons fun h => absurd h hc0, hc]
      rfl
    · have hbehind : ∀ d, (c :: rest ++ fraction).head? = some d → isFiller d = false := by
        rintro d ⟨⟩
        exact Bool.eq_false_iff.2 fun h => (isFiller_iff.1 h).elim hc0 (ne_underscore hc)
      have hpoint : c ≠ '.' := by
        rintro rfl
        cases hc
      rw [List.append_assoc, List.singleton_append, dropZeros?_zeros hzeros hbehind]
      simp [hpoint, hc]

/-- Behind a minus there are no zeros to be dropped. -/
theorem dropZeros?_minus (cs : List Char) : dropZeros? ('-' :: cs) = some ('-' :: cs) := by
  rw [dropZeros?_cons (fun h => absurd h (by decide))]
  rfl

/-- A plus is dropped unless a minus follows it, and nothing else is. -/
theorem dropPlus?_eq_some_iff {cs kept : List Char} : dropPlus? cs = some kept ↔
    cs = kept ∧ kept.head? ≠ some '+' ∨ cs = '+' :: kept ∧ kept.head? ≠ some '-' := by
  fun_cases dropPlus? cs with
  | case1 rest =>
    refine iff_of_false nofun ?_
    rintro (⟨rfl, h⟩ | ⟨heq, h⟩)
    · exact h rfl
    · rw [← (List.cons.inj heq).2] at h
      exact h rfl
  | case2 rest hminus =>
    have hhead : rest.head? ≠ some '-' := fun h => by
      obtain ⟨behind, rfl⟩ := List.head?_eq_some_iff.1 h
      exact hminus behind rfl
    constructor
    · rintro ⟨⟩
      exact .inr ⟨rfl, hhead⟩
    · rintro (⟨rfl, h⟩ | ⟨heq, -⟩)
      · exact absurd rfl h
      · exact congrArg some (List.cons.inj heq).2
  | case3 _ _ hplus =>
    have hhead : cs.head? ≠ some '+' := fun h => by
      obtain ⟨behind, rfl⟩ := List.head?_eq_some_iff.1 h
      exact hplus behind rfl
    constructor
    · rintro ⟨⟩
      exact .inl ⟨rfl, hhead⟩
    · rintro (⟨rfl, -⟩ | ⟨rfl, -⟩)
      · rfl
      · exact absurd rfl hhead

/-- The characters that numerals in settings are made of. -/
def IsNumeralChar (c : Char) : Prop := isAsciiDigit c = true ∨ c ∈ ['+', '-', '_', '.']

theorem IsNumeralChar.isSpace_eq {c : Char} (h : IsNumeralChar c) : isSpace c = false := by
  rcases h with h | h
  · have hall : ∀ n < 58, 48 ≤ n → CodeRange.covers spaceRanges n = false := by decide
    simp only [isAsciiDigit, Bool.and_eq_true, decide_eq_true_eq, Char.le_def] at h
    exact hall c.toNat (Nat.lt_succ_of_le h.2) h.1
  · simp only [List.mem_cons, List.not_mem_nil, or_false] at h
    rcases h with rfl | rfl | rfl | rfl <;> decide

theorem GroupsDigits.isNumeralChar {digits body : List Char} (h : GroupsDigits digits body) :
    ∀ c ∈ body, IsNumeralChar c :=
  fun c hc => (h.mem_body c hc).imp_right (by rintro rfl; decide)

theorem IsZeros.isNumeralChar {zeros : List Char} (h : IsZeros zeros) :
    ∀ c ∈ zeros, IsNumeralChar c := by
  intro c hc
  rcases h.2 c hc with rfl | rfl
  · exact .inl rfl
  · exact .inr (by decide)

theorem IsZeroFraction.isNumeralChar {fraction : List Char} (h : IsZeroFraction fraction) :
    ∀ c ∈ fraction, IsNumeralChar c := by
  rcases h with rfl | ⟨count, rfl⟩
  · exact nofun
  · refine List.forall_mem_cons.2 ⟨.inr (by decide), fun c hc => ?_⟩
    rw [List.eq_of_mem_replicate hc]
    exact .inl rfl

/-- White space around a numeral is dropped. -/
theorem trimBoth_numeral {lead middle trail : List Char} (hlead : ∀ c ∈ lead, isSpace c = true)
    (hne : middle ≠ []) (hmiddle : ∀ c ∈ middle, IsNumeralChar c)
    (htrail : ∀ c ∈ trail, isSpace c = true) :
    trimBoth isSpace (lead ++ (middle ++ trail)) = middle := by
  obtain ⟨first, rest, hfirst⟩ := List.exists_cons_of_ne_nil hne
  obtain ⟨front, last, hlast⟩ := (List.eq_nil_or_concat' middle).resolve_left hne
  exact trimBoth_append hlead hfirst (hmiddle _ (by simp [hfirst])).isSpace_eq hlast
    (hmiddle _ (by simp [hlast])).isSpace_eq htrail

/-- A numeral is cleaned of spaces, a plus, leading zeros, a fraction of zeros and underscores, in
this order. -/
theorem cleanNumeral?_eq_some_iff {s : String} {cs : List Char} : cleanNumeral? s = some cs ↔
    ∃ unsigned kept, dropPlus? (trimBoth isSpace s.toList) = some unsigned ∧
      dropZeros? unsigned = some kept ∧ dropUnderscores (dropFraction kept) = cs := by
  simp [cleanNumeral?, Option.bind_eq_some_iff]

/-- A text behind which there is a plain numeral of a number is taken for it. -/
theorem isWholeNumeral_of_cleanNumeral? {s : String} {cs : List Char} {n : Int}
    (h : cleanNumeral? s = some cs) (hplain : IsPlainNumeral n cs) :
    IsWholeNumeral n s.toList := by
  obtain ⟨unsigned, kept, hplus, hzeros, hkept⟩ := cleanNumeral?_eq_some_iff.1 h
  obtain ⟨sign, digits, hsign, hne, hdigits, rfl⟩ := hplain.exists_sign
  -- Step by step, what has been dropped is put back.
  obtain ⟨mark, body, hbody, hkept, hmark⟩ := exists_groupsDigits hsign hne hdigits hkept
  obtain ⟨fraction, hfraction, rfl⟩ := exists_isZeroFraction hkept
  obtain ⟨zeros, hdropped, hminus, rfl⟩ := exists_isZeros hzeros
  obtain ⟨lead, trail, hlead, htrail, htext⟩ := exists_trimBoth_eq isSpace s.toList
  rw [htext]
  rcases List.mem_pair.1 hsign with rfl | rfl
  · obtain rfl : mark = [] := hmark.resolve_right fun h => nomatch h.1
    rcases dropPlus?_eq_some_iff.1 hplus with ⟨h, -⟩ | ⟨h, -⟩
    · rw [h]
      exact @IsWholeNumeral.unsigned n lead [] zeros digits body fraction trail hlead
        List.mem_cons_self hdropped hbody hplain hfraction htrail
    · rw [h]
      exact @IsWholeNumeral.unsigned n lead ['+'] zeros digits body fraction trail hlead
        (List.mem_cons_of_mem _ List.mem_cons_self) hdropped hbody hplain hfraction htrail
  · obtain rfl := hminus rfl
    rcases dropPlus?_eq_some_iff.1 hplus with ⟨h, -⟩ | ⟨-, h⟩
    · have hmark' : mark ∈ [[], ['_']] := List.mem_pair.2 (hmark.imp_right And.right)
      have hnumeral := IsWholeNumeral.negative hlead hmark' hbody hplain hfraction htrail
      rw [h]
      simpa only [List.nil_append, List.cons_append, List.append_assoc] using hnumeral
    · exact absurd rfl h

/-- What is found behind a text once the white space, a plus, zeros and a fraction are dropped. -/
theorem cleanNumeral?_of_parts {s : String} {lead middle trail unsigned front fraction : List Char}
    (htext : s.toList = lead ++ (middle ++ trail)) (hlead : ∀ c ∈ lead, isSpace c = true)
    (htrail : ∀ c ∈ trail, isSpace c = true) (hmiddle : ∀ c ∈ middle, IsNumeralChar c)
    (hne : middle ≠ []) (hplus : dropPlus? middle = some unsigned)
    (hzeros : dropZeros? unsigned = some (front ++ fraction)) (hfraction : IsZeroFraction fraction)
    (hfront : '.' ∉ front) : cleanNumeral? s = some (dropUnderscores front) := by
  refine cleanNumeral?_eq_some_iff.2 ⟨unsigned, _, ?_, hzeros, ?_⟩
  · rw [htext, trimBoth_numeral hlead hne hmiddle htrail, hplus]
  · rw [hfraction.append_dropFraction hfront]

theorem GroupsDigits.point_not_mem {digits body : List Char} (h : GroupsDigits digits body) :
    '.' ∉ body := by
  intro hmem
  rcases h.mem_body '.' hmem with h | h
  · exact absurd h (by decide)
  · exact absurd h (by decide)

/-- Zeros and digits start with a digit. -/
theorem exists_cons_of_isZeros {zeros digits body : List Char} (hzeros : IsZeros zeros)
    (hbody : GroupsDigits digits body) (behind : List Char) :
    ∃ c rest, isAsciiDigit c = true ∧ zeros ++ (body ++ behind) = c :: rest := by
  cases zeros with
  | nil =>
    obtain ⟨c, _, rest, rfl, rfl, hc⟩ := hbody.exists_cons
    exact ⟨c, _, hc, rfl⟩
  | cons z zeros =>
    obtain rfl : z = '0' := (hzeros.2 z List.mem_cons_self).resolve_right
      fun hz => hzeros.1 (congrArg some hz)
    exact ⟨'0', _, rfl, rfl⟩

/-- Behind a text that is taken for a number there is a plain numeral of it. -/
theorem IsWholeNumeral.exists_cleanNumeral? {s : String} {n : Int}
    (h : IsWholeNumeral n s.toList) : ∃ cs, cleanNumeral? s = some cs ∧ IsPlainNumeral n cs := by
  generalize htext : s.toList = text at h
  cases h with
  | @unsigned lead plus zeros digits body fraction trail hlead hplus hzeros hbody hplain hfraction
      htrail =>
    obtain ⟨c, rest, hc, hrest⟩ := exists_cons_of_isZeros hzeros hbody fraction
    have hmiddle : ∀ c ∈ plus ++ (zeros ++ (body ++ fraction)), IsNumeralChar c := by
      refine List.forall_mem_append.2 ⟨?_, List.forall_mem_append.2 ⟨hzeros.isNumeralChar,
        List.forall_mem_append.2 ⟨hbody.isNumeralChar, hfraction.isNumeralChar⟩⟩⟩
      rcases List.mem_pair.1 hplus with rfl | rfl
      · exact nofun
      · exact List.forall_mem_singleton.2 (.inr (by decide))
    have hdropped : dropPlus? (plus ++ (zeros ++ (body ++ fraction))) =
        some (zeros ++ (body ++ fraction)) := by
      have hne : ∀ d, isAsciiDigit d = false → (c :: rest).head? ≠ some d := by
        rintro d hd ⟨⟩
        rw [hc] at hd
        cases hd
      rw [dropPlus?_eq_some_iff, hrest]
      rcases List.mem_pair.1 hplus with rfl | rfl
      · exact .inl ⟨rfl, hne '+' rfl⟩
      · exact .inr ⟨rfl, hne '-' rfl⟩
    have hclean := cleanNumeral?_of_parts htext hlead htrail hmiddle (by simp [hrest]) hdropped
      (hzeros.dropZeros?_append hbody hplain.eq_zero hfraction) hfraction hbody.point_not_mem
    rw [dropUnderscores_of_groupsDigits hbody] at hclean
    exact ⟨digits, hclean, hplain⟩
  | @negative lead mark digits body fraction trail hlead hmark hbody hplain hfraction htrail =>
    have hmark' : (∀ c ∈ mark, IsNumeralChar c) ∧ '.' ∉ mark := by
      rcases List.mem_pair.1 hmark with rfl | rfl
      · exact ⟨nofun, nofun⟩
      · exact ⟨List.forall_mem_singleton.2 (.inr (by decide)), by decide⟩
    have hmiddle : ∀ c ∈ '-' :: (mark ++ (body ++ fraction)), IsNumeralChar c :=
      List.forall_mem_cons.2 ⟨.inr (by decide), List.forall_mem_append.2 ⟨hmark'.1,
        List.forall_mem_append.2 ⟨hbody.isNumeralChar, hfraction.isNumeralChar⟩⟩⟩
    have hzeros : dropZeros? ('-' :: (mark ++ (body ++ fraction))) =
        some ('-' :: (mark ++ body) ++ fraction) := by
      rw [dropZeros?_minus, List.cons_append, List.append_assoc]
    have hfront : '.' ∉ '-' :: (mark ++ body) := by
      simp [hmark'.2, hbody.point_not_mem]
    have hclean := cleanNumeral?_of_parts htext hlead htrail hmiddle (List.cons_ne_nil _ _)
      (dropPlus?_eq_some_iff.2 (.inl ⟨rfl, by simp⟩)) hzeros hfraction hfront
    rw [dropUnderscores_minus hbody hmark] at hclean
    exact ⟨'-' :: digits, hclean, hplain⟩

/-- Behind a text there is a plain numeral of a number exactly if the text is taken for it. -/
theorem cleanNumeral?_iff {s : String} {n : Int} :
    (∃ cs, cleanNumeral? s = some cs ∧ IsPlainNumeral n cs) ↔ IsWholeNumeral n s.toList := by
  refine ⟨?_, IsWholeNumeral.exists_cleanNumeral?⟩
  rintro ⟨cs, hclean, hplain⟩
  exact isWholeNumeral_of_cleanNumeral? hclean hplain

end ElementQuery.Settings
