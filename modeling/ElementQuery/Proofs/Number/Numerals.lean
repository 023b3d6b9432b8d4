import ElementQuery.Number.Binary64
import Mathlib.Algebra.Field.Rat
import Mathlib.Algebra.Order.Ring.Rat
import Mathlib.Data.List.Induction
import Mathlib.Data.List.TakeWhile
import Mathlib.Data.Nat.Digits.Defs

/-!
# Numerals and whole numbers

Which texts spell which whole number, and which floating point numbers are whole. A numeral is
decimal digits of any script, between two of which a single underscore may stand, with a sign in
front and white space around it. The number is what the digits come to, whatever script they are of
and however many zeros stand in front. A floating point number is whole if its exact value is.

## Main definitions

* `SpellsDigits` : the texts of decimal digits.
* `IsNumeral` : the texts that spell a whole number.
* `Binary64.value?` : the exact value of a floating point number.

## Main statements

* `readInt?_eq_some_iff` : a text is read as a number exactly if it is a numeral of it.
* `Binary64.toInt?_eq_some_iff` : a floating point number is taken as a whole number exactly if it
  is equal to it.
-/

namespace ElementQuery.Number

open ElementQuery.Text

/-- Decimal digits of any script with their values, a single underscore allowed between two. -/
inductive SpellsDigits : List Nat → List Char → Prop where
  | last {c : Char} {d : Nat} (h : digitValue? c = some d) : SpellsDigits [d] [c]
  | next {c : Char} {d : Nat} {ds : List Nat} {rest : List Char} (h : digitValue? c = some d)
      (hrest : SpellsDigits ds rest) : SpellsDigits (d :: ds) (c :: rest)
  | apart {c : Char} {d : Nat} {ds : List Nat} {rest : List Char} (h : digitValue? c = some d)
      (hrest : SpellsDigits ds rest) : SpellsDigits (d :: ds) (c :: '_' :: rest)

/-- The texts that spell a whole number: digits, not too many of them, with a sign in front and
white space around them. -/
inductive IsNumeral : Int → List Char → Prop where
  | intro {lead sign body trail : List Char} {digits : List Nat}
      (hlead : ∀ c ∈ lead, isSpace c = true) (hsign : sign ∈ [[], ['+'], ['-']])
      (hbody : SpellsDigits digits body) (hlength : digits.length ≤ maxDigits)
      (htrail : ∀ c ∈ trail, isSpace c = true) :
      IsNumeral (signed (sign == ['-']) (Nat.ofDigits 10 digits.reverse))
        (lead ++ (sign ++ body ++ trail))

/-- The exact value of a floating point number, infinities and the like left out. -/
def Binary64.value? : Binary64 → Option ℚ
  | finite negative significand exponent =>
    some ((if negative then -1 else 1) * significand * 2 ^ exponent)
  | _ => none

theorem digitRun?_cons {c : Char} {rest : List Char} :
    digitRun? (c :: rest) = (digitValue? c).bind fun d => (moreDigits? rest).map (d :: ·) := by
  rw [digitRun?]
  cases digitValue? c <;> cases moreDigits? rest <;> rfl

/-- Behind a digit the next one may stand behind an underscore. -/
theorem moreDigits?_underscore (c : Char) (rest : List Char) :
    moreDigits? ('_' :: c :: rest) = digitRun? (c :: rest) := rfl

theorem moreDigits?_digit {c : Char} {rest : List Char} (h : c = '_' → rest = []) :
    moreDigits? (c :: rest) = digitRun? (c :: rest) := by
  rw [moreDigits?, digitRun?]
  rintro d rest' rfl rfl
  cases h rfl

theorem digitValue?_underscore : digitValue? '_' = none := by decide

namespace SpellsDigits

variable {ds : List Nat} {cs : List Char}

theorem exists_cons (h : SpellsDigits ds cs) :
    ∃ c rest d, cs = c :: rest ∧ digitValue? c = some d := by
  cases h with
  | last h => exact ⟨_, _, _, rfl, h⟩
  | next h => exact ⟨_, _, _, rfl, h⟩
  | apart h => exact ⟨_, _, _, rfl, h⟩

/-- The text ends with a digit, too. -/
theorem exists_concat (h : SpellsDigits ds cs) :
    ∃ front c d, cs = front ++ [c] ∧ digitValue? c = some d := by
  induction h with
  | last h => exact ⟨[], _, _, rfl, h⟩
  | next _ _ ih =>
    obtain ⟨front, c, d, rfl, h⟩ := ih
    exact ⟨_ :: front, c, d, rfl, h⟩
  | apart _ _ ih =>
    obtain ⟨front, c, d, rfl, h⟩ := ih
    exact ⟨_ :: '_' :: front, c, d, rfl, h⟩

theorem lt_ten (h : SpellsDigits ds cs) : ∀ d ∈ ds, d < 10 := by
  induction h with
  | last h => exact List.forall_mem_singleton.2 (digitValue?_lt h)
  | next h _ ih => exact List.forall_mem_cons.2 ⟨digitValue?_lt h, ih⟩
  | apart h _ ih => exact List.forall_mem_cons.2 ⟨digitValue?_lt h, ih⟩

theorem moreDigits?_eq (h : SpellsDigits ds cs) : moreDigits? cs = digitRun? cs := by
  obtain ⟨c, rest, d, rfl, hc⟩ := h.exists_cons
  refine moreDigits?_digit ?_
  rintro rfl
  rw [digitValue?_underscore] at hc
  cases hc

/-- Spelled digits are read as what they spell. -/
theorem digitRun?_eq (h : SpellsDigits ds cs) : digitRun? cs = some ds := by
  induction h with
  | last h =>
    rw [digitRun?_cons, h]
    rfl
  | next h hrest ih =>
    rw [digitRun?_cons, h, hrest.moreDigits?_eq, ih]
    rfl
  | apart h hrest ih =>
    obtain ⟨c, rest, _, rfl, -⟩ := hrest.exists_cons
    rw [digitRun?_cons, h, moreDigits?_underscore, ih]
    rfl

end SpellsDigits

/-- The digits that are read are those that are spelled. -/
theorem digitRun?_eq_some_iff {cs : List Char} {ds : List Nat} :
    digitRun? cs = some ds ↔ SpellsDigits ds cs := by
  refine ⟨fun h => ?_, SpellsDigits.digitRun?_eq⟩
  match cs with
  | [] => cases h
  | c :: rest =>
    rw [digitRun?_cons] at h
    obtain ⟨d, hd, h⟩ := Option.bind_eq_some_iff.1 h
    obtain ⟨more, hmore, rfl⟩ := Option.map_eq_some_iff.1 h
    match rest with
    | [] =>
      cases hmore
      exact .last hd
    | ['_'] => cases hmore
    | '_' :: c' :: rest => exact .apart hd (digitRun?_eq_some_iff.1 hmore)
    | c' :: rest =>
      by_cases hc : c' = '_' → rest = []
      · rw [moreDigits?_digit hc] at hmore
        exact .next hd (digitRun?_eq_some_iff.1 hmore)
      · obtain ⟨rfl, hne⟩ := Classical.not_imp.1 hc
        obtain ⟨c', rest, rfl⟩ := List.exists_cons_of_ne_nil hne
        exact .apart hd (digitRun?_eq_some_iff.1 hmore)

/-- What stands between blanks, and is none at its ends, is what is left of all. -/
theorem trimBoth_append {drops : Char → Bool} {lead middle trail front rest : List Char}
    {first last : Char} (hlead : ∀ c ∈ lead, drops c = true)
    (hfirst : middle = first :: rest) (hfirstKept : drops first = false)
    (hlast : middle = front ++ [last]) (hlastKept : drops last = false)
    (htrail : ∀ c ∈ trail, drops c = true) :
    trimBoth drops (lead ++ (middle ++ trail)) = middle := by
  have hdropped : (lead ++ (middle ++ trail)).dropWhile drops = middle ++ trail := by
    rw [List.dropWhile_append_of_pos hlead, hfirst, List.cons_append,
      List.dropWhile_cons_of_neg (by simp [hfirstKept])]
  have htrail' : ∀ c ∈ trail.reverse, drops c = true := fun c hc => htrail c (List.mem_reverse.1 hc)
  rw [trimBoth, hdropped, List.reverse_append, List.dropWhile_append_of_pos htrail', hlast,
    List.reverse_append, List.reverse_singleton, List.singleton_append,
    List.dropWhile_cons_of_neg (by simp [hlastKept]), List.reverse_cons, List.reverse_reverse]

/-- A trimmed text is the text without what is dropped at its ends. -/
theorem exists_trimBoth_eq (drops : Char → Bool) (cs : List Char) : ∃ lead trail,
    (∀ c ∈ lead, drops c = true) ∧ (∀ c ∈ trail, drops c = true) ∧
      cs = lead ++ (trimBoth drops cs ++ trail) := by
  let kept := cs.dropWhile drops
  refine ⟨cs.takeWhile drops, (kept.reverse.takeWhile drops).reverse,
    fun c hc => List.mem_takeWhile_imp hc,
    fun c hc => List.mem_takeWhile_imp (List.mem_reverse.1 hc), ?_⟩
  have hkept : trimBoth drops cs ++ (kept.reverse.takeWhile drops).reverse = kept := by
    rw [trimBoth, ← List.reverse_append, List.takeWhile_append_dropWhile, List.reverse_reverse]
  rw [hkept, List.takeWhile_append_dropWhile]

/-- A decimal digit of any script is no white space. -/
theorem isSpace_of_digitValue? {c : Char} {d : Nat} (h : digitValue? c = some d) :
    isSpace c = false := by
  have hapart : ∀ z ∈ digitZeros, ∀ r ∈ spaceRanges, r.2 < z ∨ z + 10 ≤ r.1 := by decide
  obtain ⟨z, hz, -⟩ := Option.map_eq_some_iff.1 h
  have hcode := List.find?_some hz
  simp only [Bool.and_eq_true, decide_eq_true_eq] at hcode
  by_contra hspace
  rw [Bool.not_eq_false] at hspace
  obtain ⟨r, hr, hfirst, hlast⟩ := CodeRange.exists_mem_of_covers hspace
  rcases hapart z (List.mem_of_find?_eq_some hz) r hr with hr | hr <;> omega

/-- A sign is split off a text, and nothing else is. -/
theorem exists_splitSign_eq (cs : List Char) :
    ∃ sign ∈ [[], ['+'], ['-']], cs = sign ++ (splitSign cs).2 ∧
      (splitSign cs).1 = (sign == ['-']) := by
  fun_cases splitSign cs with
  | case1 rest => exact ⟨['-'], by simp, rfl, rfl⟩
  | case2 rest => exact ⟨['+'], by simp, rfl, rfl⟩
  | case3 => exact ⟨[], by simp, rfl, rfl⟩

theorem splitSign_digit {c : Char} {d : Nat} (h : digitValue? c = some d) {sign : List Char}
    (hsign : sign ∈ [[], ['+'], ['-']]) (rest : List Char) :
    splitSign (sign ++ c :: rest) = (sign == ['-'], c :: rest) := by
  have hsigns : digitValue? '+' = none ∧ digitValue? '-' = none := by decide
  have hplus : c ≠ '+' := by
    rintro rfl
    cases hsigns.1.symm.trans h
  have hminus : c ≠ '-' := by
    rintro rfl
    cases hsigns.2.symm.trans h
  simp only [List.mem_cons, List.not_mem_nil, or_false] at hsign
  rcases hsign with rfl | rfl | rfl
  · rw [List.nil_append, splitSign]
    · rfl
    · rintro rest' ⟨⟩
      exact hminus rfl
    · rintro rest' ⟨⟩
      exact hplus rfl
  · rfl
  · rfl

/-- Digits are read from the first to the last. -/
theorem ofDigitList_eq (digits : List Nat) :
    ofDigitList digits = Nat.ofDigits 10 digits.reverse := by
  induction digits using List.reverseRecOn with
  | nil => rfl
  | append_singleton ds d ih =>
    rw [List.reverse_append, List.reverse_singleton, List.singleton_append, Nat.ofDigits_cons, ← ih,
      ofDigitList, List.foldl_append]
    exact Nat.add_comm _ _

theorem natAbs_signed (negative : Bool) (n : Nat) : (signed negative n).natAbs = n := by
  cases negative <;> simp [signed]

/-- A number of at most so many digits can be written with any sign. -/
theorem printable_signed (negative : Bool) {n digits : Nat} (hn : n < 10 ^ digits)
    (hdigits : digits ≤ maxDigits) : Printable (signed negative n) := by
  unfold Printable
  -- Only that the bound is no less than the number of digits counts, not the power itself.
  generalize maxDigits = k at hdigits ⊢
  rw [natAbs_signed, Nat.pow_eq]
  exact hn.trans_le (Nat.pow_le_pow_right (by decide) hdigits)

theorem readInt?_eq (s : String) :
    readInt? s = (digitRun? (splitSign (trimBoth isSpace s.toList)).2).bind fun digits =>
      if digits.length ≤ maxDigits then
        some (signed (splitSign (trimBoth isSpace s.toList)).1 (ofDigitList digits))
      else none := rfl

/-- A text is read as a number exactly if it is a numeral of it. -/
theorem readInt?_eq_some_iff {s : String} {n : Int} :
    readInt? s = some n ↔ IsNumeral n s.toList := by
  rw [readInt?_eq]
  generalize s.toList = cs
  constructor
  · intro h
    obtain ⟨digits, hdigits, h⟩ := Option.bind_eq_some_iff.1 h
    obtain ⟨hlength, h⟩ := Option.ite_none_right_eq_some.1 h
    cases h
    obtain ⟨lead, trail, hlead, htrail, htext⟩ := exists_trimBoth_eq isSpace cs
    obtain ⟨sign, hsign, hsplit, hnegative⟩ := exists_splitSign_eq (trimBoth isSpace cs)
    have hnumeral := IsNumeral.intro hlead hsign (digitRun?_eq_some_iff.1 hdigits) hlength htrail
    rwa [← hsplit, ← htext, ← hnegative, ← ofDigitList_eq] at hnumeral
  · rintro (@⟨lead, sign, body, trail, digits, hlead, hsign, hbody, hlength, htrail⟩)
    obtain ⟨c, rest, d, hcons, hc⟩ := hbody.exists_cons
    obtain ⟨front, c', d', hconcat, hc'⟩ := hbody.exists_concat
    -- What the white space stands around starts with the sign or a digit and ends with a digit.
    have htrim : trimBoth isSpace (lead ++ (sign ++ body ++ trail)) = sign ++ body := by
      have hlast : sign ++ body = sign ++ front ++ [c'] := by
        rw [hconcat, List.append_assoc]
      have hfirst : ∃ first rest, sign ++ body = first :: rest ∧ isSpace first = false := by
        simp only [List.mem_cons, List.not_mem_nil, or_false] at hsign
        rcases hsign with rfl | rfl | rfl
        · exact ⟨c, rest, hcons, isSpace_of_digitValue? hc⟩
        · exact ⟨'+', body, rfl, by decide⟩
        · exact ⟨'-', body, rfl, by decide⟩
      obtain ⟨first, rest', hfirst, hspace⟩ := hfirst
      exact trimBoth_append hlead hfirst hspace hlast (isSpace_of_digitValue? hc') htrail
    have hsplit : splitSign (sign ++ body) = (sign == ['-'], body) := by
      rw [hcons]
      exact splitSign_digit hc hsign rest
    rw [htrim, hsplit, hbody.digitRun?_eq, Option.bind_some, if_pos hlength, ofDigitList_eq]

/-- A text is read as a number only if that is short enough to be written again. -/
theorem printable_of_readInt? {s : String} {n : Int} (h : readInt? s = some n) : Printable n := by
  obtain ⟨_, hdigits, h⟩ := Option.bind_eq_some_iff.1 ((readInt?_eq s).symm.trans h)
  obtain ⟨hlength, h⟩ := Option.ite_none_right_eq_some.1 h
  cases h
  rw [ofDigitList_eq]
  refine printable_signed _ (Nat.ofDigits_lt_base_pow_length (by decide) fun d hd => ?_) ?_
  · exact (digitRun?_eq_some_iff.1 hdigits).lt_ten d (List.mem_reverse.1 hd)
  · rwa [List.length_reverse]

/-- A digit can be spelled any number of times. -/
theorem spellsDigits_replicate {c : Char} {d : Nat} (h : digitValue? c = some d) (k : Nat) :
    SpellsDigits (List.replicate (k + 1) d) (List.replicate (k + 1) c) := by
  induction k with
  | zero => exact .last h
  | succ k ih => exact .next h ih

/-- A row of nines is one less than the next power of ten. -/
theorem ofDigits_nines (k : Nat) : Nat.ofDigits 10 (List.replicate k 9) + 1 = 10 ^ k := by
  induction k with
  | zero => rfl
  | succ k ih =>
    rw [List.replicate_succ, Nat.ofDigits_cons, Nat.pow_succ, ← ih]
    omega

/-- A numeral can have as many nines as it can have digits. -/
theorem isNumeral_nines : IsNumeral (Nat.ofDigits 10 (List.replicate maxDigits 9) : Nat)
    (List.replicate maxDigits '9') := by
  have hpos : 0 < maxDigits := by decide
  have hlength : (List.replicate maxDigits 9).length ≤ maxDigits := by rw [List.length_replicate]
  obtain ⟨k, hk⟩ := Nat.exists_eq_add_one_of_ne_zero hpos.ne'
  have hbody : SpellsDigits (List.replicate maxDigits 9) (List.replicate maxDigits '9') := by
    rw [hk]
    exact spellsDigits_replicate (by decide) k
  have hnumeral := @IsNumeral.intro [] [] _ [] _ (List.forall_mem_nil _) (by simp) hbody hlength
    (List.forall_mem_nil _)
  rwa [List.reverse_replicate, List.nil_append, List.nil_append, List.append_nil] at hnumeral

/-- Its successor has one digit too many to be written. -/
theorem not_printable_nines :
    ¬Printable ((Nat.ofDigits 10 (List.replicate maxDigits 9) : Nat) + 1) := by
  unfold Printable
  generalize maxDigits = k
  rw [← Int.natCast_succ, Int.natAbs_natCast, Nat.pow_eq, ← ofDigits_nines]
  exact Nat.lt_irrefl _

theorem cast_signed (negative : Bool) (n : Nat) :
    ((signed negative n : Int) : ℚ) = (if negative then -1 else 1) * n := by
  cases negative <;> simp [signed]

theorem signed_mul (negative : Bool) (m n : Nat) :
    signed negative (m * n) = signed negative m * n := by
  cases negative <;> simp [signed]

/-- A floating point number is taken as a whole number exactly if it is equal to it. -/
theorem Binary64.toInt?_eq_some_iff {x : Binary64} {n : Int} :
    x.toInt? = some n ↔ x.value? = some (n : ℚ) := by
  cases x with
  | nan => simp [toInt?, value?]
  | infinite _ => simp [toInt?, value?]
  | finite negative significand exponent =>
    rw [value?, Option.some_inj, ← cast_signed]
    cases exponent with
    | ofNat k =>
      have hnonneg : 0 ≤ Int.ofNat k := Int.natCast_nonneg k
      rw [toInt?, if_pos hnonneg, Option.some_inj, signed_mul, ← @Int.cast_inj ℚ]
      simp
    | negSucc k =>
      have hunit : (2 : ℚ) ^ (k + 1) ≠ 0 := pow_ne_zero _ two_ne_zero
      have hvalue : (signed negative significand : ℚ) * 2 ^ Int.negSucc k = n ↔
          signed negative significand = n * (2 ^ (k + 1) : Nat) := by
        rw [zpow_negSucc, mul_inv_eq_iff_eq_mul₀ hunit, ← @Int.cast_inj ℚ]
        simp
      rw [hvalue, toInt?, if_neg (by simp)]
      change (if significand % 2 ^ (k + 1) = 0 then
        some (signed negative (significand / 2 ^ (k + 1))) else none) = some n ↔ _
      have hpos : 0 < 2 ^ (k + 1) := Nat.two_pow_pos _
      -- The number is whole if the unit in the last place divides the significand.
      generalize 2 ^ (k + 1) = unit at hpos
      by_cases hdvd : unit ∣ significand
      · obtain ⟨q, rfl⟩ := hdvd
        rw [if_pos (Nat.mul_mod_right unit q), Option.some_inj, Nat.mul_div_cancel_left q hpos,
          Nat.mul_comm unit q, signed_mul]
        exact (mul_left_inj' (Int.natCast_ne_zero.2 hpos.ne')).symm
      · rw [if_neg fun hmod => hdvd (Nat.dvd_of_mod_eq_zero hmod)]
        refine iff_of_false (Option.some_ne_none _).symm fun heq => hdvd ?_
        have habs := congrArg Int.natAbs heq
        rw [natAbs_signed, Int.natAbs_mul, Int.natAbs_natCast] at habs
        exact ⟨n.natAbs, by rw [habs, Nat.mul_comm]⟩

end ElementQuery.Number
