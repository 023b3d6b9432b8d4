import ElementQuery.Regex.Cursor
import Mathlib.Data.List.Induction

/-!
# Digits that are written and read back

Numbers are written with the standard digits of a base and read by `Regex.ofDigits`, which takes
capital and small letters alike and does not mind zeros in front.

## Main statements

* `ofDigits_toDigits` : reading what is written gives the number.
* `ofDigits_zeros` : zeros in front change nothing.
* `ofDigits_lt` : how great a number of so many digits can be.
-/

namespace ElementQuery.Number

open ElementQuery.Regex

/-- One more digit makes a number greater by its place. -/
theorem ofDigits_append (base : Nat) (cs : List Char) (c : Char) :
    ofDigits base (cs ++ [c]) = base * ofDigits base cs + hexValue c := by
  simp [ofDigits]

/-- Zeros in front change nothing. -/
theorem ofDigits_zeros (base zeros : Nat) (cs : List Char) :
    ofDigits base (List.replicate zeros '0' ++ cs) = ofDigits base cs := by
  induction zeros with
  | zero => rfl
  | succ zeros ih =>
    have hzero : base * 0 + hexValue '0' = 0 := by
      rw [Nat.mul_zero]
      rfl
    rw [List.replicate_succ, List.cons_append, ofDigits, List.foldl_cons, hzero]
    exact ih

theorem hexValue_digitChar {d : Nat} (h : d < 16) : hexValue (Nat.digitChar d) = d := by
  have hall : ∀ d < 16, hexValue (Nat.digitChar d) = d := by decide
  exact hall d h

theorem isHexDigit_digitChar {d : Nat} (h : d < 16) : isHexDigit (Nat.digitChar d) = true := by
  have hall : ∀ d < 16, isHexDigit (Nat.digitChar d) = true := by decide
  exact hall d h

/-- Reading the digits that a number is written with gives the number. -/
theorem ofDigits_toDigits {base : Nat} (hbase : 1 < base) (hle : base ≤ 16) (n : Nat) :
    ofDigits base (Nat.toDigits base n) = n := by
  induction n using Nat.strongRecOn with
  | _ n ih =>
    by_cases hn : n < base
    · rw [Nat.toDigits_of_lt_base hn]
      simp [ofDigits, hexValue_digitChar (by omega : n < 16)]
    · have hn : base ≤ n := Nat.le_of_not_lt hn
      have hmod : n % base < base := Nat.mod_lt n (by omega)
      -- The last digit is the remainder, and the digits before it are those of the quotient.
      rw [Nat.toDigits_of_base_le hbase hn, ofDigits_append, hexValue_digitChar (by omega),
        ih (n / base) (Nat.div_lt_self (by omega) hbase), Nat.div_add_mod]

theorem isHexDigit_of_mem_toDigits {base : Nat} (hbase : 1 < base) (hle : base ≤ 16) (n : Nat) :
    ∀ c ∈ Nat.toDigits base n, isHexDigit c = true := by
  induction n using Nat.strongRecOn with
  | _ n ih =>
    by_cases hn : n < base
    · rw [Nat.toDigits_of_lt_base hn]
      intro c hc
      rw [List.mem_singleton.1 hc]
      exact isHexDigit_digitChar (by omega)
    · have hn : base ≤ n := Nat.le_of_not_lt hn
      have hmod : n % base < base := Nat.mod_lt n (by omega)
      rw [Nat.toDigits_of_base_le hbase hn]
      intro c hc
      rcases List.mem_append.1 hc with hc | hc
      · exact ih (n / base) (Nat.div_lt_self (by omega) hbase) c hc
      · rw [List.mem_singleton.1 hc]
        exact isHexDigit_digitChar (by omega)

theorem hexValue_lt {c : Char} (h : Text.isAsciiDigit c = true) : hexValue c < 10 := by
  rw [hexValue, if_pos h]
  simp only [Text.isAsciiDigit, Bool.and_eq_true, decide_eq_true_eq, Char.le_def] at h
  have hle : c.toNat ≤ 57 := h.2
  omega

/-- As many decimal digits spell a number below a power of ten. -/
theorem ofDigits_lt {cs : List Char} (h : ∀ c ∈ cs, Text.isAsciiDigit c = true) :
    ofDigits 10 cs < Nat.pow 10 cs.length := by
  induction cs using List.reverseRecOn with
  | nil => exact Nat.zero_lt_one
  | append_singleton cs c ih =>
    obtain ⟨hcs, hc⟩ := List.forall_mem_append.1 h
    have hlast := hexValue_lt (hc c List.mem_cons_self)
    have hfront := ih hcs
    rw [ofDigits_append, List.length_append, List.length_singleton]
    change _ < Nat.pow 10 cs.length * 10
    omega

theorem isAsciiDigit_of_mem_toDigits {n : Nat} {c : Char} (h : c ∈ Nat.toDigits 10 n) :
    Text.isAsciiDigit c = true := by
  have hdigit := Nat.isDigit_of_mem_toDigits (by decide) (by decide) h
  simpa [Text.isAsciiDigit, Char.isDigit, Char.le_def] using hdigit

end ElementQuery.Number
