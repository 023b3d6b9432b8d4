/-!
# Sets of characters given by code point ranges

A character class of the Unicode standard is kept as the ascending list of its inclusive code
point ranges. `CodeRange.covers` looks a code point up and stops at the first range that ends
at or above it.

## Main definitions

* `CodeRange` : a first and a last code point, both included.
* `CodeRange.covers` : whether an ascending list of ranges holds a code point.
-/

namespace ElementQuery.Text

/-- A run of code points: the first one and the last one, both included. -/
abbrev CodeRange := Nat × Nat

/-- Whether some range of the ascending list `ranges` holds the code point `code`. -/
def CodeRange.covers : List CodeRange → Nat → Bool
  | [], _ => false
  | (first, last) :: rest, code =>
    if code ≤ last then first ≤ code else CodeRange.covers rest code

@[simp] theorem CodeRange.covers_nil (code : Nat) : CodeRange.covers [] code = false := rfl

/-- A covered code point lies between the ends of a listed range. -/
theorem CodeRange.exists_mem_of_covers {ranges : List CodeRange} {code : Nat}
    (h : CodeRange.covers ranges code = true) :
    ∃ r ∈ ranges, r.1 ≤ code ∧ code ≤ r.2 := by
  induction ranges with
  | nil => simp at h
  | cons r rest ih =>
    obtain ⟨first, last⟩ := r
    simp only [CodeRange.covers] at h
    split at h
    · exact ⟨(first, last), List.mem_cons_self, by simpa using h, by assumption⟩
    · obtain ⟨r, hr, hb⟩ := ih h
      exact ⟨r, List.mem_cons_of_mem _ hr, hb⟩

end ElementQuery.Text
