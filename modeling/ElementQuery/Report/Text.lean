import ElementQuery.Query.Error
import ElementQuery.Regex.Template

/-!
# Texts of a report

A report is meant for one line of bounded length, so line breaks in a text are replaced and a long
text is cut.

## Main definitions

* `replaceBreaks` : a text with each line break replaced.
* `eliminateBreaks` : the same by a replacement template.
* `truncate` : a text cut to a number of characters.
-/

namespace ElementQuery.Report

/-- A text with each line break replaced by what `expand` makes of it. A carriage return and a
line feed together are one break. -/
def replaceBreaks (expand : List Char → List Char) : List Char → List Char
  | [] => []
  | '\r' :: '\n' :: rest => expand ['\r', '\n'] ++ replaceBreaks expand rest
  | c :: rest =>
    if c = '\r' ∨ c = '\n' then expand [c] ++ replaceBreaks expand rest
    else c :: replaceBreaks expand rest

/-- A text without line breaks stays as it is. -/
theorem replaceBreaks_eq_self {expand : List Char → List Char} {cs : List Char}
    (h : ∀ c ∈ cs, c ≠ '\r' ∧ c ≠ '\n') : replaceBreaks expand cs = cs := by
  fun_induction replaceBreaks expand cs with
  | case1 => rfl
  | case2 rest ih => exact absurd rfl (h '\r' (by simp)).1
  | case3 c rest _ hc ih =>
    have := h c (by simp)
    exact absurd hc (by simp [this])
  | case4 c rest _ hc ih =>
    rw [ih fun d hd => h d (by simp [hd])]

/-- A text with each line break replaced as a template says. The empty text stays as it is, even
if the template is malformed. -/
def eliminateBreaks (replacement text : String) : Except Regex.Error String :=
  if text = "" then return ""
  else do
    let template ← Regex.Template.parse replacement
    return String.ofList (replaceBreaks (fun m => template.expand m) text.toList)

/-- The first `limit` of some items; a negative limit leaves that many out at the end. -/
def takeInt {α : Type} (limit : Int) (items : List α) : List α :=
  if 0 ≤ limit then items.take limit.toNat else items.take (items.length - limit.natAbs)

/-- No more items are taken than the limit says. -/
theorem length_takeInt_le {α : Type} {limit : Int} (h : 0 ≤ limit) (items : List α) :
    (takeInt limit items).length ≤ limit.toNat := by
  rw [takeInt, if_pos h, List.length_take]
  exact Nat.min_le_left _ _

/-- The first `limit` characters of a text, and a mark if it had more. -/
def truncate (limit : Int) (ellipsis text : String) : String :=
  if limit < text.length then
    if text = "" then "" else String.ofList (takeInt limit text.toList) ++ ellipsis
  else text

end ElementQuery.Report
