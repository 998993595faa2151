import GraphSketch.Text.Basic
import Mathlib.Data.Char
import Mathlib.Data.List.Lex

/-!
# The order of texts

`Text.before` is the order in which the files of a directory are converted and attributes are
written. It is the strict order of lists of characters (`before_iff_lt`), in which any two texts
can be compared (`before_eq_false_iff_le`).

So what is known of linear orders holds of it: a list that is sorted by names which are all
different is the only one with its members that is sorted so, and `List.mergeSort` and
`List.insertionSort` both come to it.  Characters are compared by their code points, and a text
comes before all texts that it begins.
-/

set_option autoImplicit false

namespace GraphSketch

namespace Text

theorem before_iff_lt : ∀ {t u : Text}, before t u = true ↔ t < u
  | t, [] => by simp [before]
  | [], d :: ds => by simp [before]
  | c :: cs, d :: ds => by
    rw [before, Bool.or_eq_true, Bool.and_eq_true, before_iff_lt, List.cons_lt_cons_iff]
    simp only [decide_eq_true_eq]
    exact Iff.rfl

theorem before_eq_false_iff_le {t u : Text} : before u t = false ↔ t ≤ u := by
  rw [Bool.eq_false_iff, ne_eq, before_iff_lt, not_lt]

end Text

end GraphSketch
