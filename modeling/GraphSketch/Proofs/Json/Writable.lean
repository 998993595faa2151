import GraphSketch.Proofs.Json.RoundTrip

/-!
# Values that can be written

Only an integer can stand in the way of writing a value: a value cannot be written exactly if the
mark that stands for such an integer is in what is written of it (`isWritable_eq_false_iff`).  So it
can be written if all its parts can, and texts do not matter, whatever is in them.

* `mark_notMem_quote` — the mark that stands for such an integer is no character of a written
  string, not even where the string holds it, because it is escaped there.
* `mark_mem_prettyAt_arr`, `mark_mem_prettyAt_obj` — the mark is in what is written of a list or
  an object exactly if it is in what is written of an item or of the value of a field.
* `isWritable_obj_text` — a text under any name leaves an object as writable as it was.
-/

set_option autoImplicit false

namespace GraphSketch

namespace Json

theorem mark_notMem_quote (t : Text) : mark ∉ quote t := fun h => by
  have := printable_of_mem_quote h
  revert this
  decide

theorem mark_notMem_newLine (lvl : Nat) : mark ∉ newLine lvl := by
  simp [newLine, mark]

theorem mark_mem_prettyItems {lvl : Nat} : ∀ {items : List Json},
    mark ∈ prettyItems lvl items ↔ ∃ v ∈ items, mark ∈ prettyAt lvl v
  | [] => by simp
  | v :: items => by
    have hcomma : mark ≠ ',' := by decide
    simp only [prettyItems, List.mem_cons, List.mem_append, hcomma, mark_notMem_newLine, false_or,
      mark_mem_prettyItems, exists_eq_or_imp]

theorem mark_mem_prettyFields {lvl : Nat} : ∀ {fields : List (Text × Json)},
    mark ∈ prettyFields lvl fields ↔ ∃ e ∈ fields, mark ∈ prettyAt lvl e.2
  | [] => by simp
  | (key, v) :: fields => by
    have hcomma : mark ≠ ',' := by decide
    have hcolon : mark ∉ (": " : Text) := by decide
    simp only [prettyFields, List.mem_cons, List.mem_append, hcomma, mark_notMem_newLine,
      mark_notMem_quote, hcolon, false_or, mark_mem_prettyFields, exists_eq_or_imp]

theorem mark_mem_prettyAt_arr {lvl : Nat} {items : List Json} :
    mark ∈ prettyAt lvl (arr items) ↔ ∃ v ∈ items, mark ∈ prettyAt (lvl + 1) v := by
  cases items with
  | nil => simp only [List.not_mem_nil, false_and, exists_false, iff_false, prettyAt]; decide
  | cons v items =>
    have hopen : mark ≠ '[' := by decide
    have hclose : mark ≠ ']' := by decide
    simp only [prettyAt, List.mem_cons, List.mem_append, hopen, hclose, mark_notMem_newLine,
      List.not_mem_nil, false_or, or_false, mark_mem_prettyItems, exists_eq_or_imp]

/-- The mark is in an object where it is in the value of a field. -/
theorem mark_mem_prettyAt_obj {lvl : Nat} {fields : List (Text × Json)} :
    mark ∈ prettyAt lvl (obj fields) ↔ ∃ e ∈ fields, mark ∈ prettyAt (lvl + 1) e.2 := by
  cases fields with
  | nil => simp only [List.not_mem_nil, false_and, exists_false, iff_false, prettyAt]; decide
  | cons e fields =>
    have hopen : mark ≠ '\x7b' := by decide
    have hclose : mark ≠ '\x7d' := by decide
    have hcolon : mark ∉ (": " : Text) := by decide
    simp only [prettyAt, List.mem_cons, List.mem_append, hopen, hclose, hcolon,
      mark_notMem_newLine, mark_notMem_quote, List.not_mem_nil, false_or, or_false,
      mark_mem_prettyFields, exists_eq_or_imp]

theorem isWritable_eq_false_iff {v : Json} : v.isWritable = false ↔ mark ∈ prettyAt 0 v := by
  simp [isWritable, pretty]

theorem isWritable_obj_text (key t : Text) (fields : List (Text × Json)) :
    isWritable (obj ((key, str t) :: fields)) = isWritable (obj fields) := by
  rw [Bool.eq_iff_iff, ← not_iff_not, Bool.not_eq_true, Bool.not_eq_true, isWritable_eq_false_iff,
    isWritable_eq_false_iff, mark_mem_prettyAt_obj, mark_mem_prettyAt_obj]
  simp only [List.mem_cons, exists_eq_or_imp, prettyAt_str, mark_notMem_quote, false_or]

end Json

end GraphSketch
