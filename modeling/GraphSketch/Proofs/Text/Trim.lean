import GraphSketch.Text.Blank
import Mathlib.Data.List.DropRight

/-!
# Trimmed texts

`Text.trim` leaves a text without blanks at its ends: trimming twice is trimming once
(`trim_trim`), nothing is left exactly of the blank texts (`trim_eq_nil_iff`), and blanks around a
text without blanks are taken away (`trim_append_blanks`).

* `trimEnd_eq_rdropWhile` — trimming at the end is `List.rdropWhile`, by whose lemmas the others
  are proved.
* `trim_of_not_blank` — a text without blanks stays as it is.
* `nonEmpty?_trim` — a text that is not blank leaves something, which is its trimmed form;
  operands and labels of arrows are read so.
-/

set_option autoImplicit false

namespace GraphSketch

namespace Text

theorem trimEnd_eq_rdropWhile (t : Text) : trimEnd t = t.rdropWhile isBlank := rfl

theorem trim_eq_nil_iff {t : Text} : trim t = [] ↔ isBlankText t = true := by
  rw [trim, trimEnd_eq_rdropWhile, List.rdropWhile_eq_nil_iff, isBlankText, List.all_eq_true]
  refine ⟨fun h => ?_, fun h c hc => h c (List.dropWhile_sublist _ |>.mem hc)⟩
  intro c hc
  -- a character that is not blank stops the trimming at the start
  rw [← List.takeWhile_append_dropWhile (p := isBlank) (l := t), List.mem_append] at hc
  rcases hc with hc | hc
  · exact List.mem_takeWhile_imp hc
  · exact h c hc

theorem trimStart_trim (t : Text) : trimStart (trim t) = trim t := by
  have hpre : trim t <+: trimStart t := List.rdropWhile_prefix isBlank (trimStart t)
  rw [trimStart, List.dropWhile_eq_self_iff]
  intro hl
  have hlt : 0 < (trimStart t).length := Nat.lt_of_lt_of_le hl hpre.length_le
  rw [hpre.getElem hl]
  exact List.dropWhile_get_zero_not _ _ hlt

theorem trim_trim (t : Text) : trim (trim t) = trim t := by
  rw [trim, trimStart_trim, trim, trimEnd_eq_rdropWhile, trimEnd_eq_rdropWhile,
    List.rdropWhile_idempotent]

/-- A text that does not begin with a blank is trimmed at its end only. -/
theorem trim_cons_of_not_blank {c : Char} (hc : isBlank c = false) (t : Text) :
    trim (c :: t) = c :: trimEnd t := by
  have hstart : trimStart (c :: t) = c :: t := List.dropWhile_cons_of_neg (by simp [hc])
  rw [trim, hstart, trimEnd, trimEnd, List.reverse_cons, List.dropWhile_append]
  split
  · rename_i hempty
    simp [List.isEmpty_iff.mp hempty, hc]
  · rw [List.reverse_append]
    rfl

/-- Blanks around a text without blanks are what trimming takes away. -/
theorem trim_append_blanks {t before behind : Text} (ht : ∀ c ∈ t, isBlank c = false)
    (hbefore : ∀ c ∈ before, isBlank c = true) (hbehind : ∀ c ∈ behind, isBlank c = true) :
    trim (before ++ (t ++ behind)) = t := by
  have hstart : trimStart (before ++ (t ++ behind)) = trimStart (t ++ behind) :=
    List.dropWhile_append_of_pos hbefore
  have hend : trimEnd (t ++ behind) = t := by
    rw [trimEnd, List.reverse_append, List.dropWhile_append_of_pos (by simpa using hbehind)]
    cases ht' : t.reverse with
    | nil => simpa using ht'.symm
    | cons c cs =>
      have hc : isBlank c = false := ht c (by rw [← List.mem_reverse, ht']; exact List.mem_cons_self)
      rw [List.dropWhile_cons_of_neg (by simp [hc]), ← ht', List.reverse_reverse]
  rw [trim, hstart]
  cases t with
  | nil =>
    have hblank : trim behind = [] := trim_eq_nil_iff.mpr (List.all_eq_true.mpr hbehind)
    exact hblank
  | cons c t =>
    have hc : isBlank c = false := ht c List.mem_cons_self
    rw [trimStart, List.cons_append, List.dropWhile_cons_of_neg (by simp [hc])]
    exact hend

theorem trim_of_not_blank {t : Text} (h : ∀ c ∈ t, isBlank c = false) : trim t = t := by
  simpa using trim_append_blanks h (List.forall_mem_nil _) (List.forall_mem_nil _)

theorem nonEmpty?_eq_some_iff {t u : Text} : nonEmpty? t = some u ↔ t ≠ [] ∧ t = u := by
  cases t <;> simp [nonEmpty?]

theorem nonEmpty?_trim {t : Text} (h : isBlankText t = false) : t.trim.nonEmpty? = some t.trim := by
  rw [nonEmpty?_eq_some_iff, ne_eq, trim_eq_nil_iff, h]
  exact ⟨Bool.false_ne_true, rfl⟩

end Text

end GraphSketch
