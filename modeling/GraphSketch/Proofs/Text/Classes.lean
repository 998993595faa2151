import GraphSketch.Style

/-!
# Blanks beside other characters

The classes of characters are given by tables of code points.  Two of them have no character in
common if no range of the one meets a range of the other, which is decided once for each pair of
tables: `not_isColourChar_of_isBlank`, `not_isDecimalDigit_of_isBlank`.

* `CodeRanges.apart` — the decision, and `has_eq_false_of_apart` — what it says of characters.
* `has_blankRanges` — the blanks as such a table.

This is what makes a style setting end where a blank is: the run of characters that is its value
does not go on there.
-/

set_option autoImplicit false

namespace GraphSketch

/-- The code points of blanks. -/
def blankRanges : CodeRanges :=
  [(9, 13), (28, 32), (0x85, 0x85), (0xa0, 0xa0), (0x1680, 0x1680), (0x2000, 0x200a),
   (0x2028, 0x2029), (0x202f, 0x202f), (0x205f, 0x205f), (0x3000, 0x3000)]

/-- Two sets of characters of which no range meets one of the other. -/
def CodeRanges.apart (ranges others : CodeRanges) : Bool :=
  ranges.all fun r => others.all fun s => r.2 < s.1 || s.2 < r.1

theorem CodeRanges.has_eq_false_of_apart {ranges others : CodeRanges} {c : Char}
    (h : ranges.apart others = true) (hc : ranges.has c = true) : others.has c = false := by
  rw [← Bool.not_eq_true]
  intro ho
  obtain ⟨r, hr, hrc⟩ := List.any_eq_true.mp hc
  obtain ⟨s, hs, hsc⟩ := List.any_eq_true.mp ho
  have hrs := List.all_eq_true.mp (List.all_eq_true.mp h r hr) s hs
  simp only [Bool.and_eq_true, decide_eq_true_eq] at hrc hsc
  simp only [Bool.or_eq_true, decide_eq_true_eq] at hrs
  omega

theorem has_blankRanges {c : Char} (h : isBlank c = true) : blankRanges.has c = true := by
  simp only [isBlank, Bool.or_eq_true, Bool.and_eq_true, decide_eq_true_eq] at h
  simp only [CodeRanges.has, blankRanges, List.any_cons, List.any_nil, Bool.or_eq_true,
    Bool.and_eq_true, decide_eq_true_eq]
  omega

theorem not_isColourChar_of_isBlank {c : Char} (h : isBlank c = true) : isColourChar c = false := by
  have hword : isWordChar c = false := by
    rw [isWordChar, Bool.or_eq_false_iff]
    refine ⟨?_, CodeRanges.has_eq_false_of_apart (by decide +kernel) (has_blankRanges h)⟩
    rw [decide_eq_false_iff_not]
    rintro rfl
    exact absurd h (by decide)
  rw [isColourChar, hword, Bool.or_false, decide_eq_false_iff_not]
  rintro rfl
  exact absurd h (by decide)

theorem not_isDecimalDigit_of_isBlank {c : Char} (h : isBlank c = true) :
    isDecimalDigit c = false := by
  have hapart : blankRanges.apart (digitZeros.map fun first => (first, first + 9)) = true := by
    decide +kernel
  have hno := CodeRanges.has_eq_false_of_apart hapart (has_blankRanges h)
  rw [CodeRanges.has, List.any_map, List.any_eq_false] at hno
  rw [isDecimalDigit, digitValue?, Option.isSome_map, ← Bool.not_eq_true, List.find?_isSome]
  rintro ⟨first, hfirst, hc⟩
  refine hno first hfirst ?_
  simp only [Function.comp_apply, Bool.and_eq_true, decide_eq_true_eq] at hc ⊢
  omega

end GraphSketch
