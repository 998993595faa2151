import GraphSketch.Sketch

/-!
# Normalized texts

Bringing line ends into one form leaves a text without carriage returns as it is
(`unifyLineEnds_append`), so that doing it twice changes nothing (`normalize_unifyLineEnds`), and
a text can be normalized up to one of its lines (`normalize_append_feed`).

* `return_notMem_unifyLineEnds` — no carriage return is left.
* `compile_unifyLineEnds` — a text that was read from a file, where line ends are brought into one
  form before, compiles to what the text in the file compiles to.

A text with a carriage return at its end cannot be parted from the rest so, because that and a
line feed behind it are one line end.  The mark that may stand at the beginning is dropped once.
-/

set_option autoImplicit false

namespace GraphSketch

namespace Sketch

/-- Where there is no carriage return, line ends stay as they are. -/
theorem unifyLineEnds_append (u : Text) : ∀ {t : Text}, '\r' ∉ t →
    unifyLineEnds (t ++ u) = t ++ unifyLineEnds u
  | [], _ => rfl
  | c :: t, h => by
    rw [List.mem_cons, not_or] at h
    have ih := unifyLineEnds_append u h.2
    rw [List.cons_append, unifyLineEnds, ih, List.cons_append]
    · intro v hv _
      exact h.1 hv.symm
    · intro hc
      exact h.1 hc.symm

theorem unifyLineEnds_of_notMem {t : Text} (h : '\r' ∉ t) : unifyLineEnds t = t := by
  have happend := unifyLineEnds_append [] h
  simpa [unifyLineEnds] using happend

theorem return_notMem_unifyLineEnds (t : Text) : '\r' ∉ unifyLineEnds t := by
  induction t using unifyLineEnds.induct with
  | case1 cs ih => simpa [unifyLineEnds] using ih
  | case2 cs hfeed ih =>
    rw [unifyLineEnds]
    · simpa using ih
    · exact hfeed
  | case3 c cs hpair hreturn ih =>
    have hne : c ≠ '\r' := fun hc => hreturn hc
    rw [unifyLineEnds]
    · simpa [hne.symm] using ih
    · exact hpair
    · exact hreturn
  | case4 => exact List.not_mem_nil

/-- A text without carriage returns and without a byte-order mark is normalized. -/
theorem normalize_of_notMem {t : Text} (h : '\r' ∉ t) (hmark : t.head? ≠ some '\ufeff') :
    normalize t = t := by
  rw [normalize, unifyLineEnds_of_notMem h]
  split
  · exact absurd rfl hmark
  · rfl

/-- A text of which the line ends are unified normalizes as before. -/
theorem normalize_unifyLineEnds (t : Text) : normalize (unifyLineEnds t) = normalize t := by
  rw [normalize, unifyLineEnds_of_notMem (return_notMem_unifyLineEnds t), normalize]

/-- It does not matter to a compilation whether the ends of lines have been unified before. -/
theorem compile_unifyLineEnds (settings : Settings) (numbering : Numbering) (t : Text) :
    compile settings numbering (unifyLineEnds t) = compile settings numbering t := by
  rw [compile, compile, normalize_unifyLineEnds]

theorem normalize_append_feed {t : Text} (h : '\r' ∉ t) (u : Text) :
    normalize (t ++ '\n' :: u) = normalize t ++ '\n' :: unifyLineEnds u := by
  have hfeed : unifyLineEnds ('\n' :: u) = '\n' :: unifyLineEnds u :=
    unifyLineEnds_append u (show '\r' ∉ ['\n'] by decide)
  rw [normalize, unifyLineEnds_append _ h, hfeed, normalize, unifyLineEnds_of_notMem h]
  cases t with
  | nil => rfl
  | cons c t =>
    by_cases hc : c = '\ufeff'
    · subst hc
      rfl
    · simp [hc]

end Sketch

end GraphSketch
