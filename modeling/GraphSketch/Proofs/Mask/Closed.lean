import GraphSketch.Proofs.Mask.Lines
import GraphSketch.Proofs.Mask.Quote

/-!
# Closed texts

A text is closed if no quote in it lacks a partner.  Whatever is written behind a closed text, its
spans stay the same, and so do its lines if the next one begins there.

* `Text.spans_induction` — going over a text past a character at which no span begins, and past a
  whole span; the lemmas here are inductions of this kind.
* `spanContent?_append`, `span?_append` — a span that has ended is not changed by what follows,
  while a quote without partner may find one in it.  So closed texts are what this can be said of.
* `exists_ofText_append` — the spans of a closed text with something behind it.
* `exists_logicalLines_append` — the lines of such a text.
-/

set_option autoImplicit false

namespace GraphSketch

theorem spanContent?_append {t content : Text} (h : spanContent? t = some content) (u : Text) :
    spanContent? (t ++ u) = some content := by
  induction t using spanContent?.induct generalizing content with
  | case1 => cases h
  | case2 cs => exact h
  | case3 c cs ih =>
    rw [spanContent?_slash] at h
    obtain ⟨rest, hrest, rfl⟩ := Option.map_eq_some_iff.mp h
    rw [List.cons_append, List.cons_append, spanContent?_slash, ih hrest]
    rfl
  | case4 => cases h
  | case5 c cs hquote hpair hslash ih =>
    have hne : c ≠ '\\' := ne_slash_of_unpaired hpair hslash
    rw [spanContent?_cons hquote hne] at h
    obtain ⟨rest, hrest, rfl⟩ := Option.map_eq_some_iff.mp h
    rw [List.cons_append, spanContent?_cons hquote hne, ih hrest]
    rfl

theorem span?_append {t content : Text} {n : Nat} (h : span? t = some (content, n)) (u : Text) :
    span? (t ++ u) = some (content, n) := by
  unfold span? at h
  split at h
  · obtain ⟨found, hfound, heq⟩ := Option.map_eq_some_iff.mp h
    rw [List.cons_append, span?, spanContent?_append hfound, Option.map_some, heq]
  · cases h

theorem span?_length (t content : Text) (n : Nat) (h : span? t = some (content, n)) :
    0 < n ∧ n ≤ t.length := by
  obtain ⟨rfl, hprefix⟩ := span?_eq_some h
  have hle := hprefix.length_le
  rw [List.length_cons, List.length_append, List.length_singleton] at hle
  exact ⟨by omega, by omega⟩

/-- **Going over a text** past a character at which no span begins, and past a whole span. -/
theorem Text.spans_induction {P : Text → Prop} (nil : P [])
    (char : ∀ c t, span? (c :: t) = none → P t → P (c :: t))
    (span : ∀ quoted t content, quoted ≠ [] →
      span? (quoted ++ t) = some (content, quoted.length) → P t → P (quoted ++ t)) :
    ∀ t, P t :=
  Text.cut_induction (P := fun t _ => P t) span?_length nil char span

namespace Marked

theorem ofTextFrom_span {t content : Text} (hne : t ≠ []) (u : Text)
    (h : span? (t ++ u) = some (content, t.length)) (n : Nat) :
    ofTextFrom n (t ++ u) = .span n content :: ofTextFrom (n + 1) u := by
  rw [ofTextFrom, Text.spans, Text.cut_of_token hne h]
  rfl

theorem ofTextFrom_cons {c : Char} {t : Text} (h : span? (c :: t) = none) (n : Nat) :
    ofTextFrom n (c :: t) = .char c :: ofTextFrom n t := by
  rw [ofTextFrom, Text.spans, Text.cut_of_none h]
  rfl

/-- **The spans of a closed text** stay as they are, whatever follows. -/
theorem exists_ofTextFrom_append (n : Nat) {t : Text} (h : .char '"' ∉ ofTextFrom n t) (u : Text) :
    ∃ m, ofTextFrom n (t ++ u) = ofTextFrom n t ++ ofTextFrom m u := by
  induction t using Text.spans_induction generalizing n with
  | nil => exact ⟨n, rfl⟩
  | char c t hspan ih =>
    rw [ofTextFrom_cons hspan, List.mem_cons, not_or] at h
    have hc : c ≠ '"' := fun he => h.1 (by rw [he])
    obtain ⟨m, hm⟩ := ih n h.2
    refine ⟨m, ?_⟩
    rw [List.cons_append, ofTextFrom_cons hspan, ofTextFrom_cons (span?_of_ne_quote hc _), hm,
      List.cons_append]
  | span quoted t content hne hspan ih =>
    rw [ofTextFrom_span hne t hspan, List.mem_cons, not_or] at h
    obtain ⟨m, hm⟩ := ih (n + 1) h.2
    have hmore := span?_append hspan u
    rw [List.append_assoc] at hmore
    refine ⟨m, ?_⟩
    rw [List.append_assoc, ofTextFrom_span hne (t ++ u) hmore, ofTextFrom_span hne t hspan, hm,
      List.cons_append]

theorem quote_notMem_ofText {t : Text} (h : '"' ∉ Mask.conceal t) : .char '"' ∉ ofText t := by
  rwa [← masked_ofText, mem_masked_iff (by decide)] at h

theorem exists_ofText_append {t : Text} (h : .char '"' ∉ ofText t) (u : Text) :
    ∃ m, ofText (t ++ '\n' :: u) = ofText t ++ .char '\n' :: ofTextFrom m u := by
  obtain ⟨m, hm⟩ := exists_ofTextFrom_append 0 h ('\n' :: u)
  exact ⟨m, by rw [ofText_eq_ofTextFrom, hm, ofTextFrom_cons rfl]; rfl⟩

end Marked

theorem LogicalLine.placed_append : ∀ (before : Text) (ls ls' : List Marked),
    ∃ behind, placed before (ls ++ ls') = placed before ls ++ placed behind ls'
  | before, [], ls' => ⟨before, rfl⟩
  | before, s :: ls, ls' => by
    obtain ⟨behind, h⟩ := placed_append (before ++ s.source ++ ['\n']) ls ls'
    exact ⟨behind, by rw [List.cons_append, placed, h, placed, List.cons_append]⟩

/-- **The lines of a closed text** stay as they are when lines are added. -/
theorem exists_logicalLines_append {t : Text} (h : .char '"' ∉ Marked.ofText t) (u : Text) :
    ∃ rest, logicalLines (t ++ '\n' :: u) = logicalLines t ++ rest := by
  obtain ⟨m, hm⟩ := Marked.exists_ofText_append h u
  obtain ⟨behind, hbehind⟩ := LogicalLine.placed_append [] (Marked.ofText t).lines
    (Marked.ofTextFrom m u).lines
  exact ⟨_, by rw [logicalLines, hm, Marked.lines_append_feed, hbehind, ← logicalLines]⟩

end GraphSketch
