import GraphSketch.Proofs.Arrow
import GraphSketch.Graph.Basic
import GraphSketch.Proofs.Text.Cut
import GraphSketch.Proofs.Text.Trim

/-!
# Writing arrows

`Connector` is an arrow that is to be written: one of the three plain forms, or a label with a form
around it.  `edges` says what it stands for between two labels, and `IsProper` which texts may be
written as its label.

* `at?_of_ne_backward`, `at?_backward` — a connector is read as the arrow that it is whatever follows
  it, except that a `<-` must not be closed behind it.
* `exists_of_at?` — no other arrows are found.
* `linkEdges_arrow` — this arrow has the edges of the connector.
* `ofLine_edge` — a line with one connector on it is cut there and nowhere else.
-/

set_option autoImplicit false

namespace GraphSketch

/-- An arrow to be written. -/
inductive Connector where
  | forward
  | backward
  | both
  | labelled (label : Text)
  | labelledBoth (label : Text)
  deriving DecidableEq, Repr

namespace Connector

/-- The connector of an edge with the given label. -/
def ofLabel : Option Text → Connector
  | none => forward
  | some label => labelled label

/-- The connector as it is written. -/
def source : Connector → Text
  | forward => ['-', '>']
  | backward => ['<', '-']
  | both => ['<', '-', '>']
  | labelled label => '-' :: (label ++ ['-', '>'])
  | labelledBoth label => '<' :: '-' :: (label ++ ['-', '>'])

/-- The edges between two labels that it stands for. -/
def edges (left right : Text) : Connector → List (Text × Text × Option Text)
  | forward => [(left, right, none)]
  | backward => [(right, left, none)]
  | both => [(left, right, none), (right, left, none)]
  | labelled label => [(left, right, some label.trim)]
  | labelledBoth label => [(left, right, some label.trim), (right, left, some label.trim)]

/-- Whether the label, if there is one, can be written on it. -/
def IsProper : Connector → Prop
  | labelled label => Text.isBlankText label = false ∧
      ∀ c ∈ label, c ∉ ['-', '<', '>', '"', '\n', '\r']
  | labelledBoth label => Text.isBlankText label = false ∧
      ∀ c ∈ label, c ∉ ['<', '>', '"', '\n', '\r']
  | _ => True

/-- The arrow that it is read as. -/
def arrow : Connector → Arrow
  | forward => ⟨.forward, none, ['-', '>']⟩
  | backward => ⟨.backward, none, ['<', '-']⟩
  | both => ⟨.bidirectional, none, ['<', '-', '>']⟩
  | labelled label => ⟨.forward, some label.trim, '-' :: (label ++ ['-', '>'])⟩
  | labelledBoth label => ⟨.bidirectional, some label.trim, '<' :: '-' :: (label ++ ['-', '>'])⟩

/-- Whether the label, if there is one, can be told from the arrow around it. -/
def IsFormed : Connector → Prop
  | labelled label => label ≠ [] ∧ ∀ c ∈ label, c ∉ ['-', '<', '>']
  | labelledBoth label => label ≠ [] ∧ ∀ c ∈ label, c ∉ ['<', '>']
  | _ => True

/-- The arrow of a formed connector, whose label counts as none if it is blank. -/
def token : Connector → Arrow
  | forward => ⟨.forward, none, ['-', '>']⟩
  | backward => ⟨.backward, none, ['<', '-']⟩
  | both => ⟨.bidirectional, none, ['<', '-', '>']⟩
  | labelled label => ⟨.forward, Arrow.cleanLabel label, '-' :: (label ++ ['-', '>'])⟩
  | labelledBoth label =>
    ⟨.bidirectional, Arrow.cleanLabel label, '<' :: '-' :: (label ++ ['-', '>'])⟩

theorem raw_arrow (k : Connector) : k.arrow.raw = k.source := by
  cases k <;> rfl

@[simp] theorem raw_token (k : Connector) : k.token.raw = k.source := by
  cases k <;> rfl

theorem source_ne_nil (k : Connector) : k.source ≠ [] := by
  cases k <;> exact List.cons_ne_nil _ _

theorem linkEdges_arrow (k : Connector) (left right : Text) :
    linkEdges (k.arrow, some left, some right) = k.edges left right := by
  cases k <;> rfl

theorem notMem_source {k : Connector} (h : k.IsProper) {c : Char} (hc : c ∈ ['"', '\n', '\r']) :
    c ∉ k.source := by
  have hsign : c ∉ ['-', '>'] ∧ c ∉ ['<', '-'] ∧ c ∉ ['<', '-', '>'] ∧ c ≠ '<' ∧ c ≠ '-' := by
    simp only [List.mem_cons, List.not_mem_nil, or_false] at hc
    rcases hc with rfl | rfl | rfl <;> decide
  have hlabel : ∀ label : Text, (∀ c ∈ label, c ∉ ['<', '>', '"', '\n', '\r']) → c ∉ label :=
    fun label hl hmem => hl c hmem (List.mem_cons_of_mem _ (List.mem_cons_of_mem _ hc))
  obtain ⟨hforward, hbackward, hboth, hangle, hdash⟩ := hsign
  cases k with
  | forward => exact hforward
  | backward => exact hbackward
  | both => exact hboth
  | labelled label =>
    have hmem := hlabel label fun d hd hbad => h.2 d hd (List.mem_cons_of_mem _ hbad)
    simp only [source, List.mem_cons, List.mem_append]
    simp_all
  | labelledBoth label =>
    have hmem := hlabel label h.2
    simp_all [source]

/-! ## Reading what is written -/

variable {rest : Text}

theorem ne_nil_of_not_blank {label : Text} (h : Text.isBlankText label = false) : label ≠ [] := by
  rintro rfl
  cases h

theorem IsProper.isFormed {k : Connector} (h : k.IsProper) : k.IsFormed := by
  cases k with
  | labelled label =>
    exact ⟨ne_nil_of_not_blank h.1, fun c hc hsign => h.2 c hc (List.mem_append_left _ hsign)⟩
  | labelledBoth label =>
    exact ⟨ne_nil_of_not_blank h.1, fun c hc hsign => h.2 c hc (List.mem_append_left _ hsign)⟩
  | _ => trivial

theorem IsProper.token_eq {k : Connector} (h : k.IsProper) : k.token = k.arrow := by
  cases k with
  | labelled label =>
    have hclean : Arrow.cleanLabel label = some label.trim := Text.nonEmpty?_trim h.1
    rw [token, arrow, hclean]
  | labelledBoth label =>
    have hclean : Arrow.cleanLabel label = some label.trim := Text.nonEmpty?_trim h.1
    rw [token, arrow, hclean]
  | _ => rfl

theorem labelledForward?_source {label : Text} (h : (labelled label).IsFormed) :
    Arrow.labelledForward? ((labelled label).source ++ rest) = some (labelled label).token := by
  have hpos : ∀ c ∈ label, Arrow.isForwardLabelChar c = true := fun c hc => by
    have hnot := h.2 c hc
    simp_all [Arrow.isForwardLabelChar]
  exact Arrow.labelledForward?_eq_some_iff.mpr ⟨label, rest, by simp [source], h.1, hpos, rfl⟩

theorem labelledBoth?_source {label : Text} (h : (labelledBoth label).IsFormed) :
    Arrow.labelledBoth? ((labelledBoth label).source ++ rest) =
      some (labelledBoth label).token := by
  have hpos : ∀ c ∈ label, Arrow.isBothLabelChar c = true := fun c hc => by
    have hnot := h.2 c hc
    simp_all [Arrow.isBothLabelChar]
  exact Arrow.labelledBoth?_eq_some_iff.mpr ⟨label, rest, by simp [source], h.1, hpos, rfl⟩

/-- Every connector but one is read as its arrow, **whatever follows it**. -/
theorem at?_of_ne_backward {k : Connector} (h : k.IsFormed) (hk : k ≠ backward) :
    Arrow.at? (k.source ++ rest) = some k.token := by
  cases k with
  | forward =>
    simp [source, token, Arrow.at?, Arrow.labelledBoth?, Arrow.plain?, Arrow.labelledForward?,
      Arrow.isForwardLabelChar]
  | backward => exact absurd rfl hk
  | both =>
    simp [source, token, Arrow.at?, Arrow.labelledBoth?, Arrow.plain?, Arrow.isBothLabelChar]
  | labelled label =>
    have hboth : Arrow.labelledBoth? ((labelled label).source ++ rest) = none := rfl
    have hplain : Arrow.plain? .bidirectional ['<', '-', '>'] ((labelled label).source ++ rest) =
        none := rfl
    simp [Arrow.at?, hboth, hplain, labelledForward?_source h]
  | labelledBoth label =>
    simp [Arrow.at?, labelledBoth?_source h]

theorem exists_of_at? {t : Text} {a : Arrow} (h : Arrow.at? t = some a) :
    ∃ k : Connector, k.IsFormed ∧ k.token = a := by
  cases Arrow.found_of_at? h with
  | labelledBoth hlabelled =>
    obtain ⟨label, -, -, hne, hlabel, rfl⟩ := hlabelled
    refine ⟨labelledBoth label, ⟨hne, fun c hc => ?_⟩, rfl⟩
    have hchar := hlabel c hc
    simp_all [Arrow.isBothLabelChar]
  | labelled hlabelled =>
    obtain ⟨label, -, -, hne, hlabel, rfl⟩ := hlabelled
    refine ⟨labelled label, ⟨hne, fun c hc => ?_⟩, rfl⟩
    have hchar := hlabel c hc
    simp_all [Arrow.isForwardLabelChar]
  | both => exact ⟨both, trivial, rfl⟩
  | forward => exact ⟨forward, trivial, rfl⟩
  | backward => exact ⟨backward, trivial, rfl⟩

/-- The rest of a text that makes an arrow that points both ways of a `<-` before it. -/
def ClosesBoth (rest : Text) : Prop :=
  ['>'] <+: rest ∨ ∃ label behind, rest = label ++ ('-' :: '>' :: behind) ∧ label ≠ [] ∧
    ∀ c ∈ label, c ∉ ['<', '>']

/-- A `<-` is read by itself **unless what follows it closes an arrow** that points both ways. -/
theorem at?_backward (h : ¬ ClosesBoth rest) :
    Arrow.at? (backward.source ++ rest) = some backward.token := by
  have hlabelled : Arrow.labelledBoth? (backward.source ++ rest) = none := by
    rw [Option.eq_none_iff_forall_ne_some]
    intro arrow harrow
    obtain ⟨label, behind, heq, hne, hlabel, -⟩ := Arrow.labelledBoth?_eq_some_iff.mp harrow
    refine h (Or.inr ⟨label, behind, ?_, hne, fun c hc => ?_⟩)
    · simpa [source] using heq
    · have hchar := hlabel c hc
      simp_all [Arrow.isBothLabelChar]
  have hhead : ¬ ['>'] <+: rest := fun hp => h (Or.inl hp)
  rw [Arrow.at?, hlabelled]
  simp [source, token, Arrow.plain?, Arrow.labelledForward?, hhead]

theorem not_closesBoth (h : ∀ c ∈ rest, c ≠ '<' ∧ c ≠ '>') : ¬ ClosesBoth rest := by
  rintro (hp | ⟨label, behind, rfl, -, -⟩)
  · exact (h '>' (hp.subset (List.mem_singleton_self '>'))).2 rfl
  · exact (h '>' (by simp)).2 rfl

/-- **A written connector is read as its arrow.** -/
theorem at?_source {k : Connector} (h : k.IsProper) (hrest : ∀ c ∈ rest, c ≠ '<' ∧ c ≠ '>') :
    Arrow.at? (k.source ++ rest) = some k.arrow := by
  rw [← h.token_eq]
  by_cases hk : k = backward
  · subst hk
    exact at?_backward (not_closesBoth hrest)
  · exact at?_of_ne_backward h.isFormed hk

theorem token?_source {k : Connector} (h : k.IsProper) (hrest : ∀ c ∈ rest, c ≠ '<' ∧ c ≠ '>') :
    Arrow.token? (k.source ++ rest) = some (k.arrow, k.source.length) := by
  rw [Arrow.token?, at?_source h hrest, Option.map_some, raw_arrow]

/-! ## Lines with one connector -/

/-- The text may stand beside an arrow. -/
def IsGap (t : Text) : Prop := ∀ c ∈ t, c ∉ ['-', '<', '>']

theorem IsGap.append {t u : Text} (ht : IsGap t) (hu : IsGap u) : IsGap (t ++ u) := fun c hc =>
  (List.mem_append.mp hc).elim (ht c) (hu c)

theorem IsGap.ne_angle {gap : Text} (h : IsGap gap) : ∀ c ∈ gap, c ≠ '<' ∧ c ≠ '>' := by
  intro c hc
  have hnot := h c hc
  simp_all

theorem token?_of_isGap {gap : Text} (h : IsGap gap) :
    ∀ c ∈ gap, ∀ cs, Arrow.token? (c :: cs) = none := by
  intro c hc cs
  have hnot := h c hc
  simp only [List.mem_cons, List.not_mem_nil, or_false, not_or] at hnot
  simp [Arrow.token?, Arrow.at?, Arrow.labelledBoth?, Arrow.plain?, Arrow.labelledForward?, hnot,
    Ne.symm hnot.1, Ne.symm hnot.2.1]

theorem ofLine_gap {gap : Text} (h : IsGap gap) : Chain.ofLine gap = ⟨gap, []⟩ := by
  have hcut := Text.cut_append_of_none (token?_of_isGap h) []
  rw [List.append_nil] at hcut
  rw [Chain.ofLine, hcut]
  simp [Text.cut, Text.cutAfter]

/-- **A line with one connector** is cut there and nowhere else. -/
theorem ofLine_edge {k : Connector} (h : k.IsProper) {left right : Text} (hleft : IsGap left)
    (hright : IsGap right) :
    Chain.ofLine (left ++ (k.source ++ right)) = ⟨left, [(k.arrow, right)]⟩ := by
  have htoken := Text.cut_of_token k.source_ne_nil (token?_source h hright.ne_angle)
  have hright := ofLine_gap hright
  rw [Chain.ofLine] at hright
  rw [Chain.ofLine, Text.cut_append_of_none (token?_of_isGap hleft), htoken, hright,
    List.append_nil]

end Connector

end GraphSketch
