import GraphSketch.Proofs.Mask.Arrow
import GraphSketch.Proofs.Sketch.Structure

/-!
# What becomes of every line

No line of a sketch is passed over without a word.  `AccountsFor` says that a line on which there is
something is exactly one of three: one command, one report, or a line of the graph that leaves a
warning or a node; and that a node comes from a line that is not reported.

* `mem_labels_lastCanvas` — the nodes of a trace are those that operands of its drawn lines name.
* `exists_warning_of_drawLine` — a drawn line whose operands name nothing gives a warning.
* `compile_accountsFor` — both together, for every compilation that returns.
-/

set_option autoImplicit false

namespace GraphSketch

namespace Marked

/-- A line is blank as it is written exactly if it is blank when it is masked. -/
theorem isBlankText_masked (width : Nat) (s : Marked) :
    Text.isBlankText (s.masked width) = Text.isBlankText s.source :=
  ((keepsBlanks_masked width).isBlankText_flatMap s).trans
    (keepsBlanks_source.isBlankText_flatMap s).symm

end Marked

namespace Sketch

variable {settings : Settings} {mask : Mask}

/-! ## Nodes -/

/-- The line is drawn and one of its operands names the label. -/
def Entry.Names (mask : Mask) (e : Entry) (label : Text) : Prop :=
  e.outcome.isDrawn = true ∧ ∃ labels, segmentLabels mask e.canvas.numbering
    (Chain.ofLine (e.line.masked mask)).operands = .ok labels ∧ some label ∈ labels

/-- A line adds the labels that it names as nodes, and takes none away. -/
theorem Becomes.mem_labels_next {canvas : Canvas} {l : LogicalLine} {o : Outcome} {label : Text}
    (h : Becomes settings mask canvas l o) :
    label ∈ (o.next canvas).labels ↔
      label ∈ canvas.labels ∨ Entry.Names mask ⟨l, canvas, o⟩ label := by
  unfold Entry.Names
  cases h with
  | command => simp [Outcome.next, Outcome.isDrawn]
  | blank => simp [Outcome.next, Outcome.isDrawn]
  | failed => simp [Outcome.next, Outcome.isDrawn]
  | ended => simp [Outcome.next, Outcome.isDrawn]
  | drawn hd hb hdraw =>
    obtain ⟨labels, hlabels, rfl, _⟩ := drawLine_eq_ok hdraw
    simp only [Outcome.next, Canvas.connect_labels, Canvas.mem_labels_addNodes, hlabels,
      Outcome.isDrawn]
    simp [or_comm]

/-- **Every node is named by an operand** of a drawn line, and every such operand is a node. -/
theorem mem_labels_lastCanvas {label : Text} : ∀ {canvas : Canvas} {ls : List LogicalLine},
    label ∈ (lastCanvas canvas (traceFrom settings mask canvas ls)).labels ↔
      label ∈ canvas.labels ∨ ∃ e ∈ traceFrom settings mask canvas ls, e.Names mask label
  | canvas, [] => by simp [traceFrom, lastCanvas]
  | canvas, l :: ls => by
    have hnext : label ∈ ((outcome settings mask canvas l).next canvas).labels ↔
        label ∈ canvas.labels ∨ Entry.Names mask ⟨l, canvas, outcome settings mask canvas l⟩ label :=
      (becomes_outcome settings mask canvas l).mem_labels_next
    rw [traceFrom, lastCanvas, List.foldl_cons]
    simp only [List.mem_cons, exists_eq_or_imp]
    split
    · simp [hnext]
    · rw [← lastCanvas, mem_labels_lastCanvas, hnext, or_assoc]

/-! ## Warnings -/

/-- Where no operand names anything the first arrow is one that lacks an operand. -/
theorem danglingWarnings_ne_nil {line : Nat} {chain : Chain} {labels : List (Option Text)}
    (harrows : chain.arrows ≠ []) (hlabels : ∀ label ∈ labels, label = none) :
    danglingWarnings line chain labels ≠ [] := by
  obtain ⟨first, rest⟩ := chain
  cases rest with
  | nil => exact absurd rfl harrows
  | cons e rest =>
    unfold danglingWarnings
    simp only [Chain.arrows, Cut.tokens, Chain.positions, Chain.positionsFrom, List.map_cons]
    cases labels with
    | nil => simp [links]
    | cons left labels =>
      have hleft : left = none := hlabels left List.mem_cons_self
      subst hleft
      cases labels with
      | nil => simp [links]
      | cons right labels => simp [links]

/-- **A drawn line whose operands name nothing gives a warning.** -/
theorem exists_warning_of_drawLine {shapes : List Shape} {canvas canvas' : Canvas} {line : Nat}
    {text : Text} {warnings : List Warning} {labels : List (Option Text)}
    (h : drawLine shapes mask canvas line text = .ok (canvas', warnings))
    (hlabels : segmentLabels mask canvas.numbering (Chain.ofLine text).operands = .ok labels)
    (hnone : ∀ label ∈ labels, label = none) : ∃ w, w ∈ warnings := by
  obtain ⟨found, hfound, _, rfl⟩ := drawLine_eq_ok h
  rw [hlabels] at hfound
  cases hfound
  refine List.exists_mem_of_ne_nil _ ?_
  by_cases harrows : (Chain.ofLine text).arrows.isEmpty = true
  · have hall : labels.all Option.isNone = true :=
      List.all_eq_true.mpr fun label hl => by simp [hnone label hl]
    simp [harrows, hall]
  · rw [if_neg harrows]
    exact danglingWarnings_ne_nil (by simpa using harrows) hnone

/-! ## Every line -/

/-- The labels that the operands of a line name where the line is reached: on the canvas that comes
from the lines before it that are not reported. -/
def OperandLabels (settings : Settings) (numbering : Numbering) (t : Text) (d : Diagram)
    (l : LogicalLine) (labels : List (Option Text)) : Prop :=
  ∃ canvas warnings,
    drawOnly settings.shapes (Mask.ofText t) (Canvas.start numbering)
        ((drawnLines t d).filter (·.number < l.number)) = .ok (canvas, warnings) ∧
      segmentLabels (Mask.ofText t) canvas.numbering
        (Chain.ofLine (l.masked (Mask.ofText t))).operands = .ok labels

/-- The diagram holds one command from the line. -/
def IsCommand (d : Diagram) (l : LogicalLine) : Prop :=
  ∃ c, d.commands.filter (·.line = l.number) = [c]

/-- The diagram holds one report of the line. -/
def IsReported (d : Diagram) (l : LogicalLine) : Prop :=
  ∃ error, d.errors.filter (·.line = l.number) = [error]

/-- The line is structural, all its operands are resolved, and there is a warning from it, or a
node for an operand of it. -/
def Contributes (settings : Settings) (numbering : Numbering) (t : Text) (d : Diagram)
    (l : LogicalLine) : Prop :=
  l ∈ structuralLines t ∧ ∃ labels, OperandLabels settings numbering t d l labels ∧
    ((∃ w ∈ d.warnings, w.line = l.number) ∨
      ∃ label, some label ∈ labels ∧ label ∈ d.nodes.map (·.label))

/-- One of three holds and the others do not. -/
def ExactlyOne (p q r : Prop) : Prop := (p ∧ ¬ q ∧ ¬ r) ∨ (¬ p ∧ q ∧ ¬ r) ∨ (¬ p ∧ ¬ q ∧ r)

/-- A diagram that accounts for all that is written in its source. -/
structure AccountsFor (settings : Settings) (numbering : Numbering) (t : Text) (d : Diagram) :
    Prop where
  /-- No line is lost. -/
  line : ∀ l ∈ logicalLines t, Text.isBlankText l.symbols.source = false →
    ExactlyOne (IsCommand d l) (IsReported d l) (Contributes settings numbering t d l)
  /-- No node is invented. -/
  node : ∀ node ∈ d.nodes, ∃ l ∈ structuralLines t, d.reports l = false ∧
    ∃ labels, OperandLabels settings numbering t d l labels ∧ some node.label ∈ labels

section Returned

variable {numbering after : Numbering} {t : Text} {d : Diagram}

theorem operandLabels_iff (h : compile settings numbering t = (.ok d, after)) {e : Entry}
    (he : e ∈ trace settings numbering t) {labels : List (Option Text)} :
    OperandLabels settings numbering (normalize t) d e.line labels ↔
      segmentLabels (Mask.ofText (normalize t)) e.canvas.numbering
        (Chain.ofLine (e.line.masked (Mask.ofText (normalize t)))).operands = .ok labels := by
  obtain ⟨warnings, hdrawn⟩ := drawOnly_before h he
  constructor
  · rintro ⟨canvas, _, hfound, hlabels⟩
    rw [hdrawn] at hfound
    cases hfound
    exact hlabels
  · intro hlabels
    exact ⟨e.canvas, warnings, hdrawn, hlabels⟩

/-- The nodes of a diagram are what operands of drawn lines name. -/
theorem mem_nodes_iff (h : compile settings numbering t = (.ok d, after)) {label : Text} :
    label ∈ d.nodes.map (·.label) ↔
      ∃ e ∈ trace settings numbering t, e.Names (Mask.ofText (normalize t)) label := by
  obtain ⟨_, _, rfl⟩ := compile_eq_ok h
  have hstart : label ∉ (Canvas.start numbering).labels := List.not_mem_nil
  exact mem_labels_lastCanvas.trans (or_iff_right hstart)

theorem contributes_of_drawn (h : compile settings numbering t = (.ok d, after)) {e : Entry}
    (he : e ∈ trace settings numbering t) (hdrawn : e.outcome.isDrawn = true) :
    Contributes settings numbering (normalize t) d e.line := by
  have hstructural : isStructural (Mask.ofText (normalize t)) e.line = true := by
    rw [isStructural_eq h he, hdrawn, Bool.true_or]
  refine ⟨List.mem_filter.mpr ⟨(outcome_of_mem_traceFrom he).1, hstructural⟩, ?_⟩
  have hwarnings := filter_warnings h he
  have hnodes : ∀ label, e.Names (Mask.ofText (normalize t)) label →
      label ∈ d.nodes.map (·.label) := fun label hn => (mem_nodes_iff h).mpr ⟨e, he, hn⟩
  simp only [operandLabels_iff h he]
  have hbecomes := becomes_of_mem_trace he
  obtain ⟨l, canvas, o⟩ := e
  simp only at hbecomes hdrawn hwarnings ⊢
  cases hbecomes with
  | drawn hd hb hdraw =>
    obtain ⟨labels, hlabels, _⟩ := drawLine_eq_ok hdraw
    refine ⟨labels, hlabels, ?_⟩
    by_cases hnone : ∀ label ∈ labels, label = none
    · obtain ⟨w, hw⟩ := exists_warning_of_drawLine hdraw hlabels hnone
      have hmem : w ∈ d.warnings.filter (·.line = l.number) := by
        rw [hwarnings]
        exact hw
      rw [List.mem_filter] at hmem
      exact Or.inl ⟨w, hmem.1, by simpa using hmem.2⟩
    · obtain ⟨label, hlabel⟩ : ∃ label, some label ∈ labels := by
        simpa [Option.ne_none_iff_exists'] using hnone
      exact Or.inr ⟨label, hlabel, hnodes label ⟨hdrawn, labels, hlabels, hlabel⟩⟩
  | _ => cases hdrawn

/-- A line that is left out has an operand that is not resolved, and contributes nothing. -/
theorem not_contributes_of_failed (h : compile settings numbering t = (.ok d, after)) {e : Entry}
    (he : e ∈ trace settings numbering t) (hfailed : e.outcome.error?.isSome = true) :
    ¬ Contributes settings numbering (normalize t) d e.line := by
  rintro ⟨_, labels, hoperands, _⟩
  rw [operandLabels_iff h he] at hoperands
  have hbecomes := becomes_of_mem_trace he
  obtain ⟨l, canvas, o⟩ := e
  simp only at hbecomes hfailed hoperands
  cases hbecomes with
  | failed hd hb hdraw => simp [drawLine, hoperands, Except.map] at hdraw
  | _ => cases hfailed

/-- **No line is lost**: what becomes of it is in the diagram, under one head. -/
theorem exactlyOne_of_mem_trace (h : compile settings numbering t = (.ok d, after)) {e : Entry}
    (he : e ∈ trace settings numbering t)
    (hblank : Text.isBlankText e.line.symbols.source = false) :
    ExactlyOne (IsCommand d e.line) (IsReported d e.line)
      (Contributes settings numbering (normalize t) d e.line) := by
  have hcommands := filter_commands h he
  have herrors := filter_errors h he
  have hcontributes := contributes_of_drawn h he
  have hstructural := isStructural_eq h he
  have hbecomes := becomes_of_mem_trace he
  have hfailed := not_contributes_of_failed h he
  have hfault := fault?_eq_none_of_mem_trace h he
  rw [← Marked.isBlankText_masked (Mask.ofText (normalize t)).width] at hblank
  unfold ExactlyOne IsCommand IsReported
  rw [hcommands, herrors]
  obtain ⟨l, canvas, o⟩ := e
  simp only at hbecomes hcontributes hstructural hfailed hfault ⊢
  cases hbecomes with
  | command hd =>
    have hnot : ¬ Contributes settings numbering (normalize t) d l := fun hc => by
      rw [(List.mem_filter.mp hc.1).2] at hstructural
      cases hstructural
    simp [Outcome.command?, Outcome.error?, hnot]
  | blank hd hb =>
    rw [LogicalLine.masked, hblank] at hb
    cases hb
  | drawn =>
    have hyes := hcontributes rfl
    simp [Outcome.command?, Outcome.error?, hyes]
  | failed =>
    have hnot := hfailed rfl
    simp [Outcome.command?, Outcome.error?, hnot]
  | ended => cases hfault

/-- **No line is lost and no node is invented**, in any compilation that returns. -/
theorem compile_accountsFor (h : compile settings numbering t = (.ok d, after)) :
    AccountsFor settings numbering (normalize t) d := by
  refine ⟨?_, ?_⟩
  · intro l hl hblank
    rw [← (compile_eq_ok h).1] at hl
    obtain ⟨e, he, rfl⟩ := List.mem_map.mp hl
    exact exactlyOne_of_mem_trace h he hblank
  · intro node hnode
    obtain ⟨e, he, hdrawn, labels, hlabels, hmem⟩ :=
      (mem_nodes_iff h).mp (List.mem_map_of_mem hnode)
    obtain ⟨hstructural, _⟩ := contributes_of_drawn h he hdrawn
    refine ⟨e.line, hstructural, ?_, labels, (operandLabels_iff h he).mpr hlabels, hmem⟩
    rw [reports_eq h he, error?_eq_none_of_isDrawn hdrawn]
    rfl

/-- A command over two lines, a bad reference, blank labels, written or under a number, and arrows
without operands. -/
theorem compile_accountsFor_of_blank_labels :
    let t : Text :=
      "=layout(\"x\ny\")\nA -> :7\n\"\" ->\n\n:1\n -> B -> :1\n@ \"q\nr\" <- B"
    let numbering : Numbering := ⟨[("", 1)], [(1, "")], 2⟩
    let after : Numbering := ⟨[("", 1), ("B", 2), ("@ q\nr", 3)],
      [(1, ""), (2, "B"), (3, "@ q\nr")], 4⟩
    let d : Diagram := ⟨[⟨"B", 2, .rectangle, 0⟩, ⟨"@ q\nr", 3, .rectangle, 1⟩],
      [⟨0, "B", "@ q\nr", none⟩], [⟨.layout "x\ny", "=layout(x\ny)", 1⟩],
      [⟨3, "A -> :7", ⟨":7", some 7⟩⟩],
      [.dangling 4 "->" 14, .emptyLabel 6, .dangling 7 "->" 2, .dangling 7 "->" 7]⟩
    compile ⟨false, false⟩ numbering t = (.ok d, after) ∧
      AccountsFor ⟨false, false⟩ numbering (normalize t) d := by
  intro t numbering after d
  have h : compile ⟨false, false⟩ numbering t = (.ok d, after) := by
    decide +kernel
  exact ⟨h, compile_accountsFor h⟩

end Returned

end Sketch

end GraphSketch
