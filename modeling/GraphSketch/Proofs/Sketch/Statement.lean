import GraphSketch.Proofs.Mask.Chain
import GraphSketch.Proofs.Mask.Quote
import GraphSketch.Proofs.Sketch.Drawing
import GraphSketch.Proofs.Sketch.Trace

/-!
# Writing statements

A `Statement` is what one line of a sketch is to say: that there is a node, or that there are edges
between two nodes.  Its labels are written as quoted spans, so they may hold anything that a span can
hold (`IsWritable`): arrows, commands, references, line feeds.

* `ofTextFrom_source` — a written statement is marked as its labels and the gap between them.
* `outcome_marked` — the line of a statement is drawn, without a warning, as the statement says.
-/

set_option autoImplicit false

namespace GraphSketch

/-- A label that can be written as a quoted span and names a node. -/
structure IsWritable (label : Text) : Prop where
  return_notMem : '\r' ∉ label
  not_blank : Text.isBlankText label = false
  even : EvenBackslashes label

/-- What a line says; the numbers are those of the spaces before a connector and behind it. -/
inductive Statement where
  | node (label : Text)
  | edge (left : Text) (before : Nat) (connector : Connector) (behind : Nat) (right : Text)
  deriving DecidableEq, Repr

namespace Statement

/-- The line that says what the statement does. -/
def source : Statement → Text
  | node label => quoteSpan label
  | edge left before connector behind right =>
    quoteSpan left ++ (List.replicate before ' ' ++ (connector.source ++
      (List.replicate behind ' ' ++ quoteSpan right)))

/-- Whether a statement can be written: its labels can, and its connector is proper. -/
def Writable : Statement → Prop
  | node label => IsWritable label
  | edge left _ connector _ right => IsWritable left ∧ connector.IsProper ∧ IsWritable right

/-- The labels that it mentions, in order. -/
def labels : Statement → List Text
  | node label => [label.trim]
  | edge left _ _ _ right => [left.trim, right.trim]

/-- The edges that it calls for, in order. -/
def edges : Statement → List (Text × Text × Option Text)
  | node _ => []
  | edge left _ connector _ right => connector.edges left.trim right.trim

/-- The canvas with what the statement says on it. -/
def draw (shapes : List Shape) (canvas : Canvas) (statement : Statement) : Canvas :=
  statement.edges.foldl Canvas.addEdge (statement.labels.foldl (Canvas.addNode shapes) canvas)

/-! ## Marked statements -/

/-- The number of quoted spans in it. -/
def spans : Statement → Nat
  | node _ => 1
  | edge _ _ _ _ _ => 2

/-- Its line with the spans marked, the first with the number `n`. -/
def marked (n : Nat) : Statement → Marked
  | node label => [.span n (escapeQuotes label)]
  | edge left before connector behind right =>
    .span n (escapeQuotes left) :: ((List.replicate before ' ').map .char ++
      (connector.source.map .char ++ ((List.replicate behind ' ').map .char ++
        [.span (n + 1) (escapeQuotes right)])))

variable {statement : Statement}

theorem quote_notMem_spaces (n : Nat) : '"' ∉ List.replicate n ' ' := by
  simp

/-- **A written statement** is marked as its labels and the gap between them. -/
theorem ofTextFrom_source (h : statement.Writable) (n : Nat) (t : Text) :
    Marked.ofTextFrom n (statement.source ++ t) =
      statement.marked n ++ Marked.ofTextFrom (n + statement.spans) t := by
  cases statement with
  | node label => exact Marked.ofTextFrom_quoteSpan h.even n t
  | edge left before connector behind right =>
    obtain ⟨hleft, hproper, hright⟩ := h
    have hquote : '"' ∉ connector.source := Connector.notMem_source hproper List.mem_cons_self
    simp only [source, List.append_assoc, marked, List.cons_append, spans]
    rw [Marked.ofTextFrom_quoteSpan hleft.even, Marked.ofTextFrom_append (quote_notMem_spaces before),
      Marked.ofTextFrom_append hquote, Marked.ofTextFrom_append (quote_notMem_spaces behind),
      Marked.ofTextFrom_quoteSpan hright.even]
    rfl

theorem feed_notMem_marked (h : statement.Writable) (n : Nat) :
    .char '\n' ∉ statement.marked n := by
  cases statement with
  | node label => simp [marked]
  | edge left before connector behind right =>
    have hfeed : '\n' ∉ connector.source := Connector.notMem_source h.2.1 (by decide)
    simp [marked, hfeed]

/-! ## Reading a statement -/

theorem ofText?_eq_none {c : Char} (hcall : c ≠ '=') (hselect : c ≠ '@') (mask : Mask) (cs : Text) :
    Request.ofText? mask (c :: cs) = none := by
  simp [Request.ofText?, Request.rename?, Request.layout?, Request.select?, Request.arguments?, call?,
    Text.after?, hcall.symm, hselect]

theorem exists_cons_masked {width : Nat} (hw : 2 ≤ width) (statement : Statement) (n : Nat) :
    ∃ cs, (statement.marked n).masked width = '_' :: cs := by
  obtain ⟨width, rfl⟩ : ∃ w, width = w + 1 := ⟨width - 1, by omega⟩
  cases statement <;> exact ⟨_, rfl⟩

theorem isGap_spaces (n : Nat) : Connector.IsGap (List.replicate n ' ') := fun c hc => by
  rw [List.eq_of_mem_replicate hc]
  decide

theorem trim_placeholder (width n before behind : Nat) :
    Text.trim (List.replicate before ' ' ++ (Mask.placeholder width n ++ List.replicate behind ' ')) =
      Mask.placeholder width n := by
  have hspaces : ∀ m, ∀ c ∈ List.replicate m ' ', isBlank c = true := fun m c hc => by
    rw [List.eq_of_mem_replicate hc]
    decide
  exact Text.trim_append_blanks (fun c hc => Marked.not_isBlank_of_mem_placeholder hc)
    (hspaces before) (hspaces behind)

section Read

variable {t : Text} {n : Nat}

/-- **The placeholder of a written label names the label**, whatever it looks like. -/
theorem segmentLabel_placeholder {label : Text}
    (h : .span n (escapeQuotes label) ∈ Marked.ofText t) (numbering : Numbering) :
    Sketch.segmentLabel (Mask.ofText t) numbering (Mask.placeholder (fenceWidth t) n) =
      .ok label.trim := by
  have htrim : Text.trim (Mask.placeholder (fenceWidth t) n) = Mask.placeholder (fenceWidth t) n :=
    Text.trim_of_not_blank fun c hc => Marked.not_isBlank_of_mem_placeholder hc
  have hhas : (Mask.ofText t).isPlaceholder (Mask.placeholder (fenceWidth t) n) = true := by
    rw [Mask.isPlaceholder, htrim, OrderedMap.has, Marked.get?_entries_of_span h]
    rfl
  have hrestore : (Mask.ofText t).restore (Mask.placeholder (fenceWidth t) n) = label := by
    obtain ⟨before, behind, hsplit⟩ := List.append_of_mem h
    have hinside : [.span n (escapeQuotes label)] <:+: Marked.ofText t :=
      ⟨before, behind, by rw [hsplit]; simp⟩
    have hfilled := Marked.restore_masked hinside
    simp only [Marked.masked_cons, Marked.masked_nil, List.append_nil, Symbol.masked,
      Marked.filled_cons, Marked.filled_nil, Symbol.filled, unescapeQuotes_escapeQuotes] at hfilled
    exact hfilled
  rw [Sketch.segmentLabel, if_pos hhas, hrestore]

/-- **A statement is drawn as it says**, and nothing is passed over. -/
theorem drawLine_marked (h : statement.Writable)
    (hin : ∀ x ∈ statement.marked n, x ∈ Marked.ofText t) (shapes : List Shape) (canvas : Canvas)
    (line : Nat) :
    Sketch.drawLine shapes (Mask.ofText t) canvas line
      ((statement.marked n).masked (fenceWidth t)) = .ok (statement.draw shapes canvas, []) := by
  cases statement with
  | node label =>
    have hlabel := segmentLabel_placeholder (hin _ List.mem_cons_self) canvas.numbering
    have htrim := trim_placeholder (fenceWidth t) n 0 0
    have hchain := Connector.ofLine_gap (Connector.isGap_placeholder (fenceWidth t) n)
    simp only [List.replicate_zero, List.nil_append, List.append_nil] at htrim
    simp [marked, Symbol.masked, Sketch.drawLine, hchain, Chain.operands, Chain.arrows, Cut.gaps,
      Cut.tokens, htrim, Sketch.segmentLabels, hlabel, Text.nonEmpty?_trim h.not_blank, Except.map,
      draw, labels, edges]
  | edge left before connector behind right =>
    obtain ⟨hleft, hproper, hright⟩ := h
    have hmasked : ((edge left before connector behind right).marked n).masked (fenceWidth t) =
        (Mask.placeholder (fenceWidth t) n ++ List.replicate before ' ') ++ (connector.source ++
          (List.replicate behind ' ' ++ Mask.placeholder (fenceWidth t) (n + 1))) := by
      simp only [marked, Marked.masked_cons, Marked.masked_append, Marked.masked_map_char,
        Marked.masked_nil, Symbol.masked, List.append_nil, List.append_assoc]
    have hchain := Connector.ofLine_edge hproper
      ((Connector.isGap_placeholder (fenceWidth t) n).append (isGap_spaces before))
      ((isGap_spaces behind).append (Connector.isGap_placeholder (fenceWidth t) (n + 1)))
    have htrimLeft := trim_placeholder (fenceWidth t) n 0 before
    have htrimRight := trim_placeholder (fenceWidth t) (n + 1) behind 0
    simp only [List.replicate_zero, List.nil_append, List.append_nil] at htrimLeft htrimRight
    have hlabelLeft := segmentLabel_placeholder (hin (.span n (escapeQuotes left)) (by simp [marked]))
      canvas.numbering
    have hlabelRight := segmentLabel_placeholder
      (hin (.span (n + 1) (escapeQuotes right)) (by simp [marked])) canvas.numbering
    have hlabels : Sketch.segmentLabels (Mask.ofText t) canvas.numbering
        [Mask.placeholder (fenceWidth t) n, Mask.placeholder (fenceWidth t) (n + 1)] =
          .ok [some left.trim, some right.trim] := by
      simp [Sketch.segmentLabels, hlabelLeft, hlabelRight, Text.nonEmpty?_trim hleft.not_blank,
        Text.nonEmpty?_trim hright.not_blank, Except.map]
    rw [hmasked, Sketch.drawLine, hchain]
    simp [Chain.operands, Chain.arrows, Chain.positions, Chain.positionsFrom, Cut.gaps, Cut.tokens,
      htrimLeft, htrimRight, hlabels, Except.map, Canvas.connect, links, Connector.linkEdges_arrow,
      Sketch.danglingWarnings, draw, labels, edges]

theorem outcome_marked (h : statement.Writable)
    (hin : ∀ x ∈ statement.marked n, x ∈ Marked.ofText t) (settings : Settings) (canvas : Canvas)
    (before : Text) :
    Sketch.outcome settings (Mask.ofText t) canvas ⟨before, statement.marked n⟩ =
      .drawn (statement.draw settings.shapes canvas) [] := by
  obtain ⟨cs, hcs⟩ := exists_cons_masked (Mask.two_le_fenceWidth t) statement n
  have hdetect : ∀ line, Command.detect (Mask.ofText t)
      ((statement.marked n).masked (fenceWidth t)) line = none := fun line => by
    rw [Command.detect, hcs, Text.trim_cons_of_not_blank (by decide),
      ofText?_eq_none (by decide) (by decide)]
    rfl
  have hblank : Text.isBlankText ((statement.marked n).masked (fenceWidth t)) = false := by
    rw [hcs]
    rfl
  unfold Sketch.outcome
  simp only [LogicalLine.masked, show (Mask.ofText t).width = fenceWidth t from rfl, hdetect, hblank,
    drawLine_marked h hin]
  simp

end Read

end Statement

end GraphSketch
