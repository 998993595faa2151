import GraphSketch.Proofs.Mask.Chain
import GraphSketch.Proofs.Sketch.Drawing
import GraphSketch.Proofs.Sketch.Trace

/-!
# Arrows in diagrams

Labels of edges and the arrows in warnings are taken from masked lines and are not restored.
`compile_arrowText` follows every arrow of a drawn line from the source into the diagram: it is
shown with placeholders for its spans, which is what it would be with their contents exactly if it
has none.  `compile_arrowText_placeholder` is a sketch where this shows.

* `Entry.edges` — the edges that a line adds, and `lastCanvas_edges` — those of a diagram are the
  edges of its lines, one line after the other.
* `ArrowsShown`, `exists_arrowsShown` — the arrows of one drawn line, as arrows of marked text
  that stand in the line, and the labels and warnings that they are shown in.
* `ArrowText` — the same for a whole diagram.

That an arrow of the masked line is one of the line itself is `exists_markedChain`; what it is
shown as is `MarkedArrow.read_label_eq_iff`.
-/

set_option autoImplicit false

namespace GraphSketch

theorem links_map {α β : Type} (f : α → β) : ∀ (as : List α) (operands : List (Option Text)),
    links (as.map f) operands = (links as operands).map fun link => (f link.1, link.2)
  | [], _ => rfl
  | a :: as, left :: right :: operands => by
    rw [List.map_cons, links, links, links_map f as (right :: operands), List.map_cons]
  | a :: as, [left] => by
    rw [List.map_cons, links, links, links_map f as [], List.map_cons]
  | a :: as, [] => by
    rw [List.map_cons, links, links, links_map f as [], List.map_cons]

namespace Sketch

open Marked

/-! ## Edges of lines -/

/-- The edges that a line adds. -/
def Entry.edges (e : Entry) : List Edge :=
  (e.outcome.next e.canvas).edges.drop e.canvas.edges.length

variable {settings : Settings} {mask : Mask}

theorem edges_of_drawLine {shapes : List Shape} {canvas canvas' : Canvas} {line : Nat} {text : Text}
    {warnings : List Warning}
    (h : drawLine shapes mask canvas line text = .ok (canvas', warnings)) :
    ∃ labels, segmentLabels mask canvas.numbering (Chain.ofLine text).operands = .ok labels ∧
      canvas'.edges = canvas.edges ++ Canvas.counted canvas.edges.length
        ((links (Chain.ofLine text).arrows labels).flatMap linkEdges) ∧
      warnings =
        if (Chain.ofLine text).arrows.isEmpty then
          (if labels.all Option.isNone then [.emptyLabel line] else [])
        else danglingWarnings line (Chain.ofLine text) labels := by
  obtain ⟨labels, hlabels, rfl, hwarnings⟩ := drawLine_eq_ok h
  refine ⟨labels, hlabels, ?_, hwarnings⟩
  rw [Canvas.connect_edges, Canvas.addNodes_edges]

theorem Becomes.edges_eq {canvas : Canvas} {l : LogicalLine} {o : Outcome}
    (h : Becomes settings mask canvas l o) :
    (o.next canvas).edges = canvas.edges ++ Entry.edges ⟨l, canvas, o⟩ := by
  have hprefix : canvas.edges <+: (o.next canvas).edges := by
    cases h with
    | drawn hd hb hdraw =>
      obtain ⟨labels, _, hedges, _⟩ := edges_of_drawLine hdraw
      exact ⟨_, hedges.symm⟩
    | command => exact List.prefix_rfl
    | blank => exact List.prefix_rfl
    | failed => exact List.prefix_rfl
    | ended => exact List.prefix_rfl
  obtain ⟨new, hnew⟩ := hprefix
  rw [Entry.edges, ← hnew, List.drop_left]

theorem lastCanvas_edges : ∀ {canvas : Canvas} {ls : List LogicalLine},
    (lastCanvas canvas (traceFrom settings mask canvas ls)).edges =
      canvas.edges ++ (traceFrom settings mask canvas ls).flatMap Entry.edges
  | canvas, [] => (List.append_nil canvas.edges).symm
  | canvas, l :: ls => by
    have hnext := (becomes_outcome settings mask canvas l).edges_eq
    rw [traceFrom, lastCanvas, List.foldl_cons, List.flatMap_cons, ← List.append_assoc, ← hnext]
    split
    · exact (List.append_nil _).symm
    · exact lastCanvas_edges

/-! ## Arrows of lines -/

/-- What a drawn line makes of its arrows, and what is shown of them. -/
structure ArrowsShown (t : Text) (e : Entry) (chain : MarkedChain) (labels : List (Option Text)) :
    Prop where
  symbols_eq : chain.symbols = e.line.symbols
  /-- The arrows are those that are found in the masked line. -/
  chain_eq : Chain.ofLine (e.line.masked (Mask.ofText t)) = chain.read (masked (fenceWidth t))
  labels_eq : segmentLabels (Mask.ofText t) e.canvas.numbering
    (chain.read (masked (fenceWidth t))).operands = .ok labels
  /-- Edges are made from the arrows as they are masked. -/
  edges_eq : e.edges = Canvas.counted e.canvas.edges.length
    ((links chain.arrows labels).flatMap fun link =>
      linkEdges (link.1.read (masked (fenceWidth t)), link.2))
  /-- Warnings are made from them as well. -/
  warnings_eq : e.outcome.warnings =
    if chain.arrows.isEmpty then
      (if labels.all Option.isNone then [.emptyLabel e.line.number] else [])
    else danglingWarnings e.line.number (chain.read (masked (fenceWidth t))) labels
  /-- An arrow is shown as it would be restored exactly if there is no span in it. -/
  label_iff : ∀ a ∈ chain.arrows,
    (a.read (masked (fenceWidth t))).label = (a.read filled).label ↔ a.symbols.spanless = true
  raw_iff : ∀ a ∈ chain.arrows,
    (a.read (masked (fenceWidth t))).raw = (a.read filled).raw ↔ a.symbols.spanless = true
  /-- Otherwise it is shown with a placeholder. -/
  key_label_iff : ∀ a ∈ chain.arrows,
    (∃ label, (a.read (masked (fenceWidth t))).label = some label ∧
      ∃ key ∈ (Mask.ofText t).entries.keys, key <:+: label) ↔ a.symbols.spanless = false
  key_raw_iff : ∀ a ∈ chain.arrows,
    (∃ key ∈ (Mask.ofText t).entries.keys, key <:+: (a.read (masked (fenceWidth t))).raw) ↔
      a.symbols.spanless = false

theorem exists_arrowsShown {t : Text} {canvas canvas' : Canvas} {l : LogicalLine}
    {warnings : List Warning} (hl : l.StandsIn t)
    (h : drawLine settings.shapes (Mask.ofText t) canvas l.number (l.masked (Mask.ofText t)) =
      .ok (canvas', warnings)) :
    ∃ chain labels, ArrowsShown t ⟨l, canvas, .drawn canvas' warnings⟩ chain labels := by
  obtain ⟨chain, hsymbols, hread⟩ := MarkedChain.exists_markedChain l.symbols
  have hchain := hread (fenceWidth t)
  obtain ⟨labels, hlabels, hedges, hwarnings⟩ := edges_of_drawLine h
  change Chain.ofLine (l.masked (Mask.ofText t)) = _ at hchain
  rw [hchain] at hlabels hedges hwarnings
  rw [MarkedChain.arrows_read] at hedges hwarnings
  have hpiece : ∀ a ∈ chain.arrows, a.symbols <:+: ofText t := fun a ha =>
    (MarkedChain.symbols_infix_of_mem_arrows ha).trans (hsymbols ▸ hl.isInfix_symbols)
  refine ⟨chain, labels, {
    symbols_eq := hsymbols
    chain_eq := hchain
    labels_eq := hlabels
    edges_eq := ?_
    warnings_eq := ?_
    label_iff := fun a ha => MarkedArrow.read_label_eq_iff (hpiece a ha)
    raw_iff := fun a ha => MarkedArrow.read_raw_eq_iff (hpiece a ha)
    key_label_iff := fun a ha => MarkedArrow.exists_key_infix_label_iff (hpiece a ha)
    key_raw_iff := fun a ha => exists_key_infix_masked_iff (hpiece a ha) }⟩
  · rw [Entry.edges, Outcome.next, hedges, List.drop_left, links_map, List.flatMap_map]
  · rw [List.isEmpty_map] at hwarnings
    exact hwarnings

/-- What a diagram shows of the arrows of its source. -/
structure ArrowText (t : Text) (entries : List Entry) (d : Diagram) : Prop where
  lines : entries.map (·.line) = logicalLines t
  edges : d.edges = entries.flatMap (·.edges)
  warnings : d.warnings = entries.flatMap (·.outcome.warnings)
  drawn : ∀ e ∈ entries, ∀ canvas warnings, e.outcome = .drawn canvas warnings →
    ∃ chain labels, ArrowsShown t e chain labels
  /-- Edges and warnings are on drawn lines only. -/
  not_drawn : ∀ e ∈ entries, (∀ canvas warnings, e.outcome ≠ .drawn canvas warnings) →
    e.edges = [] ∧ e.outcome.warnings = []

/-- **Arrows are shown masked**, so an edge has the label of its arrow, and a warning the arrow
itself, if there is no quoted span in the arrow; if there is one, a placeholder is shown. -/
theorem compile_arrowText {settings : Settings} {numbering after : Numbering} {t : Text}
    {d : Diagram} (h : compile settings numbering t = (.ok d, after)) :
    ArrowText (normalize t) (trace settings numbering t) d := by
  obtain ⟨hlines, _, rfl⟩ := compile_eq_ok h
  refine ⟨hlines, lastCanvas_edges, rfl, ?_, ?_⟩
  · intro e he canvas warnings ho
    have hstands := standsIn_of_mem_trace he
    have hbecomes := becomes_of_mem_trace he
    obtain ⟨line, before, outcome⟩ := e
    cases ho
    cases hbecomes with
    | drawn _ _ hdraw => exact exists_arrowsShown hstands hdraw
  · intro e he hnot
    obtain ⟨line, canvas, outcome⟩ := e
    cases outcome with
    | drawn canvas' warnings => exact absurd rfl (hnot canvas' warnings)
    | command => exact ⟨List.drop_length, rfl⟩
    | blank => exact ⟨List.drop_length, rfl⟩
    | failed => exact ⟨List.drop_length, rfl⟩
    | ended => exact ⟨List.drop_length, rfl⟩

/-- A line with a quoted label, a plain one, and an arrow that leads nowhere. -/
theorem compile_arrowText_of_chain :
    let t : Text := "A -\"x\"-> B -go-> C -\"y\"->"
    let d : Diagram := ⟨[⟨"A", 1, .rectangle, 0⟩, ⟨"B", 2, .rectangle, 1⟩, ⟨"C", 3, .rectangle, 2⟩],
      [⟨0, "A", "B", some "__QUOTED_0__"⟩, ⟨1, "B", "C", some "go"⟩], [], [],
      [.dangling 1 "-__QUOTED_1__->" 29]⟩
    let after : Numbering :=
      ⟨[("A", 1), ("B", 2), ("C", 3)], [(1, "A"), (2, "B"), (3, "C")], 4⟩
    compile ⟨true, false⟩ Numbering.empty t = (.ok d, after) ∧
      ArrowText (normalize t) (trace ⟨true, false⟩ Numbering.empty t) d := by
  intro t d after
  have h : compile ⟨true, false⟩ Numbering.empty t = (.ok d, after) := by
    decide +kernel
  exact ⟨h, compile_arrowText h⟩

/-- The label of the edge is not the label of the arrow with contents for its spans. -/
theorem compile_arrowText_placeholder :
    let t : Text := "A -\"x\"-> B"
    let chain : MarkedChain := ⟨[.char 'A', .char ' '],
      [(.forward [.span 0 "x"], [.char ' ', .char 'B'])]⟩
    let d : Diagram := ⟨[⟨"A", 1, .rectangle, 0⟩, ⟨"B", 2, .rectangle, 1⟩],
      [⟨0, "A", "B", some "__QUOTED_0__"⟩], [], [], []⟩
    let after : Numbering := ⟨[("A", 1), ("B", 2)], [(1, "A"), (2, "B")], 3⟩
    compile ⟨true, false⟩ Numbering.empty t = (.ok d, after) ∧
      chain.symbols = Marked.ofText (normalize t) ∧
      (chain.arrows.map fun a => (a.read filled).label) = [some "x".toList] ∧
      d.edges.map (·.label) ≠ chain.arrows.map fun a => (a.read filled).label := by
  refine ⟨?_, ?_, ?_, ?_⟩
  · decide +kernel
  · decide +kernel
  · decide +kernel
  · decide +kernel

end Sketch

end GraphSketch
