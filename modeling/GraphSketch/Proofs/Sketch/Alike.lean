import GraphSketch.Proofs.Mask.Request
import GraphSketch.Proofs.Sketch.Accounted
import GraphSketch.Proofs.Sketch.ArrowText

/-!
# Lines in several texts

A line may stand in two texts of which the fences have different widths.  It is read alike in both:
it is the same command, its operands name the same labels, and what is drawn differs at most in the
labels of edges, where a placeholder may be shown.

* `segmentLabel_masked` — what an operand names does not depend on the fences.
* `outcome_alike` — what becomes of a line in either text.
* `traceFrom_alike` — the same for several lines, by induction along the trace.
-/

set_option autoImplicit false

namespace GraphSketch

/-! ## Operands -/

namespace Marked

/-- Whether the text is one span. -/
def isSpan : Marked → Bool
  | [.span _ _] => true
  | _ => false

/-- The label that a marked operand names. -/
def label (numbering : Numbering) (s : Marked) : Except ResolveFault Text :=
  if isSpan (trim s) then .ok (Text.trim s.filled) else numbering.resolve (Text.trim s.filled)

variable {t : Text} {s : Marked}

/-- Masked text is a placeholder only if it is the placeholder of a span. -/
theorem isSpan_of_masked_eq {i : Nat} (h : s <:+: ofText t)
    (hs : masked (fenceWidth t) s = Mask.placeholder (fenceWidth t) i) : isSpan s = true := by
  have hw := Mask.two_le_fenceWidth t
  have hread := Mask.placeholder?_of_placeholder hw i []
  rw [List.append_nil, ← hs] at hread
  cases s with
  | nil => exact absurd hs.symm (placeholder_ne_nil _ i)
  | cons x s =>
    cases x with
    | char c =>
      rw [placeholder?_of_char hw (opening_notInfix_source h)] at hread
      cases hread
    | span n content =>
      have hfirst := Mask.placeholder?_of_placeholder hw n (masked (fenceWidth t) s)
      rw [masked_cons, Symbol.masked] at hread
      rw [hread, Option.some.injEq, Prod.mk.injEq] at hfirst
      rw [masked_eq_nil_iff.mp (List.append_right_eq_self.mp hfirst.1)]
      rfl

theorem isPlaceholder_masked (h : s <:+: ofText t) :
    (Mask.ofText t).isPlaceholder (masked (fenceWidth t) s) = isSpan (trim s) := by
  have htrim : trim s <:+: ofText t := (isInfix_trim s).trans h
  rw [Bool.eq_iff_iff]
  constructor
  · intro hplaceholder
    obtain ⟨i, hi⟩ := Mask.exists_of_isPlaceholder hplaceholder
    rw [← masked_trim] at hi
    exact isSpan_of_masked_eq htrim hi
  · intro hspan
    unfold isSpan at hspan
    split at hspan
    · rename_i n content heq
      rw [Mask.isPlaceholder, ← masked_trim, heq, OrderedMap.has]
      have hmem : .span n content ∈ ofText t := htrim.subset (by rw [heq]; exact List.mem_cons_self)
      have hget := get?_entries_of_span hmem
      simp only [masked_cons, masked_nil, Symbol.masked, List.append_nil, hget, Option.isSome_some]
    · cases hspan

/-- **What an operand names** does not depend on the fences. -/
theorem segmentLabel_masked (h : s <:+: ofText t) (numbering : Numbering) :
    Sketch.segmentLabel (Mask.ofText t) numbering (masked (fenceWidth t) s) = label numbering s := by
  rw [Sketch.segmentLabel, isPlaceholder_masked h, restore_masked h, label]

end Marked

/-! ## Canvases -/

/-- The edge without its label. -/
def Edge.unlabelled (e : Edge) : Edge := { e with label := none }

namespace Canvas

/-- The canvases differ at most in the labels of edges. -/
structure Alike (canvas canvas' : Canvas) : Prop where
  numbering_eq : canvas.numbering = canvas'.numbering
  nodes_eq : canvas.nodes = canvas'.nodes
  edges_eq : canvas.edges.map Edge.unlabelled = canvas'.edges.map Edge.unlabelled

theorem Alike.refl (canvas : Canvas) : canvas.Alike canvas := ⟨rfl, rfl, rfl⟩

variable {canvas canvas' : Canvas} {known : List Shape}

theorem Alike.addNode (h : canvas.Alike canvas') (label : Text) :
    (addNode known canvas label).Alike (addNode known canvas' label) := by
  have hlabels : canvas.labels = canvas'.labels := by rw [labels, h.nodes_eq, labels]
  rcases addNode_cases known canvas label with ⟨hmem, hadd⟩ | ⟨hnot, hadd⟩
  · rcases addNode_cases known canvas' label with ⟨_, hadd'⟩ | ⟨hnot', _⟩
    · rw [hadd, hadd']
      exact h
    · exact absurd (hlabels ▸ hmem) hnot'
  · rcases addNode_cases known canvas' label with ⟨hmem', _⟩ | ⟨_, hadd'⟩
    · exact absurd (hlabels ▸ hmem') hnot
    · rw [hadd, hadd', h.numbering_eq, h.nodes_eq]
      exact ⟨rfl, rfl, h.edges_eq⟩

theorem Alike.addNodes : ∀ (ls : List Text) {canvas canvas' : Canvas}, canvas.Alike canvas' →
    (ls.foldl (Canvas.addNode known) canvas).Alike (ls.foldl (Canvas.addNode known) canvas')
  | [], _, _, h => h
  | label :: ls, _, _, h => addNodes ls (h.addNode label)

theorem map_unlabelled_counted : ∀ (n : Nat) (es : List (Text × Text × Option Text)),
    (counted n es).map Edge.unlabelled = counted n (es.map fun e => (e.1, e.2.1, none))
  | _, [] => rfl
  | n, e :: es => by
    rw [counted, List.map_cons, List.map_cons, counted, map_unlabelled_counted (n + 1) es]
    rfl

/-- The edges of an arrow that points in the given direction, without a label. -/
def linkEnds : Direction × Option Text × Option Text → List (Text × Text × Option Text)
  | (direction, some left, some right) =>
    (direction.ends left right).map fun e => (e.1, e.2, none)
  | _ => []

/-- The ends of edges depend on the directions of the arrows only. -/
theorem map_flatMap_linkEdges (arrows : List Arrow) (operands : List (Option Text)) :
    ((links arrows operands).flatMap linkEdges).map (fun e => (e.1, e.2.1, none)) =
      (links (arrows.map (·.direction)) operands).flatMap linkEnds := by
  rw [links_map, List.flatMap_map, List.map_flatMap]
  refine List.flatMap_congr fun link _ => ?_
  obtain ⟨arrow, _ | left, _ | right⟩ := link
  · rfl
  · rfl
  · rfl
  · simp [linkEdges, linkEnds]

theorem Alike.connect (h : canvas.Alike canvas') {arrows arrows' : List Arrow}
    (ha : arrows.map (·.direction) = arrows'.map (·.direction)) (operands : List (Option Text)) :
    (canvas.connect arrows operands).Alike (canvas'.connect arrows' operands) := by
  refine ⟨?_, ?_, ?_⟩
  · rw [connect_numbering, connect_numbering, h.numbering_eq]
  · rw [connect_nodes, connect_nodes, h.nodes_eq]
  · have hlength : canvas.edges.length = canvas'.edges.length := by
      have hlength := congrArg List.length h.edges_eq
      rwa [List.length_map, List.length_map] at hlength
    rw [connect_edges, connect_edges, List.map_append, List.map_append, map_unlabelled_counted,
      map_unlabelled_counted, map_flatMap_linkEdges, map_flatMap_linkEdges, ha, h.edges_eq, hlength]

end Canvas

namespace MarkedChain

/-- The gaps in order, one more than there are arrows. -/
def gaps (chain : MarkedChain) : List Marked := chain.first :: chain.rest.map (·.2)

/-- The operands in order, without the blanks around them. -/
def operands (chain : MarkedChain) : List Marked := (chain.first :: chain.rest.map (·.2)).map Marked.trim

theorem operands_read (chain : MarkedChain) (width : Nat) :
    (chain.read (Marked.masked width)).operands = chain.operands.map (Marked.masked width) := by
  simp [Chain.operands, Cut.gaps, read, operands, Marked.masked_trim]

theorem infix_of_mem_gaps {chain : MarkedChain} {gap : Marked} (h : gap ∈ chain.gaps) :
    gap <:+: chain.symbols := by
  rcases List.mem_cons.mp h with rfl | h
  · exact (List.prefix_append _ _).isInfix
  · obtain ⟨e, he, rfl⟩ := List.mem_map.mp h
    have hflat : e.1.symbols ++ e.2 <:+: chain.rest.flatMap fun e => e.1.symbols ++ e.2 :=
      List.infix_of_mem_flatten (List.mem_map_of_mem he)
    exact ((List.suffix_append _ _).isInfix.trans hflat).trans (List.suffix_append _ _).isInfix

theorem infix_of_mem_operands {chain : MarkedChain} {s : Marked} (h : s ∈ chain.operands) :
    s <:+: chain.symbols := by
  obtain ⟨gap, hgap, rfl⟩ := List.mem_map.mp h
  exact (Marked.isInfix_trim gap).trans (infix_of_mem_gaps hgap)

end MarkedChain

namespace Sketch

open Marked

variable {settings : Settings} {t t' : Text}

/-! ## Lines -/

theorem segmentLabels_congr {mask mask' : Mask} {numbering : Numbering} {f f' : Marked → Text} :
    ∀ {ss : List Marked},
    (∀ s ∈ ss, segmentLabel mask numbering (f s) = segmentLabel mask' numbering (f' s)) →
      segmentLabels mask numbering (ss.map f) = segmentLabels mask' numbering (ss.map f')
  | [], _ => rfl
  | s :: ss, h => by
    have ih := segmentLabels_congr fun x hx => h x (List.mem_cons_of_mem s hx)
    rw [List.map_cons, List.map_cons, segmentLabels, segmentLabels, h s List.mem_cons_self, ih]

/-- What comes of a line in two texts: the same fault, or canvases that are alike. -/
inductive DrawnAlike : Except ResolveFault (Canvas × List Warning) →
    Except ResolveFault (Canvas × List Warning) → Prop
  | error (fault : ResolveFault) : DrawnAlike (.error fault) (.error fault)
  | ok {canvas canvas' : Canvas} (h : canvas.Alike canvas') (warnings warnings' : List Warning) :
      DrawnAlike (.ok (canvas, warnings)) (.ok (canvas', warnings'))

/-- **A line is drawn alike** in either text, or it fails for the same cause. -/
theorem drawLine_alike (shapes : List Shape) {s : Marked} (h : s <:+: ofText t) (h' : s <:+: ofText t')
    {canvas canvas' : Canvas} (hc : canvas.Alike canvas') (line : Nat) :
    DrawnAlike (drawLine shapes (Mask.ofText t) canvas line (masked (fenceWidth t) s))
      (drawLine shapes (Mask.ofText t') canvas' line (masked (fenceWidth t') s)) := by
  obtain ⟨chain, hsymbols, hread⟩ := MarkedChain.exists_markedChain s
  have hlabels : segmentLabels (Mask.ofText t) canvas.numbering
        (Chain.ofLine (masked (fenceWidth t) s)).operands =
      segmentLabels (Mask.ofText t') canvas'.numbering
        (Chain.ofLine (masked (fenceWidth t') s)).operands := by
    rw [hread, hread, MarkedChain.operands_read, MarkedChain.operands_read, hc.numbering_eq]
    refine segmentLabels_congr fun operand hoperand => ?_
    have hinside : operand <:+: s := hsymbols ▸ MarkedChain.infix_of_mem_operands hoperand
    rw [segmentLabel_masked (hinside.trans h), segmentLabel_masked (hinside.trans h')]
  cases hfound : segmentLabels (Mask.ofText t) canvas.numbering
      (Chain.ofLine (masked (fenceWidth t) s)).operands with
  | error fault =>
    rw [hfound] at hlabels
    rw [drawLine_eq_error_iff.mpr hfound, drawLine_eq_error_iff.mpr hlabels.symm]
    exact .error fault
  | ok labels =>
    rw [hfound] at hlabels
    rw [drawLine_of_labels hfound, drawLine_of_labels hlabels.symm]
    refine .ok ((hc.addNodes _).connect ?_ labels) _ _
    rw [hread, hread, MarkedChain.arrows_read, MarkedChain.arrows_read, List.map_map, List.map_map]
    rfl

/-- Outcomes that differ at most in warnings and in the labels of edges. -/
inductive Outcome.Alike : Outcome → Outcome → Prop
  | command (c : Command) : Alike (.command c) (.command c)
  | blank : Alike .blank .blank
  | drawn {canvas canvas' : Canvas} (h : canvas.Alike canvas') (warnings warnings' : List Warning) :
      Alike (.drawn canvas warnings) (.drawn canvas' warnings')
  | failed (error : LineError) : Alike (.failed error) (.failed error)
  | ended (fault : ResolveFault) : Alike (.ended fault) (.ended fault)

/-- **What becomes of a line** is alike in either text. -/
theorem outcome_alike (settings : Settings) {l : LogicalLine} (h : l.symbols <:+: ofText t)
    (h' : l.symbols <:+: ofText t') {canvas canvas' : Canvas} (hc : canvas.Alike canvas') :
    (outcome settings (Mask.ofText t) canvas l).Alike
      (outcome settings (Mask.ofText t') canvas' l) := by
  have hdrawn := drawLine_alike settings.shapes h h' hc l.number
  have hmasked : ∀ t, l.masked (Mask.ofText t) = masked (fenceWidth t) l.symbols := fun _ => rfl
  simp only [outcome, hmasked, detect_masked h, detect_masked h', isBlankText_masked,
    restore_masked h, restore_masked h']
  generalize drawLine settings.shapes (Mask.ofText t) canvas l.number _ = drawn at hdrawn ⊢
  generalize drawLine settings.shapes (Mask.ofText t') canvas' l.number _ = drawn' at hdrawn ⊢
  cases detect l.symbols l.number with
  | some c => exact .command c
  | none =>
    cases Text.isBlankText l.symbols.source with
    | true => exact .blank
    | false =>
      cases hdrawn with
      | ok halike warnings warnings' => exact .drawn halike warnings warnings'
      | error fault =>
        cases fault with
        | oversized fault => exact .ended _
        | unresolved cause =>
          rw [if_neg Bool.false_ne_true]
          dsimp only
          split
          · exact .ended _
          · exact .failed _

/-! ## Traces -/

/-- Entries for one line that differ at most in warnings and in the labels of edges. -/
structure Entry.Alike (e e' : Entry) : Prop where
  line_eq : e.line = e'.line
  canvas_alike : e.canvas.Alike e'.canvas
  outcome_alike : e.outcome.Alike e'.outcome

theorem Outcome.Alike.next {o o' : Outcome} (h : o.Alike o') {canvas canvas' : Canvas}
    (hc : canvas.Alike canvas') : (o.next canvas).Alike (o'.next canvas') := by
  cases h with
  | drawn halike => exact halike
  | _ => exact hc

theorem Outcome.Alike.fault?_eq {o o' : Outcome} (h : o.Alike o') : o.fault? = o'.fault? := by
  cases h <;> rfl

/-- **Lines that stand in both texts** are gone over alike. -/
theorem traceFrom_alike : ∀ {ls : List LogicalLine} {canvas canvas' : Canvas},
    (∀ l ∈ ls, l.symbols <:+: ofText t ∧ l.symbols <:+: ofText t') → canvas.Alike canvas' →
      List.Forall₂ Entry.Alike (traceFrom settings (Mask.ofText t) canvas ls)
        (traceFrom settings (Mask.ofText t') canvas' ls)
  | [], _, _, _, _ => .nil
  | l :: ls, canvas, canvas', h, hc => by
    have hfirst := h l List.mem_cons_self
    have halike := outcome_alike settings hfirst.1 hfirst.2 hc
    rw [traceFrom, traceFrom]
    refine .cons ⟨rfl, hc, halike⟩ ?_
    rw [halike.fault?_eq]
    split
    · exact .nil
    · exact traceFrom_alike (fun x hx => h x (List.mem_cons_of_mem l hx)) (halike.next hc)

section Forall

variable {entries entries' : List Entry}

theorem traceFault?_alike (h : List.Forall₂ Entry.Alike entries entries') :
    traceFault? entries = traceFault? entries' := by
  induction h with
  | nil => rfl
  | cons he _ ih =>
    rw [traceFault?, traceFault?] at ih
    rw [traceFault?, traceFault?, List.findSome?_cons, List.findSome?_cons,
      he.outcome_alike.fault?_eq, ih]

theorem commands_alike (h : List.Forall₂ Entry.Alike entries entries') :
    entries.filterMap (·.outcome.command?) = entries'.filterMap (·.outcome.command?) := by
  induction h with
  | nil => rfl
  | cons he _ ih =>
    have hcommand : ∀ {o o' : Outcome}, o.Alike o' → o.command? = o'.command? := fun h => by
      cases h <;> rfl
    rw [List.filterMap_cons, List.filterMap_cons, hcommand he.outcome_alike, ih]

theorem errors_alike (h : List.Forall₂ Entry.Alike entries entries') :
    entries.filterMap (·.outcome.error?) = entries'.filterMap (·.outcome.error?) := by
  induction h with
  | nil => rfl
  | cons he _ ih =>
    have herror : ∀ {o o' : Outcome}, o.Alike o' → o.error? = o'.error? := fun h => by
      cases h <;> rfl
    rw [List.filterMap_cons, List.filterMap_cons, herror he.outcome_alike, ih]

theorem lastCanvas_alike (h : List.Forall₂ Entry.Alike entries entries') :
    ∀ {canvas canvas' : Canvas}, canvas.Alike canvas' →
      (lastCanvas canvas entries).Alike (lastCanvas canvas' entries') := by
  induction h with
  | nil => exact fun hc => hc
  | cons he _ ih => exact fun hc => ih (he.outcome_alike.next hc)

end Forall

end Sketch

end GraphSketch
