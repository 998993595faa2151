import GraphSketch.Proofs.Mask.Closed
import GraphSketch.Proofs.Sketch.Alike
import GraphSketch.Proofs.Sketch.Normalize

/-!
# Texts that grow

What is written behind a closed text does not disturb what stands there: the text compiles by
itself whenever the longer one does, and its diagram is where the longer one begins.  The longer
text may need wider fences, which shows in nothing but warnings and labels of edges.

* `Diagram.Begins` — a diagram begins as another one does.
* `nodes_prefix_lastCanvas`, `edges_prefix_lastCanvas` — lines take nothing away.
* `exists_trace_append` — the trace of the longer text is that of the text and something behind
  it; the lines of a closed text stay lines, and whether a line is a command does not depend on
  the width of fences.
* `compile_begins` — the diagram of the text is where the diagram of the longer text begins.
-/

set_option autoImplicit false

namespace GraphSketch

/-- A diagram begins as another one does. -/
structure Diagram.Begins (early late : Diagram) : Prop where
  nodes : early.nodes <+: late.nodes
  edges : early.edges.map (fun e => (e.id, e.source, e.target)) <+:
    late.edges.map (fun e => (e.id, e.source, e.target))
  commands : early.commands <+: late.commands
  errors : early.errors <+: late.errors

namespace Canvas

variable {known : List Shape}

theorem nodes_prefix_addNode (canvas : Canvas) (label : Text) :
    canvas.nodes <+: (addNode known canvas label).nodes := by
  rcases addNode_cases known canvas label with ⟨_, h⟩ | ⟨_, h⟩
  · exact (congrArg nodes h).symm ▸ List.prefix_rfl
  · exact (congrArg nodes h).symm ▸ List.prefix_append _ _

theorem nodes_prefix_addNodes : ∀ (ls : List Text) (canvas : Canvas),
    canvas.nodes <+: (ls.foldl (addNode known) canvas).nodes
  | [], _ => List.prefix_rfl
  | label :: ls, canvas =>
    (nodes_prefix_addNode canvas label).trans (nodes_prefix_addNodes ls _)

end Canvas

namespace Sketch

variable {settings : Settings} {mask : Mask}

/-! ## Longer traces -/

theorem Becomes.nodes_prefix_next {canvas : Canvas} {l : LogicalLine} {o : Outcome}
    (h : Becomes settings mask canvas l o) : canvas.nodes <+: (o.next canvas).nodes := by
  cases h with
  | drawn hd hb hdraw =>
    obtain ⟨labels, _, rfl, _⟩ := drawLine_eq_ok hdraw
    rw [Outcome.next, Canvas.connect_nodes]
    exact Canvas.nodes_prefix_addNodes _ _
  | _ => exact List.prefix_rfl

theorem nodes_prefix_lastCanvas : ∀ {canvas : Canvas} {ls : List LogicalLine},
    canvas.nodes <+: (lastCanvas canvas (traceFrom settings mask canvas ls)).nodes
  | _, [] => List.prefix_rfl
  | canvas, l :: ls => by
    have hnext := (becomes_outcome settings mask canvas l).nodes_prefix_next
    rw [traceFrom, lastCanvas, List.foldl_cons]
    split
    · exact hnext
    · exact hnext.trans nodes_prefix_lastCanvas

theorem edges_prefix_lastCanvas {canvas : Canvas} {ls : List LogicalLine} :
    canvas.edges <+: (lastCanvas canvas (traceFrom settings mask canvas ls)).edges := by
  rw [lastCanvas_edges]
  exact List.prefix_append _ _

theorem lastCanvas_append (canvas : Canvas) (pre post : List Entry) :
    lastCanvas canvas (pre ++ post) = lastCanvas (lastCanvas canvas pre) post := List.foldl_append

/-- A trace that goes to its end goes over the first lines by themselves. -/
theorem traceFrom_append : ∀ {canvas : Canvas} {ls rest : List LogicalLine},
    traceFault? (traceFrom settings mask canvas (ls ++ rest)) = none →
      traceFrom settings mask canvas (ls ++ rest) = traceFrom settings mask canvas ls ++
        traceFrom settings mask (lastCanvas canvas (traceFrom settings mask canvas ls)) rest
  | _, [], _, _ => rfl
  | canvas, l :: ls, rest, h => by
    rw [List.cons_append, traceFrom, traceFault?, List.findSome?_cons] at h
    rw [List.cons_append, traceFrom, traceFrom]
    cases hf : (outcome settings mask canvas l).fault? with
    | some fault => simp [hf] at h
    | none =>
      simp only [hf, Option.isSome_none, Bool.false_eq_true, if_false] at h ⊢
      rw [traceFrom_append h]
      rfl

/-! ## Longer texts -/

theorem quote_notMem_normalize {t : Text} (hreturn : '\r' ∉ t) (hquote : '"' ∉ Mask.conceal t) :
    .char '"' ∉ Marked.ofText (normalize t) := by
  have hclosed := Marked.quote_notMem_ofText hquote
  rw [normalize, unifyLineEnds_of_notMem hreturn]
  split
  · rw [Marked.ofText_eq_ofTextFrom, Marked.ofTextFrom_cons rfl, List.mem_cons, not_or] at hclosed
    exact hclosed.2
  · exact hclosed

variable {numbering after : Numbering} {t u : Text} {d : Diagram}

/-- The trace of a closed text is alike where the trace of a longer text begins. -/
theorem exists_trace_append (hreturn : '\r' ∉ t) (hquote : '"' ∉ Mask.conceal t)
    (h : traceFault? (trace settings numbering (t ++ '\n' :: u)) = none) :
    ∃ early rest, trace settings numbering (t ++ '\n' :: u) = early ++
        traceFrom settings (Mask.ofText (normalize (t ++ '\n' :: u)))
          (lastCanvas (Canvas.start numbering) early) rest ∧
      List.Forall₂ Entry.Alike (trace settings numbering t) early := by
  have hclosed := quote_notMem_normalize hreturn hquote
  obtain ⟨rest, hrest⟩ := exists_logicalLines_append hclosed (unifyLineEnds u)
  obtain ⟨m, hm⟩ := Marked.exists_ofText_append hclosed (unifyLineEnds u)
  rw [trace, normalize_append_feed hreturn, hrest] at h ⊢
  refine ⟨_, rest, traceFrom_append h, ?_⟩
  refine traceFrom_alike (fun l hl => ?_) (.refl _)
  have hinside := (standsIn_of_mem_logicalLines hl).isInfix_symbols
  exact ⟨hinside, hm ▸ hinside.trans (List.prefix_append _ _).isInfix⟩

/-- **Typing more lines never disturbs the earlier ones**: if a text in which every quote has its
partner is continued on a new line, and the whole compiles, then the text compiles by itself, and
its nodes, edges, commands and reports are the first ones of the whole. -/
theorem compile_begins (hreturn : '\r' ∉ t) (hquote : '"' ∉ Mask.conceal t)
    (h : compile settings numbering (t ++ '\n' :: u) = (.ok d, after)) :
    ∃ early before, compile settings numbering t = (.ok early, before) ∧ early.Begins d := by
  obtain ⟨entries, rest, htrace, halike⟩ := exists_trace_append hreturn hquote (traceFault?_eq_none h)
  have hfault := traceFault?_eq_none h
  rw [htrace, traceFault?_append, ← traceFault?_alike halike] at hfault
  obtain ⟨-, -, rfl⟩ := compile_eq_ok h
  rw [compile_eq_result settings numbering t, result, hfault.1]
  refine ⟨_, _, rfl, ?_⟩
  have hcanvas := lastCanvas_alike halike (.refl (Canvas.start numbering))
  rw [htrace, List.filterMap_append, List.filterMap_append, ← commands_alike halike,
    ← errors_alike halike, lastCanvas_append]
  refine ⟨?_, ?_, List.prefix_append _ _, List.prefix_append _ _⟩
  · rw [hcanvas.nodes_eq]
    exact nodes_prefix_lastCanvas
  · -- the source, the target and the name of an edge do not depend on its label
    have hedges := congrArg (List.map fun e : Edge => (e.id, e.source, e.target)) hcanvas.edges_eq
    rw [List.map_map, List.map_map] at hedges
    exact hedges ▸ edges_prefix_lastCanvas.map _

/-- The text that is added looks like a placeholder, makes the fences wider, and leaves a quote
open. -/
theorem compile_begins_of_wider_fence :
    let t : Text := "A -\"x\"-> B\n\"two\nlines\" <- :1\n=rename(B, C)\n:9"
    let u : Text := "__QUOTED_0__\n@A\n\"open"
    let edges (l : Text) : List Edge := [⟨0, "A", "B", some l⟩, ⟨1, "A", "two\nlines", none⟩]
    let nodes : List Node :=
      [⟨"A", 1, .rectangle, 0⟩, ⟨"B", 2, .rectangle, 1⟩, ⟨"two\nlines", 3, .rectangle, 2⟩]
    let added : List Node := [⟨"__QUOTED_0__", 4, .rectangle, 3⟩, ⟨"\"open", 5, .rectangle, 4⟩]
    let command : Command := ⟨.rename "B" "C", "=rename(B, C)", 4⟩
    let error : LineError := ⟨5, ":9", ⟨":9", some 9⟩⟩
    let early : Diagram := ⟨nodes, edges "__QUOTED_0__", [command], [error], []⟩
    let d : Diagram := ⟨nodes ++ added, edges "___QUOTED_0___",
      [command, ⟨.select "A" "", "@A", 7⟩], [error], []⟩
    '\r' ∉ t ∧ '"' ∉ Mask.conceal t ∧
      (compile ⟨true, false⟩ Numbering.empty (t ++ '\n' :: u)).1 = .ok d ∧
      (compile ⟨true, false⟩ Numbering.empty t).1 = .ok early ∧ early.Begins d := by
  intro t u edges nodes added command error early d
  have hreturn : '\r' ∉ t := by decide
  have hquote : '"' ∉ Mask.conceal t := by decide +kernel
  have h : (compile ⟨true, false⟩ Numbering.empty (t ++ '\n' :: u)).1 = .ok d := by decide +kernel
  have hearly : (compile ⟨true, false⟩ Numbering.empty t).1 = .ok early := by decide +kernel
  clear_value t u d early
  obtain ⟨found, before, hfound, hbegins⟩ := compile_begins hreturn hquote (Prod.ext h rfl)
  have heq : found = early := by
    rw [hfound] at hearly
    exact Except.ok.inj hearly
  exact ⟨hreturn, hquote, h, hearly, heq ▸ hbegins⟩

end Sketch

end GraphSketch
