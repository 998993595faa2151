import GraphSketch.Proofs.Numbering.History

/-!
# Compiled diagrams are well-formed

`Diagram.WellFormed` says what a graph must be like: nodes with distinct labels, counted through
and numbered as the numbering has them, and edges between these nodes with names of their own.
`compile_wellFormed` proves it of every diagram that a sketch compiles to.

* `Numbering.Injective`, `Grows.injective` — if no two labels shared a number before, none do
  later, since a new number lies above all numbers that were there.

The nodes and edges are those of a sound canvas (`Canvas.Sound`), which every drawn line keeps;
what is left for this module is to say it of the diagram, and to take the numbers of the nodes
from the numbering after the compilation.  The numbering may be any that some history leads to,
loaded ones with shared numbers among them; then nodes may share a number too, and all else holds.
-/

set_option autoImplicit false

namespace GraphSketch

/-- A well-formed graph whose nodes are numbered by `numbering`. -/
structure Diagram.WellFormed (d : Diagram) (numbering : Numbering) : Prop where
  label_ne_nil : ∀ node ∈ d.nodes, node.label ≠ []
  labels_nodup : (d.nodes.map (·.label)).Nodup
  order_eq : ∀ (i : Nat) (node : Node), d.nodes[i]? = some node → node.order = i
  number_eq : ∀ node ∈ d.nodes, numbering.number? node.label = some node.number
  ends_mem : ∀ e ∈ d.edges,
    e.source ∈ d.nodes.map (·.label) ∧ e.target ∈ d.nodes.map (·.label)
  id_eq : ∀ (i : Nat) (e : Edge), d.edges[i]? = some e →
    e.id = e.source ++ "-" ++ e.target ++ "-" ++ Text.ofNat i
  ids_nodup : (d.edges.map Edge.id).Nodup
  isEdgeLabel : ∀ e ∈ d.edges, ∀ label, e.label = some label →
    label.isBlankText = false ∧ label.trim = label

namespace Numbering

/-- No two labels share a number. -/
def Injective (m : Numbering) : Prop :=
  ∀ label other n, m.number? label = some n → m.number? other = some n → label = other

theorem Grows.injective {m m' : Numbering} (hm : m.Sound) (h : m.Grows m') (hi : m.Injective) :
    m'.Injective := by
  intro label other n hl ho
  cases hlabel : m.number? label with
  | none => exact ((h.new_number hm hlabel hl).2 other ho).symm
  | some k =>
    cases hother : m.number? other with
    | none => exact (h.new_number hm hother ho).2 label hl
    | some k' =>
      have hk := h.kept label k hlabel
      have hk' := h.kept other k' hother
      rw [hl, Option.some.injEq] at hk
      rw [ho, Option.some.injEq] at hk'
      subst hk hk'
      exact hi label other n hlabel hother

end Numbering

namespace Sketch

/-- **Every diagram that a sketch compiles to is well-formed**, for every text, every numbering in
use and all settings; and if no two labels shared a number before, no two nodes do. -/
theorem compile_wellFormed {settings : Settings} {numbering after : Numbering} {t : Text}
    {d : Diagram} (hn : numbering.Reached) (h : compile settings numbering t = (.ok d, after)) :
    d.WellFormed after ∧ (numbering.Injective → (d.nodes.map (·.number)).Nodup) := by
  obtain ⟨canvas, hc, hafter, hnodes, hedges⟩ := exists_sound_canvas h
  have hwf : d.WellFormed after := by
    rw [hafter]
    refine ⟨?_, ?_, ?_, ?_, ?_, ?_, ?_, ?_⟩
    · rw [hnodes]
      exact hc.label_ne_nil
    · rw [hnodes]
      exact hc.labels_nodup
    · rw [hnodes]
      exact hc.order_eq
    · rw [hnodes]
      exact hc.number_eq
    · rw [hnodes, hedges]
      exact hc.ends_mem
    · rw [hedges]
      intro i e hi
      rw [← hc.index_eq i e hi]
      rfl
    · rw [hedges]
      exact nodup_ids_of_index hc.index_eq
    · rw [hedges]
      exact hc.isEdgeLabel
  refine ⟨hwf, fun hinj => ?_⟩
  have hgrows : numbering.Grows after := by
    obtain ⟨labels, hl⟩ := compile_numbering settings numbering t
    rw [h] at hl
    rw [show after = numbering.assignAll labels from hl]
    exact Numbering.assignAll_grows labels hn.sound
  have hinj' : after.Injective := hgrows.injective hn.sound hinj
  refine List.Nodup.map_on (fun x hx y hy hxy => ?_) hwf.labels_nodup.of_map
  have hlabel : x.label = y.label :=
    hinj' _ _ x.number (hwf.number_eq x hx) (hxy ▸ hwf.number_eq y hy)
  exact List.inj_on_of_nodup_map hwf.labels_nodup hx hy hlabel

/-- Labels with dashes and digits, a chain and a reference, under a loaded numbering. -/
theorem compile_wellFormed_of_dashes :
    let numbering : Numbering := ⟨[("b", 5)], [(5, "b")], 6⟩
    let after : Numbering := ⟨[("b", 5), ("b-b", 6)], [(5, "b"), (6, "b-b")], 7⟩
    let d : Diagram := ⟨[⟨"b-b", 6, .rectangle, 0⟩, ⟨"b", 5, .rectangle, 1⟩],
      [⟨0, "b-b", "b", some "go"⟩, ⟨1, "b", "b-b", none⟩], [], [], []⟩
    numbering.Reached ∧ compile ⟨true, false⟩ numbering "b-b -go-> :5 -> b-b" = (.ok d, after) ∧
      numbering.Injective ∧ d.WellFormed after ∧ (d.nodes.map (·.number)).Nodup := by
  intro numbering after d
  have hn : numbering.Reached := by
    refine ⟨.obj [("labelToId", .obj [("b", .int 5)])], numbering, [], fun labels hl => ?_, rfl, rfl⟩
    rw [show Numbering.savedLabels _ = .ok [("b".toList, .int 5)] from rfl] at hl
    cases hl
    decide
  have hc : compile ⟨true, false⟩ numbering "b-b -go-> :5 -> b-b" = (.ok d, after) := by
    decide +kernel
  have hi : numbering.Injective := fun label other n hl ho => by
    have hl := OrderedMap.mem_of_get?_eq_some hl
    have ho := OrderedMap.mem_of_get?_eq_some ho
    simp only [numbering, List.mem_singleton, Prod.mk.injEq] at hl ho
    rw [hl.1, ho.1]
  obtain ⟨hwf, hnd⟩ := compile_wellFormed hn hc
  exact ⟨hn, hc, hi, hwf, hnd hi⟩

end Sketch

end GraphSketch
