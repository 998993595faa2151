import GraphSketch.Proofs.Graph.Canvas
import GraphSketch.Sketch

/-!
# Drawing line by line

* `drawLine_eq_ok` — all that a line which is drawn does to the canvas: its labels become nodes
  and the arrows between them edges.
* `drawLine_sound`, `drawLine_numbering` — a drawn line keeps the canvas sound, and changes the
  numbering by giving out numbers only; so does a compilation (`compile_numbering`).
* `compile_induction` — what every drawn line preserves holds of the canvas of a compilation, also
  of one that a fault ends.
* `exists_sound_canvas` — the nodes and edges of a diagram are those of a sound canvas, which has
  the numbering that the compilation leaves.

A line is resolved before anything of it is drawn, so it is drawn as a whole or not at all
(`drawLine_eq_error_iff`).  `compile_induction` is how facts about compilations are proved where
it does not matter which line is which; where it does, `Proofs.Sketch.Trace` is used.
-/

set_option autoImplicit false

namespace GraphSketch

namespace Sketch

/-! ## The labels of a line -/

theorem forall₂_of_segmentLabels {mask : Mask} {numbering : Numbering} : ∀ {segments : List Text}
    {labels : List (Option Text)}, segmentLabels mask numbering segments = .ok labels →
    List.Forall₂ (fun segment label => ∃ name,
      segmentLabel mask numbering segment = .ok name ∧ label = name.nonEmpty?) segments labels
  | [], _, h => by
    cases h
    exact .nil
  | segment :: segments, _, h => by
    rw [segmentLabels] at h
    split at h
    · cases h
    · rename_i name hname
      cases hrest : segmentLabels mask numbering segments with
      | error fault =>
        rw [hrest] at h
        cases h
      | ok labels =>
        rw [hrest] at h
        cases h
        exact .cons ⟨name, hname, rfl⟩ (forall₂_of_segmentLabels hrest)

/-- A label that a segment names is not empty, and there are as many as segments. -/
theorem segmentLabels_ok {mask : Mask} {numbering : Numbering} {segments : List Text}
    {labels : List (Option Text)} (h : segmentLabels mask numbering segments = .ok labels) :
    labels.length = segments.length ∧ ∀ label, some label ∈ labels → label ≠ [] := by
  have hall := forall₂_of_segmentLabels h
  refine ⟨hall.length_eq.symm, fun label hl => ?_⟩
  clear h
  induction hall with
  | nil => cases hl
  | cons hfirst _ ih =>
    obtain ⟨name, -, rfl⟩ := hfirst
    rcases List.mem_cons.mp hl with hl | hl
    · obtain ⟨hne, rfl⟩ := Text.nonEmpty?_eq_some_iff.mp hl.symm
      exact hne
    · exact ih hl

/-! ## A drawn line -/

variable {shapes : List Shape} {mask : Mask} {canvas canvas' : Canvas} {line : Nat} {text : Text}
  {warnings : List Warning}

theorem drawLine_of_labels {labels : List (Option Text)}
    (h : segmentLabels mask canvas.numbering (Chain.ofLine text).operands = .ok labels) :
    drawLine shapes mask canvas line text =
      .ok (((labels.filterMap id).foldl (Canvas.addNode shapes) canvas).connect
        (Chain.ofLine text).arrows labels,
        if (Chain.ofLine text).arrows.isEmpty then
          (if labels.all Option.isNone then [.emptyLabel line] else [])
        else danglingWarnings line (Chain.ofLine text) labels) := by
  simp only [drawLine, h, Except.map]
  split
  · rename_i hempty
    rw [List.isEmpty_iff.mp hempty]
    simp [Canvas.connect, links]
  · rfl

/-- A line cannot be drawn exactly if its labels are not found. -/
theorem drawLine_eq_error_iff {fault : ResolveFault} :
    drawLine shapes mask canvas line text = .error fault ↔
      segmentLabels mask canvas.numbering (Chain.ofLine text).operands = .error fault := by
  unfold drawLine
  cases hl : segmentLabels mask canvas.numbering (Chain.ofLine text).operands with
  | error found => simp [hl, Except.map]
  | ok labels => simp [hl, Except.map]

theorem drawLine_eq_ok (h : drawLine shapes mask canvas line text = .ok (canvas', warnings)) :
    ∃ labels, segmentLabels mask canvas.numbering (Chain.ofLine text).operands = .ok labels ∧
      canvas' = ((labels.filterMap id).foldl (Canvas.addNode shapes) canvas).connect
        (Chain.ofLine text).arrows labels ∧
      warnings =
        if (Chain.ofLine text).arrows.isEmpty then
          (if labels.all Option.isNone then [.emptyLabel line] else [])
        else danglingWarnings line (Chain.ofLine text) labels := by
  cases hl : segmentLabels mask canvas.numbering (Chain.ofLine text).operands with
  | error fault =>
    rw [drawLine, hl] at h
    cases h
  | ok labels =>
    rw [drawLine_of_labels hl] at h
    cases h
    exact ⟨labels, rfl, rfl, rfl⟩

theorem drawLine_sound (hc : canvas.Sound)
    (h : drawLine shapes mask canvas line text = .ok (canvas', warnings)) : canvas'.Sound := by
  obtain ⟨labels, hlabels, rfl, _⟩ := drawLine_eq_ok h
  have hne := (segmentLabels_ok hlabels).2
  have hmem : ∀ label ∈ labels.filterMap id, some label ∈ labels := fun label hl => by
    simpa using hl
  refine Canvas.connect_sound (Canvas.addNodes_sound _ hc fun label hl => hne label (hmem label hl))
    (fun label hl => ?_) fun arrow ha label hl => (Chain.spelled_of_mem_arrows ha).isEdgeLabel hl
  exact (Canvas.mem_labels_addNodes _).mpr (Or.inl (by simpa using hl))

theorem drawLine_numbering
    (h : drawLine shapes mask canvas line text = .ok (canvas', warnings)) :
    ∃ labels, canvas'.numbering = canvas.numbering.assignAll labels := by
  obtain ⟨labels, _, rfl, _⟩ := drawLine_eq_ok h
  rw [Canvas.connect_numbering]
  exact Canvas.addNodes_numbering _ _

/-! ## All lines -/

/-- What drawn lines preserve is preserved by all of them together. -/
theorem drawLines_induction {settings : Settings} {P : Canvas → Prop}
    (step : ∀ canvas line text canvas' warnings, P canvas →
      drawLine settings.shapes mask canvas line text = .ok (canvas', warnings) → P canvas') :
    ∀ (texts : List Text) (line : Nat) (drawing : Drawing), P drawing.canvas →
      P (drawLines settings mask line texts drawing).1.canvas
  | [], _, _, h => h
  | text :: texts, line, drawing, h => by
    rw [drawLines]
    split
    · exact drawLines_induction step texts _ _ h
    · split
      · rename_i canvas warnings hd
        exact drawLines_induction step texts _ _ (step _ _ _ _ _ h hd)
      · exact h
      · split
        · exact h
        · exact drawLines_induction step texts _ _ h

/-- **What every drawn line preserves holds of the final canvas**, from which a compilation takes
the nodes and edges of its diagram and, whether it succeeds or not, the numbering. -/
theorem compile_induction (settings : Settings) (numbering : Numbering) (t : Text)
    {P : Canvas → Prop} (hstart : P (Canvas.start numbering))
    (step : ∀ mask canvas line text canvas' warnings, P canvas →
      drawLine settings.shapes mask canvas line text = .ok (canvas', warnings) → P canvas') :
    ∃ canvas, P canvas ∧ (compile settings numbering t).2 = canvas.numbering ∧
      ∀ d, (compile settings numbering t).1 = .ok d →
        d.nodes = canvas.nodes ∧ d.edges = canvas.edges := by
  have hfinal := drawLines_induction (P := P) (step (Mask.ofText (normalize t)))
    (Text.lines (Command.extract (Mask.ofText (normalize t)) (Mask.conceal (normalize t))).2) 1
    ⟨Canvas.start numbering, [], []⟩ hstart
  refine ⟨_, hfinal, rfl, fun d hd => ?_⟩
  simp only [compile] at hd
  split at hd
  · cases hd
  · cases hd
    exact ⟨rfl, rfl⟩

/-- A compilation hands out numbers and does nothing else to the numbering. -/
theorem compile_numbering (settings : Settings) (numbering : Numbering) (t : Text) :
    ∃ labels, (compile settings numbering t).2 = numbering.assignAll labels := by
  obtain ⟨canvas, ⟨labels, hlabels⟩, hnum, _⟩ := compile_induction settings numbering t
    (P := fun canvas => ∃ labels, canvas.numbering = numbering.assignAll labels) ⟨[], rfl⟩
    fun mask canvas line text canvas' warnings ⟨labels, hl⟩ hd => by
      obtain ⟨more, hmore⟩ := drawLine_numbering hd
      exact ⟨labels ++ more, by rw [hmore, hl, Numbering.assignAll_append]⟩
  exact ⟨labels, hnum.trans hlabels⟩

theorem compile_sound {numbering : Numbering} (hn : numbering.Sound) (settings : Settings)
    (t : Text) : (compile settings numbering t).2.Sound := by
  obtain ⟨labels, hlabels⟩ := compile_numbering settings numbering t
  rw [hlabels]
  exact Numbering.assignAll_sound labels hn

theorem compile_grows {numbering : Numbering} (hn : numbering.Sound) (settings : Settings)
    (t : Text) : numbering.Grows (compile settings numbering t).2 := by
  obtain ⟨labels, hlabels⟩ := compile_numbering settings numbering t
  rw [hlabels]
  exact Numbering.assignAll_grows labels hn

/-- A diagram has the nodes and edges of a sound canvas, and leaves the numbering of it. -/
theorem exists_sound_canvas {settings : Settings} {numbering after : Numbering} {t : Text}
    {d : Diagram} (h : compile settings numbering t = (.ok d, after)) :
    ∃ canvas : Canvas, canvas.Sound ∧ after = canvas.numbering ∧ d.nodes = canvas.nodes ∧
      d.edges = canvas.edges := by
  obtain ⟨canvas, hcanvas, hnumbering, hd⟩ := compile_induction settings numbering t
    (P := Canvas.Sound) (Canvas.start_sound numbering) fun _ _ _ _ _ _ => drawLine_sound
  rw [h] at hnumbering hd
  exact ⟨canvas, hcanvas, hnumbering, hd d rfl⟩

end Sketch

end GraphSketch
