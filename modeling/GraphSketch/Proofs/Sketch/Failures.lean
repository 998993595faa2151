import GraphSketch.Proofs.Mask.Restore
import GraphSketch.Proofs.Sketch.Structure

/-!
# Lines that are left out

A line with a reference to nothing is left out.  `StopsAt` says which reference that is: the first
operand of the line that names no label, all before it being resolved.

* `segmentLabels_eq_error_iff` — the labels of a line cannot be found exactly if it stops at one
  of its operands, by induction on the operands.
* `drawLine_eq_unresolved_iff` — a line is left out for a reference exactly if it stops there.
* `compile_leavesNoTrace` — the lines that are left out give one report each, and everything else
  in the diagram, with the numbering, is what the other lines give by themselves.

`LeavesNoTrace` says the last of these in parts: the reports, their causes and texts, and the
nodes, edges, warnings and numbering of the lines that remain, which are drawn without a fault.
-/

set_option autoImplicit false

namespace GraphSketch

theorem Numbering.ref_eq_of_resolve {m : Numbering} {t : Text} {cause : Unresolved}
    (h : m.resolve t = .error (.unresolved cause)) : cause.ref = t := by
  unfold resolve at h
  split at h
  · split at h
    · cases h
    · cases h
      rfl
    · split at h
      · cases h
      · cases h
        rfl
  · cases h

namespace Sketch

/-! ## Operands that name nothing -/

variable {shapes : List Shape} {mask : Mask} {numbering : Numbering} {canvas : Canvas} {line : Nat}
  {text : Text}

theorem segmentLabel_eq_error_iff {segment : Text} {fault : ResolveFault} :
    segmentLabel mask numbering segment = .error fault ↔ mask.isPlaceholder segment = false ∧
      numbering.resolve (Text.trim (mask.restore segment)) = .error fault := by
  unfold segmentLabel
  by_cases h : mask.isPlaceholder segment = true <;> simp [h]

/-- The labels of a line are not found exactly if one of its segments names none. -/
theorem segmentLabels_eq_error_iff {fault : ResolveFault} : ∀ {segments : List Text},
    segmentLabels mask numbering segments = .error fault ↔
      ∃ before segment behind labels, segments = before ++ segment :: behind ∧
        segmentLabels mask numbering before = .ok labels ∧
          segmentLabel mask numbering segment = .error fault
  | [] => by simp [segmentLabels]
  | first :: rest => by
    constructor
    · intro h
      rw [segmentLabels] at h
      split at h
      · rename_i hfirst
        cases h
        exact ⟨[], first, rest, [], rfl, rfl, hfirst⟩
      · rename_i label hfirst
        cases hrest : segmentLabels mask numbering rest with
        | ok labels => simp [hrest, Except.map] at h
        | error found =>
          simp only [hrest, Except.map, Except.error.injEq] at h
          subst h
          obtain ⟨before, segment, behind, labels, rfl, hbefore, hsegment⟩ :=
            segmentLabels_eq_error_iff.mp hrest
          refine ⟨first :: before, segment, behind, label.nonEmpty? :: labels, rfl, ?_, hsegment⟩
          simp [segmentLabels, hfirst, hbefore, Except.map]
    · rintro ⟨before, segment, behind, labels, hsplit, hbefore, hsegment⟩
      cases before with
      | nil =>
        obtain ⟨rfl, rfl⟩ := List.cons.inj hsplit
        simp [segmentLabels, hsegment]
      | cons x before =>
        obtain ⟨rfl, rfl⟩ := List.cons.inj hsplit
        rw [segmentLabels] at hbefore ⊢
        cases hfirst : segmentLabel mask numbering first with
        | error found => simp [hfirst] at hbefore
        | ok label =>
          cases hlabels : segmentLabels mask numbering before with
          | error found => simp [hfirst, hlabels, Except.map] at hbefore
          | ok found =>
            have hrest : segmentLabels mask numbering (before ++ segment :: behind) =
                .error fault :=
              segmentLabels_eq_error_iff.mpr ⟨before, segment, behind, found, rfl, hlabels, hsegment⟩
            simp [hrest, Except.map]

/-- The line has a reference to nothing, and all operands before it name something. -/
def StopsAt (mask : Mask) (numbering : Numbering) (text : Text) (cause : Unresolved) : Prop :=
  ∃ before segment behind labels, (Chain.ofLine text).operands = before ++ segment :: behind ∧
    segmentLabels mask numbering before = .ok labels ∧ mask.isPlaceholder segment = false ∧
      cause.ref = Text.trim (mask.restore segment) ∧
        numbering.resolve cause.ref = .error (.unresolved cause)

/-- **A line is left out for a reference** exactly if it stops there. -/
theorem drawLine_eq_unresolved_iff {cause : Unresolved} :
    drawLine shapes mask canvas line text = .error (.unresolved cause) ↔
      StopsAt mask canvas.numbering text cause := by
  rw [drawLine_eq_error_iff, segmentLabels_eq_error_iff]
  simp only [segmentLabel_eq_error_iff, StopsAt]
  constructor
  · rintro ⟨before, segment, behind, labels, hsplit, hbefore, hplain, hresolve⟩
    have href := Numbering.ref_eq_of_resolve hresolve
    exact ⟨before, segment, behind, labels, hsplit, hbefore, hplain, href, href ▸ hresolve⟩
  · rintro ⟨before, segment, behind, labels, hsplit, hbefore, hplain, href, hresolve⟩
    exact ⟨before, segment, behind, labels, hsplit, hbefore, hplain, href ▸ hresolve⟩

/-! ## Diagrams with reports -/

/-- A diagram in which lines that are left out have left a report each and nothing else. -/
structure LeavesNoTrace (settings : Settings) (numbering after : Numbering) (t : Text)
    (d : Diagram) : Prop where
  /-- A line is told by its number. -/
  numbers : (structuralLines t).Pairwise (·.number < ·.number)
  /-- The other lines, drawn by themselves, give the nodes, edges, warnings and the numbering. -/
  drawn : drawOnly settings.shapes (Mask.ofText t) (Canvas.start numbering) (drawnLines t d) =
    .ok (⟨after, d.nodes, d.edges⟩, d.warnings)
  /-- There is one report for each line that is left out. -/
  reported : d.errors.map (·.line) = ((structuralLines t).filter d.reports).map (·.number)
  /-- A line is left out exactly if it stops at a reference where it is reached. -/
  stops : ∀ l ∈ structuralLines t, ∃ canvas warnings,
    drawOnly settings.shapes (Mask.ofText t) (Canvas.start numbering)
        ((drawnLines t d).filter (·.number < l.number)) = .ok (canvas, warnings) ∧
      (d.reports l = true ↔
        ∃ cause, StopsAt (Mask.ofText t) canvas.numbering (l.masked (Mask.ofText t)) cause) ∧
      ∀ cause, StopsAt (Mask.ofText t) canvas.numbering (l.masked (Mask.ofText t)) cause →
        d.errors.filter (·.line = l.number) = [⟨l.number, Text.trim l.symbols.filled, cause⟩]

variable {settings : Settings} {after : Numbering} {t : Text} {d : Diagram}

/-- The reports are those of the lines that are reported, in their order. -/
theorem map_line_errors (h : compile settings numbering t = (.ok d, after)) :
    d.errors.map (·.line) =
      ((structuralLines (normalize t)).filter d.reports).map (·.number) := by
  have hreported : (structuralLines (normalize t)).filter d.reports =
      ((trace settings numbering t).filter (·.outcome.error?.isSome)).map (·.line) := by
    rw [structuralLines_eq h, List.filter_map, List.filter_filter]
    congr 1
    refine List.filter_congr fun e he => ?_
    simp only [Function.comp_apply, reports_eq h he]
    cases e.outcome.error?.isSome <;> simp
  have hline : ∀ e ∈ trace settings numbering t, ∀ error, e.outcome.error? = some error →
      error.line = e.line.number := fun e he => (becomes_of_mem_trace he).line.2.1
  rw [hreported]
  obtain ⟨_, _, rfl⟩ := compile_eq_ok h
  dsimp only
  clear hreported h
  generalize trace settings numbering t = entries at hline ⊢
  induction entries with
  | nil => rfl
  | cons e entries ih =>
    have ih := ih fun x hx => hline x (List.mem_cons_of_mem _ hx)
    cases herror : e.outcome.error? with
    | none => simpa [herror] using ih
    | some error => simpa [herror, hline e List.mem_cons_self error herror] using ih

/-- What a line does where it is reached, if the compilation returns. -/
theorem stops_of_mem_trace (h : compile settings numbering t = (.ok d, after)) {e : Entry}
    (he : e ∈ trace settings numbering t)
    (hs : isStructural (Mask.ofText (normalize t)) e.line = true) :
    let text := e.line.masked (Mask.ofText (normalize t))
    (d.reports e.line = true ↔
        ∃ cause, StopsAt (Mask.ofText (normalize t)) e.canvas.numbering text cause) ∧
      ∀ cause, StopsAt (Mask.ofText (normalize t)) e.canvas.numbering text cause →
        d.errors.filter (·.line = e.line.number) =
          [⟨e.line.number, Text.trim e.line.symbols.filled, cause⟩] := by
  intro text
  have hbecomes := becomes_of_mem_trace he
  have hrestore : (Mask.ofText (normalize t)).restore text = e.line.symbols.filled :=
    Marked.restore_masked (standsIn_of_mem_trace he).isInfix_symbols
  rw [isStructural_eq h he] at hs
  have hstops : ∀ cause, StopsAt (Mask.ofText (normalize t)) e.canvas.numbering text cause ↔
      drawLine settings.shapes (Mask.ofText (normalize t)) e.canvas e.line.number text =
        .error (.unresolved cause) := fun cause => drawLine_eq_unresolved_iff.symm
  rw [reports_eq h he, filter_errors h he]
  simp only [hstops]
  obtain ⟨l, canvas, o⟩ := e
  simp only at hbecomes hs hrestore ⊢
  cases hbecomes with
  | command => cases hs
  | blank => cases hs
  | ended => cases hs
  | drawn hd hb hdraw => simp [text, hdraw, Outcome.error?]
  | failed hd hb hdraw => simp [text, hdraw, Outcome.error?, ← hrestore]

/-- **Lines that are left out leave no trace** but one report each, wherever the bad reference
stands in them; what can be drawn depends on the lines that are drawn only. -/
theorem compile_leavesNoTrace (h : compile settings numbering t = (.ok d, after)) :
    LeavesNoTrace settings numbering after (normalize t) d := by
  refine ⟨?_, drawOnly_drawnLines h, map_line_errors h, ?_⟩
  · exact (pairwise_number_logicalLines (normalize t)).filter _
  · intro l hl
    obtain ⟨hline, hs⟩ := List.mem_filter.mp hl
    rw [← (compile_eq_ok h).1] at hline
    obtain ⟨e, he, rfl⟩ := List.mem_map.mp hline
    obtain ⟨warnings, hdrawn⟩ := drawOnly_before h he
    exact ⟨e.canvas, warnings, hdrawn, stops_of_mem_trace h he hs⟩

/-- A chain of new labels that a number given to nothing ends, over two lines, and a line with a
malformed reference; the labels of both are new again on the line after them. -/
theorem compile_leavesNoTrace_of_chain :
    let t : Text := "X -> Y ->\nA -> B -> \"new\nlabel\" -> :9\n:1 -> :2x\nB -> :2"
    let d : Diagram := ⟨[⟨"X", 1, .rectangle, 0⟩, ⟨"Y", 2, .rectangle, 1⟩, ⟨"B", 3, .rectangle, 2⟩],
      [⟨0, "X", "Y", none⟩, ⟨1, "B", "Y", none⟩], [],
      [⟨2, "A -> B -> new\nlabel -> :9", ⟨":9", some 9⟩⟩, ⟨4, ":1 -> :2x", ⟨":2x", none⟩⟩],
      [.dangling 1 "->" 8]⟩
    let after : Numbering := ⟨[("X", 1), ("Y", 2), ("B", 3)], [(1, "X"), (2, "Y"), (3, "B")], 4⟩
    compile ⟨true, false⟩ Numbering.empty t = (.ok d, after) ∧
      LeavesNoTrace ⟨true, false⟩ Numbering.empty after (normalize t) d := by
  intro t d after
  have h : compile ⟨true, false⟩ Numbering.empty t = (.ok d, after) := by
    decide +kernel
  exact ⟨h, compile_leavesNoTrace h⟩

end Sketch

end GraphSketch
