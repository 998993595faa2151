import GraphSketch.Proofs.Sketch.LineNumbers

/-!
# Structural lines

The lines of a sketch that are neither blank nor commands make its graph.  `drawOnly` draws some of
them, and nothing else, one after the other, up to the first that cannot be drawn.

* `pairwise_number_logicalLines` — no two lines have one number, so a number tells a line.
* `drawOnly_drawnLines` — drawing the lines that a diagram does not report, and no others, gives all
  of its nodes, edges and warnings.
* `drawOnly_before` — the canvas that a line is reached with comes from the lines before it that are
  not reported.
* `filter_commands`, `filter_errors`, `filter_warnings` — what a diagram holds under the number of a
  line is what became of that line.
-/

set_option autoImplicit false

namespace GraphSketch

/-! ## Numbers of lines -/

namespace LogicalLine

theorem le_number_of_mem_placed {l : LogicalLine} : ∀ {before : Text} {ls : List Marked},
    l ∈ placed before ls → 1 + before.count '\n' ≤ l.number
  | _, [], h => by cases h
  | before, s :: rest, h => by
    rw [placed, List.mem_cons] at h
    rcases h with rfl | h
    · exact Nat.le_refl _
    · have hle := le_number_of_mem_placed h
      simp only [List.count_append] at hle
      omega

theorem pairwise_number_placed : ∀ (before : Text) (ls : List Marked),
    (placed before ls).Pairwise (·.number < ·.number)
  | _, [] => List.Pairwise.nil
  | before, s :: rest => by
    rw [placed, List.pairwise_cons]
    refine ⟨?_, pairwise_number_placed _ rest⟩
    intro l hl
    have hle := le_number_of_mem_placed hl
    simp only [List.count_append, List.count_singleton_self] at hle
    simp only [number] at hle ⊢
    omega

end LogicalLine

theorem pairwise_number_logicalLines (t : Text) :
    (logicalLines t).Pairwise (·.number < ·.number) :=
  LogicalLine.pairwise_number_placed [] _

/-- Whether a diagram reports the line as left out. -/
def Diagram.reports (d : Diagram) (l : LogicalLine) : Bool := d.errors.any (·.line = l.number)

namespace Sketch

/-- Whether a line makes something of the graph: it is neither blank nor a command. -/
def isStructural (mask : Mask) (l : LogicalLine) : Bool :=
  (Command.detect mask (l.masked mask) l.number).isNone && !Text.isBlankText (l.masked mask)

/-- The lines of a text that are neither blank nor commands. -/
def structuralLines (t : Text) : List LogicalLine :=
  (logicalLines t).filter (isStructural (Mask.ofText t))

/-- The structural lines of a text that a diagram does not report. -/
def drawnLines (t : Text) (d : Diagram) : List LogicalLine :=
  (structuralLines t).filter fun l => !d.reports l

/-- Draws lines one after the other and collects the warnings. -/
def drawOnly (shapes : List Shape) (mask : Mask) :
    Canvas → List LogicalLine → Except ResolveFault (Canvas × List Warning)
  | canvas, [] => .ok (canvas, [])
  | canvas, l :: ls =>
    match drawLine shapes mask canvas l.number (l.masked mask) with
    | .error fault => .error fault
    | .ok (canvas', warnings) =>
      (drawOnly shapes mask canvas' ls).map fun drawn => (drawn.1, warnings ++ drawn.2)

/-- Lines are drawn if the first is drawn and the others after it. -/
theorem drawOnly_cons_eq_ok {shapes : List Shape} {mask : Mask} {canvas canvas' : Canvas}
    {l : LogicalLine} {ls : List LogicalLine} {warnings : List Warning}
    (h : drawOnly shapes mask canvas (l :: ls) = .ok (canvas', warnings)) :
    ∃ next first rest, drawLine shapes mask canvas l.number (l.masked mask) = .ok (next, first) ∧
      drawOnly shapes mask next ls = .ok (canvas', rest) ∧ warnings = first ++ rest := by
  rw [drawOnly] at h
  split at h
  · cases h
  · rename_i next first hline
    cases hdrawn : drawOnly shapes mask next ls with
    | error fault =>
      rw [hdrawn] at h
      cases h
    | ok drawn =>
      rw [hdrawn] at h
      cases h
      exact ⟨next, first, drawn.2, hline, hdrawn, rfl⟩

/-! ## Parts of a trace -/

/-- Whether the line is drawn. -/
def Outcome.isDrawn : Outcome → Bool
  | drawn _ _ => true
  | _ => false

variable {settings : Settings} {mask : Mask}

theorem traceFault?_append (pre post : List Entry) :
    traceFault? (pre ++ post) = none ↔ traceFault? pre = none ∧ traceFault? post = none := by
  simp [traceFault?]

/-- A trace begins with its first line, and goes on with the canvas after it. -/
theorem traceFrom_eq_cons {canvas : Canvas} {ls : List LogicalLine} {e : Entry}
    {entries : List Entry} (h : traceFrom settings mask canvas ls = e :: entries)
    (hf : e.outcome.fault? = none) :
    ∃ rest, ls = e.line :: rest ∧ e.canvas = canvas ∧
      e.outcome = outcome settings mask canvas e.line ∧
        traceFrom settings mask (e.outcome.next canvas) rest = entries := by
  cases ls with
  | nil => simp [traceFrom] at h
  | cons l rest =>
    rw [traceFrom, List.cons.injEq] at h
    obtain ⟨rfl, hrest⟩ := h
    refine ⟨rest, rfl, rfl, rfl, ?_⟩
    simpa [hf] using hrest

/-- A line is reached with the canvas after all lines before it. -/
theorem canvas_eq_lastCanvas {e : Entry} {post : List Entry} : ∀ {pre : List Entry}
    {canvas : Canvas} {ls : List LogicalLine},
    traceFrom settings mask canvas ls = pre ++ e :: post → traceFault? pre = none →
      e.canvas = lastCanvas canvas pre
  | [], canvas, ls, h, _ => by
    cases ls with
    | nil => simp [traceFrom] at h
    | cons l rest =>
      rw [traceFrom, List.nil_append, List.cons.injEq] at h
      rw [← h.1]
      rfl
  | x :: pre, canvas, ls, h, hf => by
    rw [← List.singleton_append, traceFault?_append] at hf
    have hx : x.outcome.fault? = none := by simpa [traceFault?] using hf.1
    obtain ⟨rest, -, -, -, hrest⟩ := traceFrom_eq_cons h hx
    have ih := canvas_eq_lastCanvas hrest hf.2
    rw [ih, lastCanvas, lastCanvas, List.foldl_cons]

/-- **What is left out leaves nothing behind**: the drawn lines of a trace, drawn by themselves, end
with the same canvas and give the same warnings. -/
theorem drawOnly_of_traceFrom {post : List Entry} : ∀ {pre : List Entry} {canvas : Canvas}
    {ls : List LogicalLine},
    traceFrom settings mask canvas ls = pre ++ post → traceFault? pre = none →
      drawOnly settings.shapes mask canvas ((pre.filter (·.outcome.isDrawn)).map (·.line)) =
        .ok (lastCanvas canvas pre, pre.flatMap (·.outcome.warnings))
  | [], _, _, _, _ => rfl
  | e :: pre, canvas, ls, h, hf => by
    rw [← List.singleton_append, traceFault?_append] at hf
    have he : e.outcome.fault? = none := by simpa [traceFault?] using hf.1
    obtain ⟨rest, -, -, hout, hrest⟩ := traceFrom_eq_cons h he
    have ih := drawOnly_of_traceFrom hrest hf.2
    have hbecomes := becomes_outcome settings mask canvas e.line
    rw [← hout] at hbecomes
    obtain ⟨l, _, o⟩ := e
    simp only at he hbecomes ih ⊢
    -- only a drawn line changes the canvas or gives warnings
    cases hbecomes with
    | command hd => simpa [Outcome.isDrawn, Outcome.warnings, lastCanvas, Outcome.next] using ih
    | blank hd hb => simpa [Outcome.isDrawn, Outcome.warnings, lastCanvas, Outcome.next] using ih
    | failed hd hb hdraw hs =>
      simpa [Outcome.isDrawn, Outcome.warnings, lastCanvas, Outcome.next] using ih
    | ended => cases he
    | drawn hd hb hdraw =>
      simp only [Outcome.next] at ih
      rw [List.filter_cons_of_pos rfl, List.map_cons, drawOnly, hdraw]
      simp only [ih]
      rfl

/-- Of lists that are put together, the items of one are found by a key that they share. -/
theorem filter_flatMap_of_nodup {α β : Type} {key : β → Nat} {line : α → Nat} {f : β → List α}
    {x : β} : ∀ {xs : List β}, (xs.map key).Nodup → (∀ y ∈ xs, ∀ a ∈ f y, line a = key y) →
      x ∈ xs → (xs.flatMap f).filter (fun a => line a = key x) = f x
  | [], _, _, hx => by cases hx
  | y :: ys, hnodup, hline, hx => by
    rw [List.map_cons, List.nodup_cons] at hnodup
    obtain ⟨hy, hnodup⟩ := hnodup
    have hys : ∀ z ∈ ys, ∀ a ∈ f z, line a = key z := fun z hz =>
      hline z (List.mem_cons_of_mem _ hz)
    have hyline : ∀ a ∈ f y, line a = key y := hline y List.mem_cons_self
    rw [List.flatMap_cons, List.filter_append]
    rcases List.mem_cons.mp hx with rfl | hx
    · have hfirst : (f x).filter (fun a => line a = key x) = f x :=
        List.filter_eq_self.mpr fun a ha => by simpa using hyline a ha
      have hrest : (ys.flatMap f).filter (fun a => line a = key x) = [] := by
        refine List.filter_eq_nil_iff.mpr fun a ha => ?_
        obtain ⟨z, hz, haz⟩ := List.mem_flatMap.mp ha
        have hza : line a = key z := hys z hz a haz
        have hne : key z ≠ key x := fun he => hy (he ▸ List.mem_map_of_mem hz)
        simpa [hza] using hne
      rw [hfirst, hrest, List.append_nil]
    · have hne : key y ≠ key x := fun he => hy (he ▸ List.mem_map_of_mem hx)
      have hfirst : (f y).filter (fun a => line a = key x) = [] :=
        List.filter_eq_nil_iff.mpr fun a ha => by simpa [hyline a ha] using hne
      rw [hfirst, List.nil_append, filter_flatMap_of_nodup hnodup hys hx]

/-! ## Compilations that return -/

section Returned

variable {numbering after : Numbering} {t : Text} {d : Diagram}

theorem pairwise_number_trace (h : compile settings numbering t = (.ok d, after)) :
    (trace settings numbering t).Pairwise (·.line.number < ·.line.number) := by
  have hlines := (compile_eq_ok h).1
  have hpairwise := pairwise_number_logicalLines (normalize t)
  rw [← hlines, List.pairwise_map] at hpairwise
  exact hpairwise

theorem nodup_number_trace (h : compile settings numbering t = (.ok d, after)) :
    ((trace settings numbering t).map (·.line.number)).Nodup := by
  have hpairwise := pairwise_number_trace h
  rw [List.Nodup, List.pairwise_map]
  exact hpairwise.imp Nat.ne_of_lt

theorem traceFault?_eq_none (h : compile settings numbering t = (.ok d, after)) :
    traceFault? (trace settings numbering t) = none := by
  rw [compile_eq_result, result, Prod.mk.injEq] at h
  cases hf : traceFault? (trace settings numbering t) with
  | none => rfl
  | some fault =>
    rw [hf] at h
    cases h.1

theorem fault?_eq_none_of_mem_trace (h : compile settings numbering t = (.ok d, after)) {e : Entry}
    (he : e ∈ trace settings numbering t) : e.outcome.fault? = none :=
  List.findSome?_eq_none_iff.mp (traceFault?_eq_none h) e he

/-- The commands with the number of a line are what became of that line. -/
theorem filter_commands (h : compile settings numbering t = (.ok d, after)) {e : Entry}
    (he : e ∈ trace settings numbering t) :
    d.commands.filter (·.line = e.line.number) = e.outcome.command?.toList := by
  obtain ⟨_, _, rfl⟩ := compile_eq_ok h
  rw [List.filterMap_eq_flatMap_toList fun e : Entry => e.outcome.command?]
  refine filter_flatMap_of_nodup (nodup_number_trace h) (fun x hx c hc => ?_) he
  exact (becomes_of_mem_trace hx).line.1 c (Option.mem_toList.mp hc)

/-- The reports with the number of a line are what became of that line. -/
theorem filter_errors (h : compile settings numbering t = (.ok d, after)) {e : Entry}
    (he : e ∈ trace settings numbering t) :
    d.errors.filter (·.line = e.line.number) = e.outcome.error?.toList := by
  obtain ⟨_, _, rfl⟩ := compile_eq_ok h
  rw [List.filterMap_eq_flatMap_toList fun e : Entry => e.outcome.error?]
  refine filter_flatMap_of_nodup (nodup_number_trace h) (fun x hx error herror => ?_) he
  exact (becomes_of_mem_trace hx).line.2.1 error (Option.mem_toList.mp herror)

/-- The warnings with the number of a line are what became of that line. -/
theorem filter_warnings (h : compile settings numbering t = (.ok d, after)) {e : Entry}
    (he : e ∈ trace settings numbering t) :
    d.warnings.filter (·.line = e.line.number) = e.outcome.warnings := by
  obtain ⟨_, _, rfl⟩ := compile_eq_ok h
  exact filter_flatMap_of_nodup (nodup_number_trace h)
    (fun x hx => (becomes_of_mem_trace hx).line.2.2) he

theorem reports_eq (h : compile settings numbering t = (.ok d, after)) {e : Entry}
    (he : e ∈ trace settings numbering t) : d.reports e.line = e.outcome.error?.isSome := by
  have herrors := filter_errors h he
  rw [Diagram.reports]
  cases hr : e.outcome.error? with
  | none =>
    rw [hr, Option.toList_none, List.filter_eq_nil_iff] at herrors
    simpa using herrors
  | some error =>
    rw [hr, Option.toList_some] at herrors
    have hmem : error ∈ d.errors.filter (·.line = e.line.number) := by simp [herrors]
    rw [List.mem_filter] at hmem
    simpa using ⟨error, hmem.1, by simpa using hmem.2⟩

/-- A line of a compilation that returns is structural exactly if it is drawn or left out. -/
theorem isStructural_eq (h : compile settings numbering t = (.ok d, after)) {e : Entry}
    (he : e ∈ trace settings numbering t) :
    isStructural (Mask.ofText (normalize t)) e.line =
      (e.outcome.isDrawn || e.outcome.error?.isSome) := by
  have hbecomes := becomes_of_mem_trace he
  have hfault := fault?_eq_none_of_mem_trace h he
  obtain ⟨l, canvas, o⟩ := e
  simp only at hbecomes hfault ⊢
  rw [isStructural]
  cases hbecomes with
  | command hd => simp [hd, Outcome.isDrawn, Outcome.error?]
  | blank hd hb => simp [hd, hb, Outcome.isDrawn, Outcome.error?]
  | drawn hd hb => simp [hd, hb, Outcome.isDrawn, Outcome.error?]
  | failed hd hb => simp [hd, hb, Outcome.isDrawn, Outcome.error?]
  | ended => cases hfault

theorem error?_eq_none_of_isDrawn {o : Outcome} (h : o.isDrawn = true) : o.error? = none := by
  cases o with
  | drawn => rfl
  | _ => cases h

theorem structuralLines_eq (h : compile settings numbering t = (.ok d, after)) :
    structuralLines (normalize t) = ((trace settings numbering t).filter fun e =>
      e.outcome.isDrawn || e.outcome.error?.isSome).map (·.line) := by
  rw [structuralLines, ← (compile_eq_ok h).1, List.filter_map]
  congr 1
  exact List.filter_congr fun e he => isStructural_eq h he

theorem drawnLines_eq (h : compile settings numbering t = (.ok d, after)) :
    drawnLines (normalize t) d =
      ((trace settings numbering t).filter (·.outcome.isDrawn)).map (·.line) := by
  rw [drawnLines, structuralLines_eq h, List.filter_map, List.filter_filter]
  congr 1
  refine List.filter_congr fun e he => ?_
  simp only [Function.comp_apply, reports_eq h he]
  cases hd : e.outcome.isDrawn with
  | true => simp [error?_eq_none_of_isDrawn hd]
  | false => simp

/-- **The lines that are not reported make the diagram**: drawn by themselves, from the numbering
that the compilation began with, they give its nodes, edges and warnings and end with its
numbering. -/
theorem drawOnly_drawnLines (h : compile settings numbering t = (.ok d, after)) :
    drawOnly settings.shapes (Mask.ofText (normalize t)) (Canvas.start numbering)
      (drawnLines (normalize t) d) = .ok (⟨after, d.nodes, d.edges⟩, d.warnings) := by
  have hsplit : trace settings numbering t = trace settings numbering t ++ [] :=
    (List.append_nil _).symm
  have hdraw := drawOnly_of_traceFrom hsplit (traceFault?_eq_none h)
  rw [← drawnLines_eq h] at hdraw
  obtain ⟨_, rfl, rfl⟩ := compile_eq_ok h
  exact hdraw

theorem filter_number_lt (h : compile settings numbering t = (.ok d, after)) {pre post : List Entry}
    {e : Entry} (hsplit : trace settings numbering t = pre ++ e :: post) {p : Entry → Bool} :
    (((trace settings numbering t).filter p).map (·.line)).filter
      (·.number < e.line.number) = (pre.filter p).map (·.line) := by
  have hpairwise := pairwise_number_trace h
  rw [hsplit, List.pairwise_append, List.pairwise_cons] at hpairwise
  obtain ⟨_, ⟨hpost, _⟩, hpre⟩ := hpairwise
  have hbefore : ∀ x ∈ pre, decide (x.line.number < e.line.number) = true := fun x hx => by
    simpa using hpre x hx e List.mem_cons_self
  have hbehind : ∀ x ∈ e :: post, ¬ decide (x.line.number < e.line.number) = true := by
    intro x hx
    rcases List.mem_cons.mp hx with rfl | hx
    · simp
    · simpa using Nat.le_of_lt (hpost x hx)
  rw [List.filter_map, hsplit, List.filter_filter, List.filter_append, List.map_append]
  have hnone : (e :: post).filter (fun x =>
      decide (x.line.number < e.line.number) && p x) = [] := by
    refine List.filter_eq_nil_iff.mpr fun x hx => ?_
    simpa using fun hlt => absurd (by simpa using hlt) (hbehind x hx)
  have hall : pre.filter (fun x => decide (x.line.number < e.line.number) && p x) =
      pre.filter p := List.filter_congr fun x hx => by rw [hbefore x hx, Bool.true_and]
  simp only [Function.comp_apply, hnone, hall, List.map_nil, List.append_nil]

/-- **The canvas that a line is reached with** is the drawing of the lines before it that are not
reported. -/
theorem drawOnly_before (h : compile settings numbering t = (.ok d, after)) {e : Entry}
    (he : e ∈ trace settings numbering t) :
    ∃ warnings, drawOnly settings.shapes (Mask.ofText (normalize t)) (Canvas.start numbering)
      ((drawnLines (normalize t) d).filter (·.number < e.line.number)) =
        .ok (e.canvas, warnings) := by
  obtain ⟨pre, post, hsplit⟩ := List.append_of_mem he
  have hfault := traceFault?_eq_none h
  rw [hsplit, traceFault?_append] at hfault
  rw [drawnLines_eq h, filter_number_lt h hsplit]
  have hsplit : traceFrom settings (Mask.ofText (normalize t)) (Canvas.start numbering)
      (logicalLines (normalize t)) = pre ++ e :: post := hsplit
  rw [canvas_eq_lastCanvas hsplit hfault.1]
  exact ⟨_, drawOnly_of_traceFrom hsplit hfault.1⟩

end Returned

end Sketch

end GraphSketch
