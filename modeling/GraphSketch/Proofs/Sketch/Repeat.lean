import GraphSketch.Proofs.Numbering.History
import GraphSketch.Proofs.Sketch.Strict

/-!
# Compiling again

A text that compiles without reports compiles to the same diagram at every later moment: each label
has its number by then, and each reference goes on naming what it named.

* `addNode_withNumbering`, `drawLine_withNumbering` — drawing on a canvas of which the numbering has
  grown past the drawing gives the same drawing, and no number is given out.
* `traceFrom_withNumbering` — the same for all lines, by induction along the trace.
* `Session.compile_again` — a session gives the same diagram again and keeps its numbering.
-/

set_option autoImplicit false

namespace GraphSketch

namespace Canvas

/-- The same drawing over another numbering. -/
def withNumbering (canvas : Canvas) (m : Numbering) : Canvas := { canvas with numbering := m }

variable {known : List Shape} {m : Numbering}

theorem addNodes_grows (known : List Shape) (ls : List Text) {canvas : Canvas}
    (hc : canvas.numbering.Sound) :
    (ls.foldl (addNode known) canvas).numbering.Sound ∧
      canvas.numbering.Grows (ls.foldl (addNode known) canvas).numbering := by
  obtain ⟨given, hgiven⟩ := addNodes_numbering ls canvas
  rw [hgiven]
  exact ⟨Numbering.assignAll_sound given hc, Numbering.assignAll_grows given hc⟩

theorem addNode_grows (known : List Shape) {canvas : Canvas} (hc : canvas.numbering.Sound)
    (label : Text) :
    (addNode known canvas label).numbering.Sound ∧
      canvas.numbering.Grows (addNode known canvas label).numbering :=
  addNodes_grows known [label] hc

/-- A node that is added again has the number that its label was given. -/
theorem addNode_withNumbering {canvas : Canvas} {label : Text}
    (hm : (addNode known canvas label).numbering.Grows m) :
    addNode known (canvas.withNumbering m) label =
      (addNode known canvas label).withNumbering m := by
  rcases addNode_cases known canvas label with ⟨hmem, h⟩ | ⟨hnot, h⟩
  · rcases addNode_cases known (canvas.withNumbering m) label with ⟨_, h'⟩ | ⟨hnot, _⟩
    · rw [h, h']
    · exact absurd hmem hnot
  · rw [h] at hm
    have hnumber : m.number? label = some (canvas.numbering.assign label).2 :=
      hm.kept _ _ (Numbering.number?_assign_self _ _)
    rcases addNode_cases known (canvas.withNumbering m) label with ⟨hmem, _⟩ | ⟨_, h'⟩
    · exact absurd hmem hnot
    · rw [h, h']
      simp only [withNumbering, Numbering.assign_of_number? hnumber]

theorem addNodes_withNumbering : ∀ (ls : List Text) {canvas : Canvas}, canvas.numbering.Sound →
    (ls.foldl (addNode known) canvas).numbering.Grows m →
      ls.foldl (addNode known) (canvas.withNumbering m) =
        (ls.foldl (addNode known) canvas).withNumbering m
  | [], _, _, _ => rfl
  | label :: ls, canvas, hc, hm => by
    obtain ⟨hfirst, -⟩ := addNode_grows known hc label
    obtain ⟨-, hrest⟩ := addNodes_grows known ls hfirst
    rw [List.foldl_cons] at hm ⊢
    rw [addNode_withNumbering (hrest.trans hm), addNodes_withNumbering ls hfirst hm]
    rfl

theorem foldl_addEdge_withNumbering : ∀ (es : List (Text × Text × Option Text)) (canvas : Canvas),
    es.foldl addEdge (canvas.withNumbering m) = (es.foldl addEdge canvas).withNumbering m
  | [], _ => rfl
  | e :: es, canvas => foldl_addEdge_withNumbering es (canvas.addEdge e)

end Canvas

namespace Sketch

variable {settings : Settings} {shapes : List Shape} {mask : Mask} {m : Numbering}

/-! ## Lines -/

theorem segmentLabels_of_grows {numbering : Numbering} (hm : numbering.Grows m) :
    ∀ {segments : List Text} {labels : List (Option Text)},
    segmentLabels mask numbering segments = .ok labels →
      segmentLabels mask m segments = .ok labels
  | [], _, h => h
  | segment :: segments, labels, h => by
    rw [segmentLabels] at h ⊢
    cases hfirst : segmentLabel mask numbering segment with
    | error fault => simp [hfirst] at h
    | ok label =>
      have hagain : segmentLabel mask m segment = .ok label := by
        unfold segmentLabel at hfirst ⊢
        split
        · rename_i hplaceholder
          rw [if_pos hplaceholder] at hfirst
          exact hfirst
        · rename_i hplaceholder
          rw [if_neg hplaceholder] at hfirst
          exact hm.resolve hfirst
      cases hrest : segmentLabels mask numbering segments with
      | error fault => simp [hfirst, hrest, Except.map] at h
      | ok rest =>
        rw [hagain, segmentLabels_of_grows hm hrest]
        simpa [hfirst, hrest] using h

theorem drawLine_grows {canvas canvas' : Canvas} {line : Nat} {text : Text}
    {warnings : List Warning} (hc : canvas.numbering.Sound)
    (h : drawLine shapes mask canvas line text = .ok (canvas', warnings)) :
    canvas'.numbering.Sound ∧ canvas.numbering.Grows canvas'.numbering := by
  obtain ⟨labels, hlabels⟩ := drawLine_numbering h
  rw [hlabels]
  exact ⟨Numbering.assignAll_sound labels hc, Numbering.assignAll_grows labels hc⟩

/-- **A line that is drawn is drawn again** over every numbering that continues the one it left. -/
theorem drawLine_withNumbering {canvas canvas' : Canvas} {line : Nat} {text : Text}
    {warnings : List Warning} (hc : canvas.numbering.Sound)
    (h : drawLine shapes mask canvas line text = .ok (canvas', warnings))
    (hm : canvas'.numbering.Grows m) :
    drawLine shapes mask (canvas.withNumbering m) line text =
      .ok (canvas'.withNumbering m, warnings) := by
  have hgrows : canvas.numbering.Grows m := (drawLine_grows hc h).2.trans hm
  obtain ⟨labels, hlabels, rfl, rfl⟩ := drawLine_eq_ok h
  have hagain : segmentLabels mask (canvas.withNumbering m).numbering (Chain.ofLine text).operands =
      .ok labels := segmentLabels_of_grows hgrows hlabels
  rw [Canvas.connect_numbering] at hm
  rw [drawLine_of_labels hagain, Canvas.addNodes_withNumbering _ hc hm, Canvas.connect,
    Canvas.foldl_addEdge_withNumbering]
  rfl

/-! ## Traces -/

/-- The same outcome over another numbering. -/
def Outcome.withNumbering (m : Numbering) : Outcome → Outcome
  | drawn canvas warnings => drawn (canvas.withNumbering m) warnings
  | o => o

/-- The same entry over another numbering. -/
def Entry.withNumbering (m : Numbering) (e : Entry) : Entry :=
  ⟨e.line, e.canvas.withNumbering m, e.outcome.withNumbering m⟩

theorem outcome_grows (settings : Settings) (mask : Mask) {canvas : Canvas}
    (hc : canvas.numbering.Sound) (l : LogicalLine) :
    let next := (outcome settings mask canvas l).next canvas
    next.numbering.Sound ∧ canvas.numbering.Grows next.numbering := by
  have hbecomes := becomes_outcome settings mask canvas l
  generalize outcome settings mask canvas l = o at hbecomes
  cases hbecomes with
  | drawn hd hb hdraw => exact drawLine_grows hc hdraw
  | _ => exact ⟨hc, .refl _⟩

theorem lastCanvas_grows (settings : Settings) (mask : Mask) : ∀ {canvas : Canvas}
    (ls : List LogicalLine), canvas.numbering.Sound →
    canvas.numbering.Grows (lastCanvas canvas (traceFrom settings mask canvas ls)).numbering
  | _, [], _ => .refl _
  | canvas, l :: ls, hc => by
    obtain ⟨hsound, hgrows⟩ := outcome_grows settings mask hc l
    rw [traceFrom, lastCanvas, List.foldl_cons]
    split
    · exact hgrows
    · exact hgrows.trans (lastCanvas_grows settings mask ls hsound)

/-- A line that is neither left out nor ends the compilation has the same outcome again. -/
theorem outcome_withNumbering (m : Numbering) {canvas : Canvas} (hc : canvas.numbering.Sound)
    (l : LogicalLine)
    (hfault : (outcome settings mask canvas l).fault? = none)
    (herror : (outcome settings mask canvas l).error? = none)
    (hm : ((outcome settings mask canvas l).next canvas).numbering.Grows m) :
    outcome settings mask (canvas.withNumbering m) l =
      (outcome settings mask canvas l).withNumbering m := by
  have hbecomes := becomes_outcome settings mask canvas l
  generalize outcome settings mask canvas l = o at hfault herror hm hbecomes
  cases hbecomes with
  | command hd => simp [outcome, hd, Outcome.withNumbering]
  | blank hd hb => simp [outcome, hd, hb, Outcome.withNumbering]
  | drawn hd hb hdraw =>
    have hagain := drawLine_withNumbering hc hdraw hm
    simp [outcome, hd, hb, hagain, Outcome.withNumbering]
  | failed => cases herror
  | ended => cases hfault

/-- **A trace without reports is gone over again** over every numbering that continues the one it
left. -/
theorem traceFrom_withNumbering : ∀ {canvas : Canvas} (ls : List LogicalLine),
    canvas.numbering.Sound →
    traceFault? (traceFrom settings mask canvas ls) = none →
    (∀ e ∈ traceFrom settings mask canvas ls, e.outcome.error? = none) →
    (lastCanvas canvas (traceFrom settings mask canvas ls)).numbering.Grows m →
      traceFrom settings mask (canvas.withNumbering m) ls =
        (traceFrom settings mask canvas ls).map (Entry.withNumbering m)
  | _, [], _, _, _, _ => rfl
  | canvas, l :: ls, hc, hfault, herror, hm => by
    obtain ⟨hsound, -⟩ := outcome_grows settings mask hc l
    have hfirst := @outcome_withNumbering settings mask m canvas hc l
    have hrest := lastCanvas_grows settings mask ls hsound
    have ih := traceFrom_withNumbering ls hsound
    rw [traceFrom] at hfault herror hm ⊢
    rw [traceFrom]
    generalize outcome settings mask canvas l = o at hfault herror hm hfirst hrest ih ⊢
    rw [traceFault?, List.findSome?_cons] at hfault
    cases hf : o.fault? with
    | some fault => simp [hf] at hfault
    | none =>
      simp only [hf, Option.isSome_none, Bool.false_eq_true, if_false, List.mem_cons,
        forall_eq_or_imp, lastCanvas, List.foldl_cons] at hfault herror hm ⊢
      obtain ⟨hothers, herror⟩ := herror
      have hagain := hfirst hf hothers (hrest.trans hm)
      have hfault' : (o.withNumbering m).fault? = none := by
        cases o with
        | ended => cases hf
        | _ => rfl
      have hnext : (o.withNumbering m).next (canvas.withNumbering m) =
          (o.next canvas).withNumbering m := by
        cases o <;> rfl
      rw [hagain, hfault', hnext, ih hfault herror hm]
      rfl

/-! ## Compilations -/

theorem lastCanvas_map_withNumbering : ∀ (entries : List Entry) (canvas : Canvas),
    lastCanvas (canvas.withNumbering m) (entries.map (Entry.withNumbering m)) =
      (lastCanvas canvas entries).withNumbering m
  | [], _ => rfl
  | e :: entries, canvas => by
    have ih := lastCanvas_map_withNumbering entries (e.outcome.next canvas)
    obtain ⟨l, _, o⟩ := e
    cases o <;> exact ih

/-- What a trace comes to does not depend on the numbering behind it. -/
theorem result_map_withNumbering (numbering : Numbering) (entries : List Entry) :
    result m (entries.map (Entry.withNumbering m)) = ((result numbering entries).1, m) := by
  have hcanvas := lastCanvas_map_withNumbering (m := m) entries (Canvas.start numbering)
  have hstart : (Canvas.start numbering).withNumbering m = Canvas.start m := rfl
  rw [hstart] at hcanvas
  have hfault : (fun e : Entry => (e.withNumbering m).outcome.fault?) = fun e => e.outcome.fault? := by
    funext ⟨l, canvas, o⟩
    cases o <;> rfl
  have hcommand : (fun e : Entry => (e.withNumbering m).outcome.command?) =
      fun e => e.outcome.command? := by
    funext ⟨l, canvas, o⟩
    cases o <;> rfl
  have herror : (fun e : Entry => (e.withNumbering m).outcome.error?) = fun e => e.outcome.error? := by
    funext ⟨l, canvas, o⟩
    cases o <;> rfl
  have hwarnings : (fun e : Entry => (e.withNumbering m).outcome.warnings) =
      fun e => e.outcome.warnings := by
    funext ⟨l, canvas, o⟩
    cases o <;> rfl
  simp only [result, hcanvas, traceFault?, List.findSome?_map, List.filterMap_map, List.flatMap_map,
    Function.comp_def, hfault, hcommand, herror, hwarnings]
  rfl

/-- **A text that compiles without reports compiles alike at every later moment**, and no number is
given out then. -/
theorem compile_of_grows {numbering after : Numbering} {t : Text} {d : Diagram}
    (hsound : numbering.Sound) (h : compile settings numbering t = (.ok d, after))
    (herrors : d.errors = []) (hm : after.Grows m) : compile settings m t = (.ok d, m) := by
  have hnone : ∀ e ∈ trace settings numbering t, e.outcome.error? = none := by
    obtain ⟨-, -, rfl⟩ := compile_eq_ok h
    exact List.filterMap_eq_nil_iff.mp herrors
  have hlast : (lastCanvas (Canvas.start numbering) (trace settings numbering t)).numbering.Grows
      m := (compile_eq_ok h).2.1 ▸ hm
  have htrace : trace settings m t = (trace settings numbering t).map (Entry.withNumbering m) :=
    traceFrom_withNumbering _ hsound (traceFault?_eq_none h) hnone hlast
  rw [compile_eq_result, htrace, result_map_withNumbering numbering,
    ← compile_eq_result, h]

end Sketch

namespace Session

/-- **A session gives the same diagram again**: whatever has been compiled in the meantime, by this
session or by others with its numbering, and whatever labels have been given numbers, a text that
compiled without reports compiles to the same diagram, and the numbering stays as it is. -/
theorem compile_again {session after : Session} {t : Text} {d : Diagram}
    {events : List Numbering.Event} (hreached : session.numbering.Reached)
    (h : session.compile t = (.ok d, after)) (herrors : d.errors = []) (hclear : .clear ∉ events)
    (last : Diagram) :
    let later : Session := ⟨session.settings, after.numbering.run events, last⟩
    later.compile t = (.ok d, { later with last := d }) := by
  intro later
  obtain ⟨hcompile, -⟩ := compile_eq_ok h
  have hsound : after.numbering.Sound := by
    obtain ⟨labels, hlabels⟩ := Sketch.compile_numbering session.settings session.numbering t
    rw [hcompile] at hlabels
    simp only at hlabels
    rw [hlabels]
    exact Numbering.assignAll_sound labels hreached.sound
  have hagain := Sketch.compile_of_grows hreached.sound hcompile herrors
    (Numbering.run_grows events hsound hclear)
  exact compile_of_ok later hagain

/-- A text with references, compiled again when there are other labels and a text has failed. -/
theorem compile_again_of_references :
    let session : Session := .start ⟨true, false⟩ ⟨[("A", 3), ("B", 3)], [(3, "B")], 4⟩
    let t : Text := "C -> :3\nA -> :4\n=rename(C, D)"
    let d : Diagram := ⟨[⟨"C", 4, .rectangle, 0⟩, ⟨"B", 3, .rectangle, 1⟩, ⟨"A", 3, .rectangle, 2⟩],
      [⟨0, "C", "B", none⟩, ⟨1, "A", "C", none⟩],
      [⟨.rename "C" "D", "=rename(C, D)", 3⟩], [], []⟩
    let after : Session :=
      ⟨⟨true, false⟩, ⟨[("A", 3), ("B", 3), ("C", 4)], [(3, "B"), (4, "C")], 5⟩, d⟩
    let events : List Numbering.Event :=
      [.assign "E", .compile ⟨true, true⟩ "F\n:9\nG", .compile ⟨true, false⟩ "H -> :9\n:5 -> I"]
    let later : Session := ⟨session.settings, after.numbering.run events, Diagram.empty⟩
    session.numbering.Reached ∧ session.compile t = (.ok d, after) ∧ d.errors = [] ∧
      .clear ∉ events ∧ later.compile t = (.ok d, { later with last := d }) := by
  intro session t d after events later
  have hreached : session.numbering.Reached :=
    ⟨.obj [("labelToId", .obj [("A", .int 3), ("B", .int 3)])], session.numbering, [],
      Numbering.isMapping_of_field? rfl (by decide), rfl, rfl⟩
  have hcompile : Sketch.compile ⟨true, false⟩ session.numbering t = (.ok d, after.numbering) := by
    decide +kernel
  have h : session.compile t = (.ok d, after) := compile_of_ok session hcompile
  have hclear : Numbering.Event.clear ∉ events := by simp [events]
  exact ⟨hreached, h, rfl, hclear, compile_again hreached h rfl hclear Diagram.empty⟩

end Session

end GraphSketch
