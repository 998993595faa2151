import GraphSketch.Proofs.Mask.Lines
import GraphSketch.Proofs.Mask.Restore
import GraphSketch.Sketch

/-!
# The trace of a compilation

A compilation reads the masked text twice, once for commands and once for everything else, and
counts lines each time.  Its `trace` goes over the logical lines once and says of each what becomes
of it: `outcome` is a function of the line, of its place in the source and of the canvas before it.

* `drawLines_extractLines` — drawing what is left after the commands are taken out goes over the
  same lines, with the same numbers.
* `compile_eq_result` — a compilation is its trace: all parts of the result are read off it.
-/

set_option autoImplicit false

namespace GraphSketch

namespace Sketch

/-! ## Outcomes -/

/-- What becomes of a line. -/
inductive Outcome where
  /-- It is a command. -/
  | command (command : Command)
  /-- There is nothing on it. -/
  | blank
  /-- It is drawn, with the canvas afterwards. -/
  | drawn (canvas : Canvas) (warnings : List Warning)
  /-- It is left out. -/
  | failed (error : LineError)
  /-- It ends the compilation. -/
  | ended (fault : ResolveFault)

namespace Outcome

/-- The command on the line. -/
def command? : Outcome → Option Command
  | command c => some c
  | _ => none

/-- The report of a line that is left out. -/
def error? : Outcome → Option LineError
  | failed error => some error
  | _ => none

/-- The warnings about what is passed over on the line. -/
def warnings : Outcome → List Warning
  | drawn _ warnings => warnings
  | _ => []

/-- The fault that ends the compilation. -/
def fault? : Outcome → Option ResolveFault
  | ended fault => some fault
  | _ => none

/-- The canvas after the line, given the one before it. -/
def next (canvas : Canvas) : Outcome → Canvas
  | drawn canvas' _ => canvas'
  | _ => canvas

end Outcome

/-- What becomes of a line that is reached with the given canvas. -/
def outcome (settings : Settings) (mask : Mask) (canvas : Canvas) (l : LogicalLine) : Outcome :=
  let text := l.masked mask
  match Command.detect mask text l.number with
  | some command => .command command
  | none =>
    if Text.isBlankText text then
      .blank
    else
      match drawLine settings.shapes mask canvas l.number text with
      | .ok (canvas', warnings) => .drawn canvas' warnings
      | .error (.oversized fault) => .ended (.oversized fault)
      | .error (.unresolved cause) =>
        if settings.strict then .ended (.unresolved cause)
        else .failed ⟨l.number, Text.trim (mask.restore text), cause⟩

/-- Everything that can become of a line, and when. -/
inductive Becomes (settings : Settings) (mask : Mask) (canvas : Canvas) (l : LogicalLine) :
    Outcome → Prop
  | command {c : Command}
      (hd : Command.detect mask (l.masked mask) l.number = some c) :
      Becomes settings mask canvas l (.command c)
  | blank (hd : Command.detect mask (l.masked mask) l.number = none)
      (hb : Text.isBlankText (l.masked mask) = true) :
      Becomes settings mask canvas l .blank
  | drawn {canvas' : Canvas} {warnings : List Warning}
      (hd : Command.detect mask (l.masked mask) l.number = none)
      (hb : ¬ Text.isBlankText (l.masked mask) = true)
      (hdraw : drawLine settings.shapes mask canvas l.number (l.masked mask) =
        .ok (canvas', warnings)) :
      Becomes settings mask canvas l (.drawn canvas' warnings)
  | failed {cause : Unresolved}
      (hd : Command.detect mask (l.masked mask) l.number = none)
      (hb : ¬ Text.isBlankText (l.masked mask) = true)
      (hdraw : drawLine settings.shapes mask canvas l.number (l.masked mask) =
        .error (.unresolved cause)) (hs : ¬ settings.strict = true) :
      Becomes settings mask canvas l
        (.failed ⟨l.number, Text.trim (mask.restore (l.masked mask)), cause⟩)
  | ended {fault : ResolveFault}
      (hd : Command.detect mask (l.masked mask) l.number = none)
      (hb : ¬ Text.isBlankText (l.masked mask) = true)
      (hdraw : drawLine settings.shapes mask canvas l.number (l.masked mask) =
        .error fault) (hs : ∀ cause, fault = .unresolved cause → settings.strict = true) :
      Becomes settings mask canvas l (.ended fault)

theorem becomes_outcome (settings : Settings) (mask : Mask) (canvas : Canvas) (l : LogicalLine) :
    Becomes settings mask canvas l (outcome settings mask canvas l) := by
  simp only [outcome]
  split
  · rename_i hd
    exact .command hd
  · rename_i hd
    split
    · rename_i hb
      exact .blank hd hb
    · rename_i hb
      split
      · rename_i hdraw
        exact .drawn hd hb hdraw
      · rename_i hdraw
        exact .ended hd hb hdraw fun cause h => by cases h
      · rename_i hdraw
        split
        · rename_i hs
          exact .ended hd hb hdraw fun _ _ => hs
        · rename_i hs
          exact .failed hd hb hdraw hs

theorem command?_outcome (settings : Settings) (mask : Mask) (canvas : Canvas) (l : LogicalLine) :
    (outcome settings mask canvas l).command? =
      Command.detect mask (l.masked mask) l.number := by
  have hbecomes := becomes_outcome settings mask canvas l
  generalize outcome settings mask canvas l = o at hbecomes
  cases hbecomes with
  | command hd => exact hd.symm
  | blank hd => exact hd.symm
  | drawn hd => exact hd.symm
  | failed hd => exact hd.symm
  | ended hd => exact hd.symm

/-! ## Traces -/

/-- A line that a compilation has reached. -/
structure Entry where
  line : LogicalLine
  /-- The canvas before the line. -/
  canvas : Canvas
  outcome : Outcome

/-- The lines one after the other, up to one that ends the compilation. -/
def traceFrom (settings : Settings) (mask : Mask) : Canvas → List LogicalLine → List Entry
  | _, [] => []
  | canvas, l :: ls =>
    let o := outcome settings mask canvas l
    ⟨l, canvas, o⟩ ::
      if o.fault?.isSome then [] else traceFrom settings mask (o.next canvas) ls

/-- The lines that the compilation of a text reaches, each with what becomes of it. -/
def trace (settings : Settings) (numbering : Numbering) (t : Text) : List Entry :=
  traceFrom settings (Mask.ofText (normalize t)) (Canvas.start numbering)
    (logicalLines (normalize t))

/-- The canvas after all entries of a trace. -/
def lastCanvas (canvas : Canvas) (entries : List Entry) : Canvas :=
  entries.foldl (fun canvas e => e.outcome.next canvas) canvas

/-- The fault that ends a trace. -/
def traceFault? (entries : List Entry) : Option ResolveFault :=
  entries.findSome? (·.outcome.fault?)

/-- What a compilation with the given trace returns. -/
def result (numbering : Numbering) (entries : List Entry) :
    Except ResolveFault Diagram × Numbering :=
  let canvas := lastCanvas (Canvas.start numbering) entries
  (match traceFault? entries with
    | some fault => .error fault
    | none => .ok {
        nodes := canvas.nodes
        edges := canvas.edges
        commands := entries.filterMap (·.outcome.command?)
        errors := entries.filterMap (·.outcome.error?)
        warnings := entries.flatMap (·.outcome.warnings) },
    canvas.numbering)

variable {settings : Settings} {mask : Mask}

theorem map_line_traceFrom : ∀ {canvas : Canvas} {ls : List LogicalLine},
    traceFault? (traceFrom settings mask canvas ls) = none →
      (traceFrom settings mask canvas ls).map (·.line) = ls
  | _, [], _ => rfl
  | canvas, l :: ls, h => by
    rw [traceFrom, traceFault?, List.findSome?_cons] at h
    cases hf : (outcome settings mask canvas l).fault? with
    | some fault =>
      simp only [hf] at h
      cases h
    | none =>
      simp only [hf, Option.isSome_none, Bool.false_eq_true, if_false] at h
      simp only [traceFrom, hf, Option.isSome_none, Bool.false_eq_true, if_false, List.map_cons]
      rw [map_line_traceFrom h]

/-- In a trace every line has the outcome that it has by itself. -/
theorem outcome_of_mem_traceFrom {e : Entry} : ∀ {canvas : Canvas} {ls : List LogicalLine},
    e ∈ traceFrom settings mask canvas ls →
      e.line ∈ ls ∧ e.outcome = outcome settings mask e.canvas e.line
  | _, [], h => by cases h
  | canvas, l :: ls, h => by
    rw [traceFrom, List.mem_cons] at h
    rcases h with rfl | h
    · exact ⟨List.mem_cons_self, rfl⟩
    · split at h
      · cases h
      · obtain ⟨hl, ho⟩ := outcome_of_mem_traceFrom h
        exact ⟨List.mem_cons_of_mem _ hl, ho⟩

/-- A trace that does not end early has the commands of all lines. -/
theorem filterMap_command?_traceFrom {canvas : Canvas} {ls : List LogicalLine}
    (h : traceFault? (traceFrom settings mask canvas ls) = none) :
    (traceFrom settings mask canvas ls).filterMap (·.outcome.command?) =
      ls.filterMap fun l => Command.detect mask (l.masked mask) l.number := by
  conv => rhs; rw [← map_line_traceFrom h, List.filterMap_map]
  refine List.filterMap_congr fun e he => ?_
  rw [(outcome_of_mem_traceFrom he).2, command?_outcome]
  rfl

/-! ## The two passes -/

/-- The parts of the lines that are still to be read can be restored. -/
def Restorable (mask : Mask) (ls : List Marked) : Prop :=
  ∀ s ∈ ls, .char '\n' ∉ s ∧ mask.restore (s.masked mask.width) = s.filled

theorem Restorable.tail {s : Marked} {ls : List Marked} (h : Restorable mask (s :: ls)) :
    Restorable mask ls := fun _ hs => h _ (List.mem_cons_of_mem _ hs)

theorem innerLines_masked {s : Marked} (h : mask.restore (s.masked mask.width) = s.filled) :
    Command.innerLines mask (s.masked mask.width) = s.source.count '\n' := by
  rw [Command.innerLines, h, Marked.count_filled]

theorem number_next (before : Text) (s : Marked) :
    1 + (before ++ s.source ++ ['\n']).count '\n' =
      1 + before.count '\n' + 1 + s.source.count '\n' := by
  simp only [List.count_append, List.count_singleton_self]
  omega

theorem extractLines_commands : ∀ (before : Text) {ls : List Marked}, Restorable mask ls →
    (Command.extractLines mask (1 + before.count '\n') (ls.map (Marked.masked mask.width))).1 =
      (LogicalLine.placed before ls).filterMap fun l =>
        Command.detect mask (l.masked mask) l.number
  | _, [], _ => rfl
  | before, s :: ls, h => by
    have ih := extractLines_commands (before ++ s.source ++ ['\n']) h.tail
    rw [number_next] at ih
    rw [List.map_cons, LogicalLine.placed, List.filterMap_cons, Command.extractLines,
      innerLines_masked (h s List.mem_cons_self).2, LogicalLine.number, LogicalLine.masked]
    dsimp only
    rw [← ih]
    split <;> rename_i hd <;> simp only [hd]

theorem lines_extract (mask : Mask) (t : Text) :
    Text.lines (Command.extract mask t).2 =
      (Command.extractLines mask 1 (Text.lines t)).2.flatMap Text.lines := by
  refine Text.lines_unlines ?_
  obtain ⟨text, texts, htexts⟩ := List.exists_cons_of_ne_nil (Text.splitOn_ne_nil '\n' t)
  rw [Text.lines, htexts, Command.extractLines]
  dsimp only
  split <;> exact List.cons_ne_nil _ _

theorem drawLines_replicate_nil : ∀ (n line : Nat) (texts : List Text) (drawing : Drawing),
    drawLines settings mask line (List.replicate n [] ++ texts) drawing =
      drawLines settings mask (line + n) texts drawing
  | 0, _, _, _ => rfl
  | n + 1, line, texts, drawing => by
    rw [List.replicate_succ, List.cons_append, drawLines,
      show Command.innerLines mask [] = 0 from rfl]
    simp only [Text.isBlankText, List.all_nil, if_true]
    rw [drawLines_replicate_nil n, show line + 1 + 0 + n = line + (n + 1) by omega]

/-- What the first pass leaves of a line for the second. -/
def kept (mask : Mask) (l : LogicalLine) : List Text :=
  if (Command.detect mask (l.masked mask) l.number).isSome then
    List.replicate (l.symbols.source.count '\n' + 1) []
  else
    [l.masked mask]

theorem extractLines_kept {before : Text} {s : Marked} {ls : List Marked}
    (h : Restorable mask (s :: ls)) :
    (Command.extractLines mask (1 + before.count '\n')
      ((s :: ls).map (Marked.masked mask.width))).2.flatMap Text.lines =
      kept mask ⟨before, s⟩ ++ (Command.extractLines mask
        (1 + (before ++ s.source ++ ['\n']).count '\n')
        (ls.map (Marked.masked mask.width))).2.flatMap Text.lines := by
  obtain ⟨hfeed, hrestore⟩ := h s List.mem_cons_self
  rw [List.map_cons, Command.extractLines, innerLines_masked hrestore, number_next, kept,
    LogicalLine.number, LogicalLine.masked]
  dsimp only
  split
  · rename_i hd
    rw [hd, List.flatMap_cons, Text.lines, Text.splitOn_replicate]
    rfl
  · rename_i hd
    rw [hd, List.flatMap_cons, Text.lines, Text.splitOn_of_notMem (Marked.feed_notMem_masked hfeed)]
    rfl

/-- The drawing after a line. -/
def Drawing.add (drawing : Drawing) (o : Outcome) : Drawing :=
  ⟨o.next drawing.canvas, drawing.warnings ++ o.warnings, drawing.errors ++ o.error?.toList⟩

/-- The second pass does with a line what its outcome says, and goes on behind it. -/
theorem drawLines_kept (settings : Settings) {l : LogicalLine} (texts : List Text)
    (drawing : Drawing) (hrestore : mask.restore (l.masked mask) = l.symbols.filled) :
    drawLines settings mask l.number (kept mask l ++ texts) drawing =
      match (outcome settings mask drawing.canvas l).fault? with
      | some fault => (drawing, some fault)
      | none => drawLines settings mask (l.number + 1 + l.symbols.source.count '\n') texts
          (drawing.add (outcome settings mask drawing.canvas l)) := by
  have hinner : Command.innerLines mask (l.masked mask) = l.symbols.source.count '\n' :=
    innerLines_masked hrestore
  have hbecomes := becomes_outcome settings mask drawing.canvas l
  generalize outcome settings mask drawing.canvas l = o at hbecomes
  cases hbecomes with
  | command hd =>
    rw [kept, hd, Option.isSome_some, if_pos rfl, drawLines_replicate_nil,
      show l.number + (l.symbols.source.count '\n' + 1) =
        l.number + 1 + l.symbols.source.count '\n' by omega]
    simp [Outcome.fault?, Drawing.add, Outcome.next, Outcome.warnings, Outcome.error?]
  | blank hd hb =>
    rw [kept, hd, Option.isSome_none, if_neg Bool.false_ne_true, List.singleton_append, drawLines,
      hinner]
    simp [hb, Outcome.fault?, Drawing.add, Outcome.next, Outcome.warnings, Outcome.error?]
  | drawn hd hb hdraw =>
    rw [kept, hd, Option.isSome_none, if_neg Bool.false_ne_true, List.singleton_append, drawLines,
      hinner]
    simp [hb, hdraw, Outcome.fault?, Drawing.add, Outcome.next, Outcome.warnings, Outcome.error?]
  | failed hd hb hdraw hs =>
    rw [kept, hd, Option.isSome_none, if_neg Bool.false_ne_true, List.singleton_append, drawLines,
      hinner]
    simp [hb, hdraw, hs, Outcome.fault?, Drawing.add, Outcome.next, Outcome.warnings,
      Outcome.error?]
  | @ended fault hd hb hdraw hs =>
    rw [kept, hd, Option.isSome_none, if_neg Bool.false_ne_true, List.singleton_append, drawLines,
      hinner]
    cases fault with
    | oversized fault => simp [hb, hdraw, Outcome.fault?]
    | unresolved cause => simp [hb, hdraw, hs cause rfl, Outcome.fault?]

/-- **The second pass goes over the lines of the first**: with the commands taken out, each
logical line is drawn under its own number. -/
theorem drawLines_extractLines (settings : Settings) : ∀ (before : Text) {ls : List Marked}
    (drawing : Drawing), Restorable mask ls →
    let entries := traceFrom settings mask drawing.canvas (LogicalLine.placed before ls)
    drawLines settings mask (1 + before.count '\n')
        ((Command.extractLines mask (1 + before.count '\n')
          (ls.map (Marked.masked mask.width))).2.flatMap Text.lines) drawing =
      (⟨lastCanvas drawing.canvas entries,
        drawing.warnings ++ entries.flatMap (·.outcome.warnings),
        drawing.errors ++ entries.filterMap (·.outcome.error?)⟩, traceFault? entries)
  | before, [], drawing, _ => by
    simp [LogicalLine.placed, traceFrom, Command.extractLines, drawLines, lastCanvas, traceFault?]
  | before, s :: ls, drawing, h => by
    intro entries
    have ih := drawLines_extractLines settings (before ++ s.source ++ ['\n'])
      (drawing.add (outcome settings mask drawing.canvas ⟨before, s⟩)) h.tail
    have hstep := drawLines_kept settings (l := ⟨before, s⟩)
      ((Command.extractLines mask (1 + (before ++ s.source ++ ['\n']).count '\n')
        (ls.map (Marked.masked mask.width))).2.flatMap Text.lines) drawing
      (h s List.mem_cons_self).2
    rw [extractLines_kept h]
    refine hstep.trans ?_
    simp only [entries, LogicalLine.placed, traceFrom]
    generalize ho : outcome settings mask drawing.canvas ⟨before, s⟩ = o at ih
    cases hf : o.fault? with
    | some fault =>
      -- a line that ends the compilation leaves the drawing as it was
      cases o with
      | ended fault =>
        cases hf
        simp [lastCanvas, traceFault?, Outcome.fault?, Outcome.next, Outcome.warnings,
          Outcome.error?]
      | _ => cases hf
    | none =>
      dsimp only at ih ⊢
      rw [LogicalLine.number, ← number_next, ih]
      simp only [Option.isSome_none, Bool.false_eq_true, if_false, List.flatMap_cons,
        List.filterMap_cons, traceFault?, List.findSome?_cons, hf, lastCanvas, List.foldl_cons,
        Drawing.add, List.append_assoc]
      cases o.error? <;> rfl

theorem restorable_lines (t : Text) : Restorable (Mask.ofText t) (Marked.ofText t).lines := by
  intro s hs
  rw [← LogicalLine.map_symbols_placed [] (Marked.ofText t).lines] at hs
  obtain ⟨l, hl, rfl⟩ := List.mem_map.mp hs
  have hstands := standsIn_of_mem_logicalLines hl
  exact ⟨hstands.feed_notMem, Marked.restore_masked hstands.isInfix_symbols⟩

/-- **A compilation is its trace**: its nodes and edges are on the last canvas, and the commands,
reports and warnings are those of its lines in their order. -/
theorem compile_eq_result (settings : Settings) (numbering : Numbering) (t : Text) :
    compile settings numbering t = result numbering (trace settings numbering t) := by
  have hrestorable := restorable_lines (normalize t)
  have hlines : Text.lines (Mask.conceal (normalize t)) =
      (Marked.ofText (normalize t)).lines.map (Marked.masked (Mask.ofText (normalize t)).width) :=
    Marked.lines_conceal _
  have hcommands := extractLines_commands [] hrestorable
  have hdraw := drawLines_extractLines settings []
    ⟨Canvas.start numbering, [], []⟩ hrestorable
  rw [← hlines] at hcommands hdraw
  have hextract := lines_extract (Mask.ofText (normalize t)) (Mask.conceal (normalize t))
  simp only [List.count_nil, Nat.add_zero, List.nil_append, ← hextract] at hcommands hdraw
  rw [result, trace, logicalLines]
  dsimp only [compile]
  rw [hdraw]
  cases hf : traceFault? (traceFrom settings (Mask.ofText (normalize t)) (Canvas.start numbering)
      (LogicalLine.placed [] (Marked.ofText (normalize t)).lines)) with
  | some fault => rfl
  | none =>
    rw [filterMap_command?_traceFrom hf, ← hcommands]
    rfl

/-- A compilation that returns a diagram has reached all lines. -/
theorem compile_eq_ok {settings : Settings} {numbering after : Numbering} {t : Text} {d : Diagram}
    (h : compile settings numbering t = (.ok d, after)) :
    let entries := trace settings numbering t
    let canvas := lastCanvas (Canvas.start numbering) entries
    entries.map (·.line) = logicalLines (normalize t) ∧ after = canvas.numbering ∧
      d = ⟨canvas.nodes, canvas.edges, entries.filterMap (·.outcome.command?),
        entries.filterMap (·.outcome.error?), entries.flatMap (·.outcome.warnings)⟩ := by
  intro entries canvas
  rw [compile_eq_result, result, Prod.mk.injEq] at h
  obtain ⟨hd, hafter⟩ := h
  cases hf : traceFault? (trace settings numbering t) with
  | some fault =>
    rw [hf] at hd
    cases hd
  | none =>
    rw [hf] at hd
    exact ⟨map_line_traceFrom hf, hafter.symm, (Except.ok.inj hd).symm⟩

theorem standsIn_of_mem_trace {settings : Settings} {numbering : Numbering} {t : Text} {e : Entry}
    (he : e ∈ trace settings numbering t) : e.line.StandsIn (normalize t) :=
  standsIn_of_mem_logicalLines (outcome_of_mem_traceFrom he).1

theorem becomes_of_mem_trace {settings : Settings} {numbering : Numbering} {t : Text} {e : Entry}
    (he : e ∈ trace settings numbering t) :
    Becomes settings (Mask.ofText (normalize t)) e.canvas e.line e.outcome := by
  rw [(outcome_of_mem_traceFrom he).2]
  exact becomes_outcome _ _ _ _

end Sketch

end GraphSketch
