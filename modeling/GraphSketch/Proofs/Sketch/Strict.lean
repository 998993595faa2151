import GraphSketch.Proofs.Sketch.Failures

/-!
# Strict compilations

A strict compilation ends where another one leaves the first line out.  Up to that line the two go
over the same entries (`traceFrom_strict`), so a strict compilation fails exactly if the other one
reports something, with the cause of the first report (`compile_strict_of_errors_eq_cons`); and if
nothing is reported they are the same (`compile_strict_of_errors_eq_nil`).

* `Outcome.strict`, `upToFailure` — what the trace of a strict compilation is, as a function of
  the trace of the other one.
* `exists_first_failed` — the first report belongs to the first line that is left out.
* `StrictAgrees`, `compile_strictAgrees` — the same for sessions, with the diagram that is kept
  and the numbering at the line where the strict compilation ends.
-/

set_option autoImplicit false

namespace GraphSketch

/-- The session with another answer to references to nothing. -/
def Session.withStrict (session : Session) (strict : Bool) : Session :=
  { session with settings := { session.settings with strict := strict } }

namespace Sketch

/-! ## Traces up to a failure -/

/-- What becomes of a line in a strict compilation, given what becomes of it otherwise. -/
def Outcome.strict : Outcome → Outcome
  | failed error => ended (.unresolved error.cause)
  | o => o

/-- The entries up to the first that is left out, where a strict compilation ends. -/
def upToFailure : List Entry → List Entry
  | [] => []
  | e :: entries =>
    if e.outcome.error?.isSome then [{ e with outcome := e.outcome.strict }]
    else e :: upToFailure entries

variable {extended : Bool} {mask : Mask}

theorem outcome_strict (canvas : Canvas) (l : LogicalLine) :
    outcome ⟨extended, true⟩ mask canvas l = (outcome ⟨extended, false⟩ mask canvas l).strict := by
  have hshapes : Settings.shapes ⟨extended, true⟩ = Settings.shapes ⟨extended, false⟩ := rfl
  unfold outcome
  dsimp only
  rw [hshapes]
  split
  · rfl
  · split
    · rfl
    · split <;> rfl

/-- **The two go over the same entries** up to the first line that is left out. -/
theorem traceFrom_strict : ∀ (canvas : Canvas) (ls : List LogicalLine),
    traceFrom ⟨extended, true⟩ mask canvas ls =
      upToFailure (traceFrom ⟨extended, false⟩ mask canvas ls)
  | _, [] => rfl
  | canvas, l :: ls => by
    have ih := traceFrom_strict ((outcome ⟨extended, false⟩ mask canvas l).next canvas) ls
    rw [traceFrom, traceFrom, upToFailure, outcome_strict]
    dsimp only
    cases ho : outcome ⟨extended, false⟩ mask canvas l with
    | failed error => simp [Outcome.error?, Outcome.strict, Outcome.fault?]
    | ended fault => simp [Outcome.error?, Outcome.strict, Outcome.fault?, upToFailure]
    | command c =>
      rw [ho] at ih
      simpa [Outcome.error?, Outcome.strict, Outcome.fault?, Outcome.next] using ih
    | blank =>
      rw [ho] at ih
      simpa [Outcome.error?, Outcome.strict, Outcome.fault?, Outcome.next] using ih
    | drawn canvas' warnings =>
      rw [ho] at ih
      simpa [Outcome.error?, Outcome.strict, Outcome.fault?, Outcome.next] using ih

theorem upToFailure_of_forall : ∀ {entries : List Entry},
    (∀ e ∈ entries, e.outcome.error? = none) → upToFailure entries = entries
  | [], _ => rfl
  | e :: entries, h => by
    have he : e.outcome.error? = none := h e List.mem_cons_self
    have ih := upToFailure_of_forall fun x hx => h x (List.mem_cons_of_mem e hx)
    simp [upToFailure, he, ih]

theorem upToFailure_append {e : Entry} {post : List Entry} (he : e.outcome.error?.isSome = true) :
    ∀ {pre : List Entry}, (∀ x ∈ pre, x.outcome.error? = none) →
      upToFailure (pre ++ e :: post) = pre ++ [{ e with outcome := e.outcome.strict }]
  | [], _ => by simp [upToFailure, he]
  | x :: pre, h => by
    have hx : x.outcome.error? = none := h x List.mem_cons_self
    have hrest : ∀ y ∈ pre, y.outcome.error? = none := fun y hy => h y (List.mem_cons_of_mem x hy)
    simp [upToFailure, hx, upToFailure_append he hrest]

/-! ## Strict and other compilations -/

variable {numbering after : Numbering} {t : Text} {d : Diagram}

/-- A compilation that a line ends leaves the numbers given out on the lines before. -/
theorem result_of_ended {pre : List Entry} {e : Entry} {fault : ResolveFault}
    (hpre : traceFault? pre = none) (he : e.outcome = .ended fault) :
    result numbering (pre ++ [e]) =
      (.error fault, (lastCanvas (Canvas.start numbering) pre).numbering) := by
  have hlast : traceFault? (pre ++ [e]) = some fault := by
    rw [traceFault?] at hpre ⊢
    rw [List.findSome?_append, hpre, Option.none_or, List.findSome?_cons, he]
    rfl
  have hcanvas : lastCanvas (Canvas.start numbering) (pre ++ [e]) =
      lastCanvas (Canvas.start numbering) pre := by
    rw [lastCanvas, List.foldl_append, List.foldl_cons, he]
    rfl
  rw [result, hlast, hcanvas]

theorem compile_strict_eq : compile ⟨extended, true⟩ numbering t =
    result numbering (upToFailure (trace ⟨extended, false⟩ numbering t)) := by
  rw [compile_eq_result, trace, traceFrom_strict]
  rfl

theorem compile_strict_of_errors_eq_nil
    (h : compile ⟨extended, false⟩ numbering t = (.ok d, after)) (herrors : d.errors = []) :
    compile ⟨extended, true⟩ numbering t = (.ok d, after) := by
  have hnone : ∀ e ∈ trace ⟨extended, false⟩ numbering t, e.outcome.error? = none := by
    obtain ⟨_, _, rfl⟩ := compile_eq_ok h
    exact List.filterMap_eq_nil_iff.mp herrors
  rw [compile_strict_eq, upToFailure_of_forall hnone, ← compile_eq_result, h]

/-- The first report is of the first line that is left out; the lines before it are drawn. -/
theorem exists_first_failed (h : compile ⟨extended, false⟩ numbering t = (.ok d, after))
    {error : LineError} {rest : List LineError} (herrors : d.errors = error :: rest) :
    ∃ pre e post, trace ⟨extended, false⟩ numbering t = pre ++ e :: post ∧
      e.outcome = .failed error ∧ (∀ x ∈ pre, x.outcome.error? = none) ∧ traceFault? pre = none := by
  have hfilter : (trace ⟨extended, false⟩ numbering t).filterMap (·.outcome.error?) =
      error :: rest := by
    obtain ⟨_, _, rfl⟩ := compile_eq_ok h
    exact herrors
  obtain ⟨pre, e, post, hsplit, hpre, he, -⟩ := List.filterMap_eq_cons_iff.mp hfilter
  have hfault := traceFault?_eq_none h
  rw [hsplit, traceFault?_append] at hfault
  refine ⟨pre, e, post, hsplit, ?_, hpre, hfault.1⟩
  cases ho : e.outcome with
  | failed found =>
    rw [ho] at he
    cases he
    rfl
  | _ =>
    rw [ho] at he
    cases he

/-- The structural lines before the first that is left out are the drawn ones. -/
theorem filter_structuralLines (h : compile ⟨extended, false⟩ numbering t = (.ok d, after))
    {pre post : List Entry} {e : Entry}
    (hsplit : trace ⟨extended, false⟩ numbering t = pre ++ e :: post)
    (hpre : ∀ x ∈ pre, x.outcome.error? = none) :
    (structuralLines (normalize t)).filter (·.number < e.line.number) =
      (pre.filter (·.outcome.isDrawn)).map (·.line) := by
  have hdrawn : pre.filter (fun x => x.outcome.isDrawn || x.outcome.error?.isSome) =
      pre.filter (·.outcome.isDrawn) :=
    List.filter_congr fun x hx => by simp [hpre x hx]
  rw [structuralLines_eq h, filter_number_lt h hsplit, hdrawn]

/-- With reports the first of them ends a strict compilation; nothing of its line and of the lines
after it is there. -/
theorem compile_strict_of_errors_eq_cons
    (h : compile ⟨extended, false⟩ numbering t = (.ok d, after)) {error : LineError}
    {rest : List LineError} (herrors : d.errors = error :: rest) :
    ∃ l ∈ structuralLines (normalize t), l.number = error.line ∧ ∃ canvas warnings,
      drawOnly (Settings.shapes ⟨extended, false⟩) (Mask.ofText (normalize t))
          (Canvas.start numbering) ((structuralLines (normalize t)).filter (·.number < l.number)) =
        .ok (canvas, warnings) ∧
      StopsAt (Mask.ofText (normalize t)) canvas.numbering (l.masked (Mask.ofText (normalize t)))
        error.cause ∧
      compile ⟨extended, true⟩ numbering t = (.error (.unresolved error.cause), canvas.numbering) := by
  obtain ⟨pre, e, post, hsplit, he, hpre, hfault⟩ := exists_first_failed h herrors
  have hmem : e ∈ trace ⟨extended, false⟩ numbering t := by simp [hsplit]
  have hsome : e.outcome.error?.isSome = true := by
    rw [he]
    rfl
  have hstructural : isStructural (Mask.ofText (normalize t)) e.line = true := by
    rw [isStructural_eq h hmem, hsome, Bool.or_true]
  have hline : e.line ∈ structuralLines (normalize t) :=
    List.mem_filter.mpr ⟨(outcome_of_mem_traceFrom hmem).1, hstructural⟩
  have hnumber : e.line.number = error.line :=
    ((becomes_of_mem_trace hmem).line.2.1 error (by rw [he]; rfl)).symm
  have hcanvas := canvas_eq_lastCanvas hsplit hfault
  have hdrawn := drawOnly_of_traceFrom hsplit hfault
  rw [← filter_structuralLines h hsplit hpre, ← hcanvas] at hdrawn
  have hstops : StopsAt (Mask.ofText (normalize t)) e.canvas.numbering
      (e.line.masked (Mask.ofText (normalize t))) error.cause := by
    have hbecomes := becomes_of_mem_trace hmem
    rw [he] at hbecomes
    cases hbecomes with
    | failed hd hb hdraw => exact drawLine_eq_unresolved_iff.mp hdraw
  have hstrict : e.outcome.strict = .ended (.unresolved error.cause) := by
    rw [he]
    rfl
  refine ⟨e.line, hline, hnumber, e.canvas, _, hdrawn, hstops, ?_⟩
  rw [compile_strict_eq, hsplit, upToFailure_append hsome hpre, hcanvas]
  exact result_of_ended hfault hstrict

end Sketch

open Sketch

/-- What a strict session does with a text that the same session compiles to `d` if it is not
strict. -/
structure StrictAgrees (session after : Session) (t : Text) (d : Diagram) : Prop where
  fails_iff : (∃ cause, ((session.withStrict true).compile t).1 = .error (.unresolved cause)) ↔
    d.errors ≠ []
  /-- It fails for the cause of the first report, with the numbers given out on the lines before;
  the last diagram stays. -/
  failed : ∀ error rest, d.errors = error :: rest →
    ∃ l ∈ structuralLines (normalize t), l.number = error.line ∧ ∃ canvas warnings,
      drawOnly session.settings.shapes (Mask.ofText (normalize t)) (Canvas.start session.numbering)
          ((structuralLines (normalize t)).filter (·.number < l.number)) = .ok (canvas, warnings) ∧
        StopsAt (Mask.ofText (normalize t)) canvas.numbering (l.masked (Mask.ofText (normalize t)))
          error.cause ∧
        (session.withStrict true).compile t = (.error (.unresolved error.cause),
          { session.withStrict true with numbering := canvas.numbering, last := session.last })
  returned : d.errors = [] → (session.withStrict true).compile t = (.ok d, after.withStrict true)

namespace Session

theorem compile_of_ok (session : Session) {numbering : Numbering} {t : Text} {d : Diagram}
    (h : Sketch.compile session.settings session.numbering t = (.ok d, numbering)) :
    session.compile t = (.ok d, { session with numbering := numbering, last := d }) := by
  rw [compile, h]

theorem compile_of_error (session : Session) {numbering : Numbering} {t : Text}
    {fault : ResolveFault}
    (h : Sketch.compile session.settings session.numbering t = (.error fault, numbering)) :
    session.compile t = (.error fault, { session with numbering := numbering }) := by
  rw [compile, h]

theorem compile_eq_ok {session after : Session} {t : Text} {d : Diagram}
    (h : session.compile t = (.ok d, after)) :
    Sketch.compile session.settings session.numbering t = (.ok d, after.numbering) ∧
      after = { session with numbering := after.numbering, last := d } := by
  unfold Session.compile at h
  split at h
  · rename_i found numbering hfound
    cases h
    exact ⟨hfound, rfl⟩
  · cases h

theorem compile_withStrict_eq_ok {session after : Session} {strict : Bool} {t : Text} {d : Diagram}
    (h : (session.withStrict strict).compile t = (.ok d, after)) :
    Sketch.compile ⟨session.settings.extended, strict⟩ session.numbering t =
        (.ok d, after.numbering) ∧
      after = { session.withStrict strict with numbering := after.numbering, last := d } :=
  compile_eq_ok h

/-- **Strict and other compilations agree**: a strict one fails exactly if the other one reports
something. -/
theorem compile_strictAgrees {session after : Session} {t : Text} {d : Diagram}
    (h : (session.withStrict false).compile t = (.ok d, after)) :
    StrictAgrees session after t d := by
  obtain ⟨hcompile, hafter⟩ := compile_withStrict_eq_ok h
  have hreturned : d.errors = [] →
      (session.withStrict true).compile t = (.ok d, after.withStrict true) := by
    intro herrors
    have hstrict := compile_strict_of_errors_eq_nil hcompile herrors
    rw [compile_of_ok (session.withStrict true) hstrict, hafter]
    rfl
  refine ⟨?_, ?_, hreturned⟩
  · cases herrors : d.errors with
    | nil => simp [hreturned herrors]
    | cons error rest =>
      obtain ⟨_, _, _, canvas, _, _, _, hstrict⟩ :=
        compile_strict_of_errors_eq_cons hcompile herrors
      simp [compile_of_error (session.withStrict true) hstrict]
  · intro error rest herrors
    obtain ⟨l, hl, hnumber, canvas, warnings, hdrawn, hstops, hstrict⟩ :=
      compile_strict_of_errors_eq_cons hcompile herrors
    have hfailed := compile_of_error (session.withStrict true) hstrict
    exact ⟨l, hl, hnumber, canvas, warnings, hdrawn, hstops, hfailed⟩

/-- A text of which the second line is left out, in a session that has a diagram and numbers. -/
theorem compile_strictAgrees_of_chain :
    let last : Diagram := ⟨[⟨"A", 1, .rectangle, 0⟩], [], [], [], []⟩
    let session : Session := ⟨⟨true, true⟩, ⟨[("A", 1)], [(1, "A")], 2⟩, last⟩
    let t : Text := "B -> :1\nC -> \"x\ny\" -> :9\nD -> :3"
    let d : Diagram := ⟨[⟨"B", 2, .rectangle, 0⟩, ⟨"A", 1, .rectangle, 1⟩],
      [⟨0, "B", "A", none⟩], [],
      [⟨2, "C -> x\ny -> :9", ⟨":9", some 9⟩⟩, ⟨4, "D -> :3", ⟨":3", some 3⟩⟩], []⟩
    let after : Session := ⟨⟨true, false⟩, ⟨[("A", 1), ("B", 2)], [(1, "A"), (2, "B")], 3⟩, d⟩
    (session.withStrict false).compile t = (.ok d, after) ∧ StrictAgrees session after t d := by
  intro last session t d after
  have hcompile : Sketch.compile ⟨true, false⟩ session.numbering t = (.ok d, after.numbering) := by
    decide +kernel
  have h : (session.withStrict false).compile t = (.ok d, after) :=
    compile_of_ok (session.withStrict false) hcompile
  exact ⟨h, compile_strictAgrees h⟩

end Session

end GraphSketch
