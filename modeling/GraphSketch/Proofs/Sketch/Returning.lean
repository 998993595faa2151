import GraphSketch.Proofs.Sketch.Failures
import GraphSketch.Proofs.Sketch.RoundTrip
import GraphSketch.Proofs.Sketch.Strict

/-!
# Compilations that return

A compilation that is not strict passes over every reference to nothing, so there is one thing
only that can end it: a reference with more digits than are read.

* `Reference.number_eq_error_iff` — which references these are (`Reference.IsOversized`).
* `drawLine_eq_oversized_iff` — a line cannot be drawn for that reason exactly if it comes to one
  (`EndsAt`), which depends on the operands before it and on the canvas.
* `traceFault?_eq_none_iff`, `exists_of_traceFault?_eq_some` — a compilation ends at the first
  line that comes to such a reference, and at no other line.
* `Returning`, `compile_returns` — what a compilation comes to, for every text and every
  numbering.
* `compile_of_isOversized` — nothing behind an oversized reference is read, whatever it is.
-/

set_option autoImplicit false

namespace GraphSketch

/-! ## References with too many digits -/

namespace Reference

/-- A reference is oversized if it has more digits than are read, whatever number they stand for. -/
def IsOversized (t : Text) : Prop :=
  ∃ digits, t = ':' :: digits ∧ (∀ c ∈ digits, isAsciiDigit c = true) ∧
    Numeral.limit < digits.length

theorem digits?_eq_some_iff {t digits : Text} :
    digits? t = some digits ↔
      t = ':' :: digits ∧ digits ≠ [] ∧ ∀ c ∈ digits, isAsciiDigit c = true := by
  unfold digits?
  constructor
  · intro h
    split at h
    · split at h
      · rename_i hdigits
        cases h
        simpa using hdigits
      · cases h
    · cases h
  · rintro ⟨rfl, hne, hall⟩
    simp only [List.isEmpty_eq_false_iff.mpr hne, List.all_eq_true.mpr hall, Bool.not_false,
      Bool.and_true, if_true]

/-- The number of a reference is an error exactly if it has too many digits. -/
theorem number_eq_error_iff {t : Text} {fault : OversizedNumeral} :
    number t = .error fault ↔
      IsOversized t ∧ fault = ⟨t.length - 1⟩ := by
  unfold number
  cases hd : digits? t with
  | none =>
    have hnot : ¬ IsOversized t := by
      rintro ⟨digits, ht, hall, hlong⟩
      have hne : digits ≠ [] := List.ne_nil_of_length_pos (by omega)
      rw [digits?_eq_some_iff.mpr ⟨ht, hne, hall⟩] at hd
      cases hd
    simp [hnot]
  | some digits =>
    obtain ⟨rfl, -, hall⟩ := digits?_eq_some_iff.mp hd
    have hlength := Text.length_filterMap_asciiDigit? hall
    simp only [Numeral.ofDigits, hlength]
    split
    · rename_i hshort
      have hnot : ¬ IsOversized (':' :: digits) := by
        rintro ⟨_, heq, -, hlong⟩
        cases heq
        omega
      simp [Except.map, hnot]
    · rename_i hlong
      have hover : IsOversized (':' :: digits) := ⟨digits, rfl, hall, by omega⟩
      simp [Except.map, hover, eq_comm]

end Reference

/-- A label is not resolved for its size exactly if it is an oversized reference. -/
theorem Numbering.resolve_eq_oversized_iff {m : Numbering} {t : Text} {fault : OversizedNumeral} :
    m.resolve t = .error (.oversized fault) ↔
      Reference.IsOversized t ∧ fault = ⟨t.length - 1⟩ := by
  rw [← Reference.number_eq_error_iff]
  unfold resolve
  constructor
  · intro h
    split at h
    · split at h
      · cases h
        assumption
      · cases h
      · split at h <;> cases h
    · cases h
  · intro h
    have href : isReference t = true := by
      obtain ⟨⟨digits, rfl, -⟩, -⟩ := Reference.number_eq_error_iff.mp h
      rfl
    simp [href, h]

namespace Sketch

variable {settings : Settings} {shapes : List Shape} {mask : Mask}

/-! ## Lines that end a compilation -/

/-- The line comes to an oversized reference, all operands before it being resolved. -/
def EndsAt (mask : Mask) (numbering : Numbering) (text : Text) (ref : Text) : Prop :=
  ∃ before segment behind labels, (Chain.ofLine text).operands = before ++ segment :: behind ∧
    segmentLabels mask numbering before = .ok labels ∧ mask.isPlaceholder segment = false ∧
      ref = Text.trim (mask.restore segment) ∧ Reference.IsOversized ref

/-- **A line cannot be drawn for the size of a reference** exactly if it comes to one. -/
theorem drawLine_eq_oversized_iff {canvas : Canvas} {line : Nat} {text : Text}
    {fault : OversizedNumeral} :
    drawLine shapes mask canvas line text = .error (.oversized fault) ↔
      ∃ ref, EndsAt mask canvas.numbering text ref ∧ fault = ⟨ref.length - 1⟩ := by
  rw [drawLine_eq_error_iff, segmentLabels_eq_error_iff]
  simp only [segmentLabel_eq_error_iff, Numbering.resolve_eq_oversized_iff, EndsAt]
  constructor
  · rintro ⟨before, segment, behind, labels, hsplit, hbefore, hplain, hover, hfault⟩
    exact ⟨_, ⟨before, segment, behind, labels, hsplit, hbefore, hplain, rfl, hover⟩, hfault⟩
  · rintro ⟨_, ⟨before, segment, behind, labels, hsplit, hbefore, hplain, rfl, hover⟩, hfault⟩
    exact ⟨before, segment, behind, labels, hsplit, hbefore, hplain, hover, hfault⟩

/-- The canvas after lines of which those that cannot be drawn are passed over. -/
def drawPast (shapes : List Shape) (mask : Mask) (canvas : Canvas) (ls : List LogicalLine) :
    Canvas :=
  ls.foldl (fun canvas l =>
    match drawLine shapes mask canvas l.number (l.masked mask) with
    | .ok (canvas', _) => canvas'
    | .error _ => canvas) canvas

/-- No line of these comes to an oversized reference where it is reached. -/
def Passes (shapes : List Shape) (mask : Mask) : Canvas → List LogicalLine → Prop
  | _, [] => True
  | canvas, l :: ls =>
    (∀ ref, ¬ EndsAt mask canvas.numbering (l.masked mask) ref) ∧
      Passes shapes mask (drawPast shapes mask canvas [l]) ls

/-- What a line does in a compilation that is not strict. -/
inductive Reads (shapes : List Shape) (mask : Mask) (canvas : Canvas) (l : LogicalLine) :
    Outcome → Prop
  | beside {o : Outcome} (hs : isStructural mask l = false) (hfault : o.fault? = none)
      (hnext : o.next canvas = canvas) : Reads shapes mask canvas l o
  | past {o : Outcome} (hs : isStructural mask l = true) (hfault : o.fault? = none)
      (hnext : o.next canvas = drawPast shapes mask canvas [l])
      (hnot : ∀ ref, ¬ EndsAt mask canvas.numbering (l.masked mask) ref) :
      Reads shapes mask canvas l o
  | ended {ref : Text} (hs : isStructural mask l = true)
      (hends : EndsAt mask canvas.numbering (l.masked mask) ref) :
      Reads shapes mask canvas l (.ended (.oversized ⟨ref.length - 1⟩))

theorem reads_outcome (hs : settings.strict = false) (mask : Mask) (canvas : Canvas)
    (l : LogicalLine) :
    Reads settings.shapes mask canvas l (outcome settings mask canvas l) := by
  have hbecomes := becomes_outcome settings mask canvas l
  generalize outcome settings mask canvas l = o at hbecomes
  have hdrawn : ∀ {r}, drawLine settings.shapes mask canvas l.number (l.masked mask) = r →
      (∀ fault, r ≠ .error (.oversized fault)) →
        ∀ ref, ¬ EndsAt mask canvas.numbering (l.masked mask) ref := by
    rintro r rfl hnot ref hends
    exact hnot _ (drawLine_eq_oversized_iff.mpr ⟨ref, hends, rfl⟩)
  cases hbecomes with
  | command hd => exact .beside (by simp [isStructural, hd]) rfl rfl
  | blank hd hb => exact .beside (by simp [isStructural, hb]) rfl rfl
  | drawn hd hb hdraw =>
    refine .past (by simp [isStructural, hd, hb]) rfl ?_ (hdrawn hdraw (by simp))
    simp [Outcome.next, drawPast, hdraw]
  | failed hd hb hdraw =>
    refine .past (by simp [isStructural, hd, hb]) rfl ?_ (hdrawn hdraw (by simp))
    simp [Outcome.next, drawPast, hdraw]
  | @ended fault hd hb hdraw hstrict =>
    cases fault with
    | unresolved cause =>
      rw [hstrict cause rfl] at hs
      cases hs
    | oversized fault =>
      obtain ⟨ref, hends, rfl⟩ := drawLine_eq_oversized_iff.mp hdraw
      exact .ended (by simp [isStructural, hd, hb]) hends

/-! ## Traces that end -/

theorem drawPast_cons (shapes : List Shape) (mask : Mask) (canvas : Canvas) (l : LogicalLine)
    (ls : List LogicalLine) :
    drawPast shapes mask canvas (l :: ls) =
      drawPast shapes mask (drawPast shapes mask canvas [l]) ls := rfl

/-- **A trace goes to its end** exactly if no structural line comes to an oversized reference. -/
theorem traceFault?_eq_none_iff (hs : settings.strict = false) : ∀ (canvas : Canvas)
    (ls : List LogicalLine), traceFault? (traceFrom settings mask canvas ls) = none ↔
      Passes settings.shapes mask canvas (ls.filter (isStructural mask))
  | canvas, [] => by simp [traceFrom, traceFault?, Passes]
  | canvas, l :: ls => by
    have hreads := reads_outcome hs mask canvas l
    have ih := fun next => traceFault?_eq_none_iff hs next ls
    rw [traceFrom, traceFault?, List.findSome?_cons]
    generalize outcome settings mask canvas l = o at hreads
    cases hreads with
    | beside hl hfault hnext => simpa [hfault, hnext, hl, traceFault?] using ih canvas
    | past hl hfault hnext hnot =>
      rw [List.filter_cons_of_pos hl, Passes]
      simpa [hfault, hnext, hnot, traceFault?] using ih _
    | @ended ref hl hends =>
      rw [List.filter_cons_of_pos hl, Passes]
      exact iff_of_false (by simp [Outcome.fault?]) fun h => h.1 ref hends

/-- A trace that goes to its end leaves the drawing of all structural lines. -/
theorem lastCanvas_eq_drawPast (hs : settings.strict = false) : ∀ (canvas : Canvas)
    (ls : List LogicalLine), traceFault? (traceFrom settings mask canvas ls) = none →
      lastCanvas canvas (traceFrom settings mask canvas ls) =
        drawPast settings.shapes mask canvas (ls.filter (isStructural mask))
  | _, [], _ => rfl
  | canvas, l :: ls, h => by
    have hreads := reads_outcome hs mask canvas l
    have ih := fun next => lastCanvas_eq_drawPast hs next ls
    rw [traceFrom, traceFault?, List.findSome?_cons] at h
    rw [traceFrom, lastCanvas, List.foldl_cons]
    generalize outcome settings mask canvas l = o at hreads h ⊢
    cases hreads with
    | beside hl hfault hnext =>
      rw [List.filter_cons_of_neg (by simp [hl])]
      simp only [hfault, hnext, Option.isSome_none, Bool.false_eq_true, if_false] at h ⊢
      exact ih canvas h
    | past hl hfault hnext hnot =>
      rw [List.filter_cons_of_pos hl, drawPast_cons]
      simp only [hfault, hnext, Option.isSome_none, Bool.false_eq_true, if_false] at h ⊢
      exact ih _ h
    | ended => cases h

/-- **The first structural line that comes to an oversized reference ends a trace**, with the
drawing of the lines before it. -/
theorem exists_of_traceFault?_eq_some (hs : settings.strict = false) {fault : ResolveFault} :
    ∀ (canvas : Canvas) (ls : List LogicalLine),
    traceFault? (traceFrom settings mask canvas ls) = some fault →
      ∃ pre l post ref, ls.filter (isStructural mask) = pre ++ l :: post ∧
        Passes settings.shapes mask canvas pre ∧
        EndsAt mask (drawPast settings.shapes mask canvas pre).numbering (l.masked mask) ref ∧
        fault = .oversized ⟨ref.length - 1⟩ ∧
        lastCanvas canvas (traceFrom settings mask canvas ls) =
          drawPast settings.shapes mask canvas pre
  | _, [], h => by cases h
  | canvas, l :: ls, h => by
    have hreads := reads_outcome hs mask canvas l
    have ih := fun next => @exists_of_traceFault?_eq_some hs fault next ls
    rw [traceFrom, traceFault?, List.findSome?_cons] at h
    rw [traceFrom, lastCanvas, List.foldl_cons]
    generalize outcome settings mask canvas l = o at hreads h ⊢
    cases hreads with
    | beside hl hfault hnext =>
      rw [List.filter_cons_of_neg (by simp [hl])]
      simp only [hfault, hnext, Option.isSome_none, Bool.false_eq_true, if_false] at h ⊢
      exact ih canvas h
    | past hl hfault hnext hnot =>
      simp only [hfault, hnext, Option.isSome_none, Bool.false_eq_true, if_false] at h ⊢
      obtain ⟨pre, l', post, ref, hsplit, hpre, hends, hf, hlast⟩ := ih _ h
      refine ⟨l :: pre, l', post, ref, ?_, ⟨hnot, hpre⟩, hends, hf, hlast⟩
      rw [List.filter_cons_of_pos hl, hsplit, List.cons_append]
    | @ended ref hl hends =>
      refine ⟨[], l, ls.filter (isStructural mask), ref, ?_, trivial, hends, ?_, rfl⟩
      · rw [List.filter_cons_of_pos hl, List.nil_append]
      · exact (Option.some.inj h).symm

/-- In a trace that goes to its end a structural line is reached with the drawing of the ones
before it. -/
theorem exists_entry (hs : settings.strict = false) {l : LogicalLine} {post : List LogicalLine} :
    ∀ (canvas : Canvas) (ls pre : List LogicalLine),
    traceFault? (traceFrom settings mask canvas ls) = none →
    ls.filter (isStructural mask) = pre ++ l :: post →
      ∃ e ∈ traceFrom settings mask canvas ls,
        e.line = l ∧ e.canvas = drawPast settings.shapes mask canvas pre
  | _, [], pre, _, hsplit => by simp at hsplit
  | canvas, x :: ls, pre, h, hsplit => by
    have hreads := reads_outcome hs mask canvas x
    have ih := fun next pre => @exists_entry hs l post next ls pre
    rw [traceFrom, traceFault?, List.findSome?_cons] at h
    rw [traceFrom]
    generalize outcome settings mask canvas x = o at hreads h ⊢
    cases hreads with
    | beside hx hfault hnext =>
      rw [List.filter_cons_of_neg (by simp [hx])] at hsplit
      simp only [hfault, hnext, Option.isSome_none, Bool.false_eq_true, if_false] at h ⊢
      obtain ⟨e, he, hline⟩ := ih canvas pre h hsplit
      exact ⟨e, List.mem_cons_of_mem _ he, hline⟩
    | past hx hfault hnext hnot =>
      rw [List.filter_cons_of_pos hx] at hsplit
      simp only [hfault, hnext, Option.isSome_none, Bool.false_eq_true, if_false] at h ⊢
      cases pre with
      | nil =>
        obtain ⟨rfl, -⟩ := List.cons.inj hsplit
        exact ⟨_, List.mem_cons_self, rfl, rfl⟩
      | cons y pre =>
        obtain ⟨rfl, hrest⟩ := List.cons.inj hsplit
        obtain ⟨e, he, hline, hcanvas⟩ := ih _ pre h hrest
        exact ⟨e, List.mem_cons_of_mem _ he, hline, hcanvas⟩
    | ended => cases h

theorem passes_of_forall : ∀ {canvas : Canvas} {ls : List LogicalLine},
    (∀ l ∈ ls, ∀ segment ∈ (Chain.ofLine (l.masked mask)).operands,
      ¬ Reference.IsOversized (Text.trim (mask.restore segment))) →
        Passes shapes mask canvas ls
  | _, [], _ => trivial
  | canvas, l :: ls, h => by
    refine ⟨?_, passes_of_forall fun x hx => h x (List.mem_cons_of_mem l hx)⟩
    rintro ref ⟨before, segment, behind, labels, hsplit, -, -, rfl, hover⟩
    exact h l List.mem_cons_self segment (by simp [hsplit]) hover

/-! ## What a compilation comes to -/

/-- What a compilation that is not strict comes to: it returns, and what it leaves out costs a line
each, or it ends at an oversized reference. -/
structure Returning (settings : Settings) (numbering : Numbering) (t : Text) : Prop where
  /-- It returns exactly if no line comes to an oversized reference. -/
  returns_iff : (∃ d after, compile settings numbering t = (.ok d, after)) ↔
    Passes settings.shapes (Mask.ofText (normalize t)) (Canvas.start numbering)
      (structuralLines (normalize t))
  /-- In particular it returns if there is none in the text. -/
  returns : (∀ l ∈ structuralLines (normalize t),
      ∀ segment ∈ (Chain.ofLine (l.masked (Mask.ofText (normalize t)))).operands,
        ¬ Reference.IsOversized (Text.trim ((Mask.ofText (normalize t)).restore segment))) →
    ∃ d after, compile settings numbering t = (.ok d, after)
  /-- If it returns, a line that stops at a reference to nothing is reported once, and all other
  lines are drawn. -/
  returned : ∀ d after, compile settings numbering t = (.ok d, after) →
    drawPast settings.shapes (Mask.ofText (normalize t)) (Canvas.start numbering)
        (structuralLines (normalize t)) = ⟨after, d.nodes, d.edges⟩ ∧
      ∀ pre l post, structuralLines (normalize t) = pre ++ l :: post → ∀ cause,
        StopsAt (Mask.ofText (normalize t)) (drawPast settings.shapes (Mask.ofText (normalize t))
          (Canvas.start numbering) pre).numbering (l.masked (Mask.ofText (normalize t))) cause →
        d.errors.filter (·.line = l.number) = [⟨l.number, Text.trim l.symbols.filled, cause⟩]
  /-- If it does not, the first line that comes to an oversized reference has ended it, and the
  numbers given out before are kept. -/
  failed : ∀ fault after, compile settings numbering t = (.error fault, after) →
    ∃ pre l post ref, structuralLines (normalize t) = pre ++ l :: post ∧
      Passes settings.shapes (Mask.ofText (normalize t)) (Canvas.start numbering) pre ∧
      EndsAt (Mask.ofText (normalize t)) (drawPast settings.shapes (Mask.ofText (normalize t))
        (Canvas.start numbering) pre).numbering (l.masked (Mask.ofText (normalize t))) ref ∧
      fault = .oversized ⟨ref.length - 1⟩ ∧
      after = (drawPast settings.shapes (Mask.ofText (normalize t)) (Canvas.start numbering)
        pre).numbering

theorem returns_iff_traceFault? {numbering : Numbering} {t : Text} :
    (∃ d after, compile settings numbering t = (.ok d, after)) ↔
      traceFault? (trace settings numbering t) = none := by
  constructor
  · rintro ⟨d, after, h⟩
    exact traceFault?_eq_none h
  · intro h
    rw [compile_eq_result, result, h]
    exact ⟨_, _, rfl⟩

/-- **A compilation that is not strict returns** unless a line comes to a reference with too many
digits. -/
theorem compile_returns (extended : Bool) (numbering : Numbering) (t : Text) :
    Returning ⟨extended, false⟩ numbering t := by
  have hiff : (∃ d after, compile ⟨extended, false⟩ numbering t = (.ok d, after)) ↔
      Passes (Settings.shapes ⟨extended, false⟩) (Mask.ofText (normalize t))
        (Canvas.start numbering) (structuralLines (normalize t)) :=
    returns_iff_traceFault?.trans (traceFault?_eq_none_iff rfl _ _)
  refine ⟨hiff, fun h => hiff.mpr (passes_of_forall h), fun d after h => ⟨?_, ?_⟩, ?_⟩
  · have hcanvas := lastCanvas_eq_drawPast rfl _ _ (traceFault?_eq_none h)
    obtain ⟨-, rfl, rfl⟩ := compile_eq_ok h
    exact hcanvas.symm
  · intro pre l post hsplit cause hstops
    obtain ⟨e, he, rfl, hcanvas⟩ := exists_entry rfl _ _ _ (traceFault?_eq_none h) hsplit
    have hstructural : isStructural (Mask.ofText (normalize t)) e.line = true := by
      have hmem : e.line ∈ structuralLines (normalize t) := by simp [hsplit]
      exact (List.mem_filter.mp hmem).2
    exact (stops_of_mem_trace h he hstructural).2 cause (hcanvas ▸ hstops)
  · intro fault after h
    rw [compile_eq_result, result, Prod.mk.injEq] at h
    obtain ⟨hfault, rfl⟩ := h
    cases hf : traceFault? (trace ⟨extended, false⟩ numbering t) with
    | none =>
      rw [hf] at hfault
      cases hfault
    | some found =>
      rw [hf] at hfault
      cases hfault
      obtain ⟨pre, l, post, ref, hsplit, hpre, hends, hcause, hlast⟩ :=
        exists_of_traceFault?_eq_some rfl _ _ hf
      exact ⟨pre, l, post, ref, hsplit, hpre, hends, hcause, congrArg Canvas.numbering hlast⟩

/-! ## A line that is one oversized reference -/

theorem Reference.of_mem {digits : Text} (h : ∀ c ∈ digits, isAsciiDigit c = true) {c : Char}
    (hc : c ∈ ':' :: digits) : isBlank c = false ∧ c ∉ ['"', '\r', '\n', '-', '<', '>'] := by
  rcases List.mem_cons.mp hc with rfl | hc
  · decide
  · obtain ⟨hlow, hhigh⟩ := Text.toNat_of_isDigit (Text.isDigit_of_isAsciiDigit (h c hc))
    refine ⟨?_, fun hmem => ?_⟩
    · simp only [isBlank, Bool.or_eq_false_iff, Bool.and_eq_false_iff, decide_eq_false_iff_not]
      omega
    · simp only [List.mem_cons, List.not_mem_nil, or_false] at hmem
      rcases hmem with rfl | rfl | rfl | rfl | rfl | rfl <;> revert hlow hhigh <;> decide

theorem Reference.trim_eq {digits : Text} (h : ∀ c ∈ digits, isAsciiDigit c = true) :
    Text.trim (':' :: digits) = ':' :: digits :=
  Text.trim_of_not_blank fun _ hc => (Reference.of_mem h hc).1

theorem endsAt_of_isOversized {t ref : Text} (h : Reference.IsOversized ref) (numbering : Numbering)
    (hin : ref.map .char <:+: Marked.ofText t) : EndsAt (Mask.ofText t) numbering ref ref := by
  obtain ⟨digits, rfl, hdigits, hlong⟩ := id h
  have hmem := fun c (hc : c ∈ ':' :: digits) => Reference.of_mem hdigits hc
  have htrim : Text.trim (':' :: digits) = ':' :: digits := Reference.trim_eq hdigits
  have hgap : Connector.IsGap (':' :: digits) := fun c hc => by
    have hnot := (hmem c hc).2
    simp_all
  have hrestore := Marked.restore_masked hin
  rw [Marked.masked_map_char, Marked.filled_map_char] at hrestore
  refine ⟨[], ':' :: digits, [], [], ?_, rfl, ?_, ?_, h⟩
  · rw [Connector.ofLine_gap hgap]
    simp [Chain.operands, Cut.gaps, htrim]
  · rw [← Bool.not_eq_true]
    intro hplaceholder
    obtain ⟨i, hi⟩ := Mask.exists_of_isPlaceholder hplaceholder
    have hcolon : ':' ∈ Mask.placeholder (Mask.ofText t).width i := by
      rw [← hi, htrim]
      exact List.mem_cons_self
    exact absurd (Marked.isPlaceholderChar_of_mem hcolon) (by decide)
  · rw [hrestore, htrim]

/-- **Nothing behind an oversized reference is read**, whatever it is. -/
theorem compile_of_isOversized (settings : Settings) (numbering : Numbering) {ref : Text}
    (h : Reference.IsOversized ref) (rest : Text) :
    compile settings numbering (ref ++ '\n' :: rest) =
      (.error (.oversized ⟨ref.length - 1⟩), numbering) := by
  obtain ⟨digits, rfl, hdigits, hlong⟩ := id h
  have hnot : ∀ c ∈ ['"', '\r', '\n'], c ∉ ':' :: digits := fun c hc hmem => by
    have hnot := (Reference.of_mem hdigits hmem).2
    simp_all
  have hnormal : normalize (':' :: digits ++ '\n' :: rest) =
      ':' :: digits ++ '\n' :: unifyLineEnds rest := by
    rw [normalize_append_feed (hnot _ (by decide)), normalize,
      unifyLineEnds_of_notMem (hnot _ (by decide))]
    rfl
  have hmarked : Marked.ofText (':' :: digits ++ '\n' :: unifyLineEnds rest) =
      (':' :: digits).map .char ++ .char '\n' :: Marked.ofTextFrom 0 (unifyLineEnds rest) := by
    have hfeed := Marked.ofTextFrom_append (show '"' ∉ ['\n'] by decide) 0 (unifyLineEnds rest)
    rw [Marked.ofText_eq_ofTextFrom, Marked.ofTextFrom_append (hnot _ (by decide))]
    exact congrArg _ hfeed
  have hlines : logicalLines (':' :: digits ++ '\n' :: unifyLineEnds rest) =
      ⟨[], (':' :: digits).map .char⟩ :: LogicalLine.placed
        (Marked.source ((':' :: digits).map .char) ++ ['\n'])
        (Marked.ofTextFrom 0 (unifyLineEnds rest)).lines := by
    have hfeed : Symbol.char '\n' ∉ (':' :: digits).map Symbol.char := by
      simpa using hnot '\n' (by decide)
    rw [logicalLines, hmarked, Marked.lines_append_feed, Marked.lines_of_notMem hfeed]
    rfl
  have hends := endsAt_of_isOversized h numbering (⟨[], _, hmarked.symm⟩)
  rw [compile_eq_result, trace, hnormal, hlines]
  generalize ':' :: digits ++ '\n' :: unifyLineEnds rest = t at hends
  have houtcome : outcome settings (Mask.ofText t) (Canvas.start numbering)
      ⟨[], (':' :: digits).map .char⟩ = .ended (.oversized ⟨(':' :: digits).length - 1⟩) := by
    have hdetect : ∀ line, Command.detect (Mask.ofText t) (':' :: digits) line = none :=
      fun line => by
        rw [Command.detect, Text.trim_cons_of_not_blank (by decide),
          Statement.ofText?_eq_none (by decide) (by decide)]
        rfl
    have hblank : Text.isBlankText (':' :: digits) = false := rfl
    have hdraw : ∀ line, drawLine settings.shapes (Mask.ofText t) (Canvas.start numbering) line
        (':' :: digits) = .error (.oversized ⟨(':' :: digits).length - 1⟩) :=
      fun line => drawLine_eq_oversized_iff.mpr ⟨_, hends, rfl⟩
    simp only [outcome, LogicalLine.masked, Marked.masked_map_char, hdetect, hblank, hdraw]
    rfl
  have hnothing : traceFault? [] = none := rfl
  rw [traceFrom, houtcome]
  exact result_of_ended hnothing rfl

theorem Reference.isOversized_zeros {n : Nat} (h : Numeral.limit < n) :
    Reference.IsOversized (':' :: List.replicate n '0') := by
  refine ⟨List.replicate n '0', rfl, fun c hc => ?_, by rwa [List.length_replicate]⟩
  rw [List.eq_of_mem_replicate hc]
  decide

/-- A reference to nothing on one line keeps the next line from being drawn if it is long enough. -/
theorem compile_zeros {n : Nat} (h : Numeral.limit < n) :
    compile ⟨true, false⟩ Numbering.empty (":" ++ List.replicate n '0' ++ "\nA") =
      (.error (.oversized ⟨n⟩), Numbering.empty) := by
  have hcompile := compile_of_isOversized ⟨true, false⟩ Numbering.empty
    (Reference.isOversized_zeros h) "A"
  rw [List.length_cons, List.length_replicate, Nat.add_sub_cancel] at hcompile
  exact hcompile

/-- The shortest reference that is long enough. -/
theorem compile_oversized_digits :
    let t : Text := ":" ++ List.replicate 4301 '0' ++ "\nA"
    Numbering.empty.labelOf.get? 0 = none ∧
      compile ⟨true, false⟩ Numbering.empty t = (.error (.oversized ⟨4301⟩), Numbering.empty) :=
  ⟨rfl, compile_zeros (by decide)⟩

end Sketch

end GraphSketch
