import GraphSketch.Proofs.Sketch.Yield
import GraphSketch.Proofs.Text.Split

/-!
# Columns of dangling arrows

The warning of a dangling arrow says how far into its line the arrow stands.  The characters before
it are counted on the masked line, in which a quoted span is as long as its placeholder.

* `Marked.length_masked_add` — how much longer or shorter placeholders make a text.
* `MarkedChain.placed`, `MarkedChain.placed_read` — the arrows of a line as it is written, and where
  they stand in the masked line.
* `Sketch.getElem?_lines_of_standsIn` — a line without line feeds in its spans is a line of the
  source, by its number.
* `Sketch.compile_columns` — a column is right exactly if the spans before the arrow are as long as
  their placeholders are.
-/

set_option autoImplicit false

namespace GraphSketch

namespace Marked

/-- The spans of a text, without what stands between them. -/
def spans (s : Marked) : Marked := s.filter Symbol.isSpan

theorem spans_of_spanless {s : Marked} (h : s.spanless = true) : s.spans = [] := by
  rw [spans, List.filter_eq_nil_iff]
  intro x hx
  simpa using List.all_eq_true.mp h x hx

/-- **Placeholders shift a text** by what they are longer, all together, than the spans. -/
theorem length_masked_add (width : Nat) (s : Marked) :
    (masked width s).length + s.spans.source.length =
      s.source.length + (masked width s.spans).length := by
  induction s with
  | nil => rfl
  | cons x s ih =>
    rw [spans] at ih ⊢
    cases x with
    | char c =>
      rw [List.filter_cons_of_neg (by simp [Symbol.isSpan]), masked_cons, source_cons,
        List.length_append, List.length_append]
      simp only [Symbol.masked, Symbol.source]
      omega
    | span n content =>
      rw [List.filter_cons_of_pos rfl]
      simp only [masked_cons, source_cons, List.length_append]
      omega

end Marked

/-! ## Arrows in their places -/

/-- An arrow of a marked text, with what stands before it. -/
structure MarkedPlaced where
  before : Marked
  arrow : MarkedArrow

namespace MarkedPlaced

/-- The text up to the end of the arrow. -/
def upTo (e : MarkedPlaced) : Marked := e.before ++ e.arrow.symbols

/-- The arrow and its place when the text is read by `f`. -/
def read (f : Marked → Text) (e : MarkedPlaced) : Placed := ⟨(f e.before).length, e.arrow.read f⟩

end MarkedPlaced

namespace MarkedChain

open Marked

/-- The arrows behind a text, each with all that stands before it. -/
def placedFrom : Marked → List (MarkedArrow × Marked) → List MarkedPlaced
  | _, [] => []
  | before, (a, gap) :: rest => ⟨before, a⟩ :: placedFrom (before ++ (a.symbols ++ gap)) rest

/-- All arrows in order, each in its place. -/
def placed (chain : MarkedChain) : List MarkedPlaced := placedFrom chain.first chain.rest

theorem prefix_of_mem_placedFrom {before : Marked} {rest : List (MarkedArrow × Marked)} :
    ∀ e ∈ placedFrom before rest,
      before <+: e.before ∧ e.upTo <+: before ++ rest.flatMap fun e => e.1.symbols ++ e.2 := by
  induction rest generalizing before with
  | nil => exact nofun
  | cons first rest ih =>
    obtain ⟨a, gap⟩ := first
    rw [placedFrom, List.forall_mem_cons]
    refine ⟨⟨List.prefix_rfl, gap ++ rest.flatMap fun e => e.1.symbols ++ e.2, ?_⟩, fun e he => ?_⟩
    · simp only [MarkedPlaced.upTo, List.flatMap_cons, List.append_assoc]
    · obtain ⟨hbefore, hupTo⟩ := ih e he
      refine ⟨(List.prefix_append _ _).trans hbefore, ?_⟩
      rwa [List.flatMap_cons, ← List.append_assoc]

/-- Every arrow stands in the text behind what stands before it. -/
theorem upTo_prefix_of_mem_placed {chain : MarkedChain} {e : MarkedPlaced}
    (h : e ∈ chain.placed) : e.upTo <+: chain.symbols :=
  (prefix_of_mem_placedFrom e h).2

/-- Every arrow begins where the one before it has ended, or later. -/
theorem pairwise_placed (chain : MarkedChain) :
    chain.placed.Pairwise fun e e' => e.upTo <+: e'.before := by
  suffices ∀ (before : Marked) (rest : List (MarkedArrow × Marked)),
      (placedFrom before rest).Pairwise fun e e' => e.upTo <+: e'.before from this _ _
  intro before rest
  induction rest generalizing before with
  | nil => exact .nil
  | cons first rest ih =>
    obtain ⟨a, gap⟩ := first
    refine List.pairwise_cons.mpr ⟨fun e he => ?_, ih _⟩
    have hbefore := (prefix_of_mem_placedFrom e he).1
    rw [← List.append_assoc] at hbefore
    exact (List.prefix_append _ _).trans hbefore

/-- **Where the arrows of a masked line stand**: each behind what it stands behind in the source,
with placeholders for the spans in it. -/
theorem placed_read (width : Nat) (chain : MarkedChain) :
    (chain.read (masked width)).placed =
      chain.placed.map (MarkedPlaced.read (masked width)) := by
  suffices ∀ (before : Marked) (rest : List (MarkedArrow × Marked)),
      List.zipWith Placed.mk
          (Chain.positionsFrom (masked width before).length
            (rest.map fun e => (e.1.read (masked width), masked width e.2)))
          ((rest.map fun e => (e.1.read (masked width), masked width e.2)).map (·.1)) =
        (placedFrom before rest).map (MarkedPlaced.read (masked width)) from this _ _
  intro before rest
  induction rest generalizing before with
  | nil => rfl
  | cons first rest ih =>
    obtain ⟨a, gap⟩ := first
    -- the next arrow begins behind this one and the gap after it, masked or not
    have hplace : (masked width (before ++ (a.symbols ++ gap))).length =
        (masked width before).length + (a.read (masked width)).raw.length +
          (masked width gap).length := by
      simp only [MarkedArrow.read, masked_append, List.length_append, Nat.add_assoc]
    have hrest := ih (before ++ (a.symbols ++ gap))
    rw [hplace] at hrest
    rw [placedFrom, List.map_cons, List.map_cons, List.map_cons, Chain.positionsFrom,
      List.zipWith_cons_cons, hrest]
    rfl

end MarkedChain

namespace Sketch

open Marked

/-! ## Lines of the source -/

/-- **A line without line feeds in its spans** is the line of the source that has its number. -/
theorem getElem?_lines_of_standsIn {t : Text} {l : LogicalLine} (h : l.StandsIn t)
    (hline : '\n' ∉ l.symbols.source) : (Text.lines t)[l.number - 1]? = some l.symbols.source := by
  obtain ⟨pre, post, heq, hbefore, hpre, hpost⟩ := h.between
  have ht : t = pre.source ++ l.symbols.source ++ post.source := by
    rw [← source_append, ← source_append, ← heq, source_ofText]
  rw [LogicalLine.number, Nat.add_sub_cancel_left, hbefore, ht]
  refine Text.getElem?_lines hline (hpre.imp ?_ ?_) (hpost.imp ?_ ?_)
  · rintro rfl
    rfl
  · rintro ⟨p, rfl⟩
    exact ⟨source p, source_append _ _⟩
  · rintro rfl
    rfl
  · rintro ⟨q, rfl⟩
    exact ⟨source q, rfl⟩

/-! ## Columns -/

/-- Where a column points to, when it is said of an arrow in a line. -/
structure PointsTo (width : Nat) (line : Marked) (e : MarkedPlaced) (column : Nat) : Prop where
  /-- The arrow stands in the line, as it is written, behind what stands before it. -/
  stands : e.before.source ++ e.arrow.symbols.source <+: line.source
  /-- The column is shifted by what the placeholders before the arrow are longer than the spans. -/
  shifted : column + e.before.spans.source.length =
    1 + e.before.source.length + (masked width e.before.spans).length
  /-- So it is right exactly if they are as long. -/
  right_iff : column = 1 + e.before.source.length ↔
    e.before.spans.source.length = (masked width e.before.spans).length
  right : e.before.spanless = true → column = 1 + e.before.source.length

theorem pointsTo_of_prefix {width : Nat} {line : Marked} {e : MarkedPlaced}
    (h : e.upTo <+: line) : PointsTo width line e ((e.read (masked width)).position + 1) := by
  have hlength := length_masked_add width e.before
  obtain ⟨rest, rfl⟩ := h
  refine ⟨⟨source rest, ?_⟩, ?_, ?_, fun hspanless => ?_⟩
  · simp only [MarkedPlaced.upTo, source_append]
  · simp only [MarkedPlaced.read]
    omega
  · simp only [MarkedPlaced.read]
    omega
  · rw [spans_of_spanless hspanless] at hlength
    simp only [MarkedPlaced.read, source_nil, masked_nil, List.length_nil] at hlength ⊢
    omega

/-- What a drawn line has in its warnings about arrows, given its arrows in their places. -/
structure LineColumns (t : Text) (e : Entry) (placed : List MarkedPlaced) : Prop where
  inOrder : placed.Pairwise fun p p' => p.upTo <+: p'.before
  /-- Every arrow of the line has its place, and a warning if an operand of it is missing. -/
  columns : List.Forall₂ (fun p s => s.placed.arrow = p.arrow.read (masked (fenceWidth t)) ∧
    ∃ column, PointsTo (fenceWidth t) e.line.symbols p column ∧
      siteWarnings e.line.number s =
        if s.isJoined then [] else [.dangling e.line.number s.placed.arrow.raw column])
    placed (e.sites (Mask.ofText t))
  /-- There are no others. -/
  warnings_eq : e.outcome.warnings.filter Warning.isDangling =
    (e.sites (Mask.ofText t)).flatMap (siteWarnings e.line.number)

theorem exists_lineColumns {settings : Settings} {t : Text} {canvas canvas' : Canvas}
    {l : LogicalLine} {warnings : List Warning}
    (h : Becomes settings (Mask.ofText t) canvas l (.drawn canvas' warnings)) :
    ∃ placed, LineColumns t ⟨l, canvas, .drawn canvas' warnings⟩ placed := by
  cases h with
  | drawn hd hb hdraw =>
    obtain ⟨labels, hlabels, -⟩ := drawLine_eq_ok hdraw
    have hyields := lineYields_of_drawLine hdraw hlabels
    have hsites : Entry.sites (Mask.ofText t) ⟨l, canvas, .drawn canvas' warnings⟩ =
        (Chain.ofLine (l.masked (Mask.ofText t))).sites labels := by
      simp only [Entry.sites, Outcome.isDrawn, hlabels, if_true]
    obtain ⟨chain, hsymbols, hread⟩ := MarkedChain.exists_markedChain l.symbols
    have hchain : Chain.ofLine (l.masked (Mask.ofText t)) = chain.read (masked (fenceWidth t)) :=
      hread (fenceWidth t)
    -- the arrows of the source line and the sites of the masked one go together
    have hplaced : chain.placed.map (MarkedPlaced.read (masked (fenceWidth t))) =
        ((Chain.ofLine (l.masked (Mask.ofText t))).sites labels).map (·.placed) := by
      rw [hyields.arrows, hchain, MarkedChain.placed_read]
    refine ⟨chain.placed, chain.pairwise_placed, ?_, ?_⟩
    · rw [hsites]
      rw [← List.forall₂_eq_eq_eq, List.forall₂_map_left_iff, List.forall₂_map_right_iff,
        List.forall₂_iff_zip] at hplaced
      refine List.forall₂_iff_zip.mpr ⟨hplaced.1, fun {p s} hzip => ?_⟩
      have hupTo : p.upTo <+: l.symbols :=
        hsymbols ▸ chain.upTo_prefix_of_mem_placed (List.of_mem_zip hzip).1
      rw [siteWarnings, ← hplaced.2 hzip]
      exact ⟨rfl, _, pointsTo_of_prefix hupTo, rfl⟩
    · rw [hsites, Outcome.warnings, hyields.dangling_eq, List.flatMap_map]

/-- Where the warnings of a diagram point to. -/
structure Columns (t : Text) (entries : List Entry) (d : Diagram) : Prop where
  lines_eq : entries.map (·.line) = logicalLines t
  /-- A line without line feeds in its spans is the line of the source that it is said to be. -/
  line_eq : ∀ e ∈ entries, '\n' ∉ e.line.symbols.source →
    (Text.lines t)[e.line.number - 1]? = some e.line.symbols.source
  drawn : ∀ e ∈ entries, e.outcome.isDrawn = true → ∃ placed, LineColumns t e placed
  /-- Warnings are on drawn lines only. -/
  not_drawn : ∀ e ∈ entries, e.outcome.isDrawn = false → e.outcome.warnings = []
  warnings_eq : d.warnings = entries.flatMap (·.outcome.warnings)

/-- **Columns of dangling arrows** are counted with placeholders for the spans before the arrow, so
a column is right exactly if these are as long as their placeholders are, all together. -/
theorem compile_columns {settings : Settings} {numbering after : Numbering} {t : Text} {d : Diagram}
    (h : compile settings numbering t = (.ok d, after)) :
    Columns (normalize t) (trace settings numbering t) d := by
  obtain ⟨hlines, -, rfl⟩ := compile_eq_ok h
  refine ⟨hlines, fun e he => getElem?_lines_of_standsIn (standsIn_of_mem_trace he),
    fun e he hdrawn => ?_, fun e _ hdrawn => ?_, rfl⟩
  · have hbecomes := becomes_of_mem_trace he
    obtain ⟨l, canvas, o⟩ := e
    cases o with
    | drawn canvas' warnings => exact exists_lineColumns hbecomes
    | _ => cases hdrawn
  · obtain ⟨l, canvas, o⟩ := e
    cases o with
    | drawn canvas' warnings => cases hdrawn
    | _ => rfl

/-- An arrow at the beginning of its line, one behind a label that is as long as its placeholder, and
one behind a shorter label. -/
theorem compile_columns_of_labels :
    let t : Text := "-> A\n\"long label\" <-\n\"B\" <-> :1 ->"
    let d : Diagram := ⟨[⟨"A", 1, .rectangle, 0⟩, ⟨"long label", 2, .rectangle, 1⟩,
        ⟨"B", 3, .rectangle, 2⟩],
      [⟨0, "B", "A", none⟩, ⟨1, "A", "B", none⟩], [], [],
      [.dangling 1 "->" 1, .dangling 2 "<-" 14, .dangling 3 "->" 21]⟩
    let after : Numbering :=
      ⟨[("A", 1), ("long label", 2), ("B", 3)], [(1, "A"), (2, "long label"), (3, "B")], 4⟩
    compile ⟨true, false⟩ Numbering.empty t = (.ok d, after) ∧
      Columns (normalize t) (trace ⟨true, false⟩ Numbering.empty t) d := by
  intro t d after
  have h : compile ⟨true, false⟩ Numbering.empty t = (.ok d, after) := by
    decide +kernel
  exact ⟨h, compile_columns h⟩

/-- The arrow is the fifth character of its line, but its column is that in the masked line. -/
theorem compile_column_behind_label :
    let t : Text := "\"A\" ->"
    let before : Text := "\"A\" "
    let d : Diagram := ⟨[⟨"A", 1, .rectangle, 0⟩], [], [], [], [.dangling 1 "->" 14]⟩
    let after : Numbering := ⟨[("A", 1)], [(1, "A")], 2⟩
    compile ⟨true, false⟩ Numbering.empty t = (.ok d, after) ∧
      Text.lines (normalize t) = [before ++ "->"] ∧ '-' ∉ before ∧ 1 + before.length = 5 ∧
      d.warnings ≠ [.dangling 1 "->" (1 + before.length)] := by
  decide +kernel

end Sketch

end GraphSketch
