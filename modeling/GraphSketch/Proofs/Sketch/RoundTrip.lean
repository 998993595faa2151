import GraphSketch.Proofs.Sketch.Normalize
import GraphSketch.Proofs.Sketch.Statement

/-!
# Every graph can be written

Statements are written one on each line, their labels as quoted spans; `compile_text` says that
compiling them gives the graph they describe and nothing else, whatever the labels look like.

* `lines_ofText_text` — the lines of the text are those of the statements: no label ends a line.
* `compile_text` — compiling draws the statements one after the other.
* `labels_drawAll`, `edges_drawAll` — what is on the canvas when all statements are drawn.
* `exists_text_of_graph` — for every graph with labels that can be written there are statements.
-/

set_option autoImplicit false

namespace GraphSketch

namespace Statement

/-- Statements, one on each line. -/
def text (statements : List Statement) : Text := Text.unlines (statements.map source)

/-- The lines of statements with their spans marked, the first with the number `n`. -/
def rows : Nat → List Statement → List Marked
  | _, [] => []
  | n, statement :: statements => statement.marked n :: rows (n + statement.spans) statements

/-- The canvas with what all the statements say on it. -/
def drawAll (shapes : List Shape) (canvas : Canvas) (statements : List Statement) : Canvas :=
  statements.foldl (draw shapes) canvas

variable {statements : List Statement}

/-! ## The text -/

theorem text_cons_cons (statement next : Statement) (rest : List Statement) :
    text (statement :: next :: rest) = statement.source ++ '\n' :: text (next :: rest) := by
  simp [text, Text.unlines, Text.join]

theorem return_notMem_source {statement : Statement} (h : statement.Writable) :
    '\r' ∉ statement.source := by
  have hquote : ∀ label : Text, IsWritable label → '\r' ∉ quoteSpan label := fun label hl =>
    notMem_quoteSpan (by decide) (by decide) hl.return_notMem
  cases statement with
  | node label => exact hquote label h
  | edge left before connector behind right =>
    have hconnector : '\r' ∉ connector.source := Connector.notMem_source h.2.1 (by decide)
    simp [source, hquote left h.1, hquote right h.2.2, hconnector]

theorem return_notMem_text : ∀ {statements : List Statement},
    (∀ statement ∈ statements, statement.Writable) → '\r' ∉ text statements
  | [], _ => List.not_mem_nil
  | [statement], h => return_notMem_source (h statement List.mem_cons_self)
  | statement :: next :: rest, h => by
    have ih := return_notMem_text fun s hs => h s (List.mem_cons_of_mem statement hs)
    have hfirst := return_notMem_source (h statement List.mem_cons_self)
    rw [text_cons_cons]
    simp [hfirst, ih]

theorem normalize_text (h : ∀ statement ∈ statements, statement.Writable) :
    Sketch.normalize (text statements) = text statements := by
  have hmark : (text statements).head? ≠ some '\ufeff' := by
    match statements with
    | [] => exact nofun
    | [node _] => simp [text, Text.unlines, Text.join, source, quoteSpan]
    | [edge _ _ _ _ _] => simp [text, Text.unlines, Text.join, source, quoteSpan]
    | node _ :: _ :: _ => simp [text_cons_cons, source, quoteSpan]
    | edge _ _ _ _ _ :: _ :: _ => simp [text_cons_cons, source, quoteSpan]
  exact Sketch.normalize_of_notMem (return_notMem_text h) hmark

theorem ofTextFrom_text : ∀ (n : Nat) {statements : List Statement},
    (∀ statement ∈ statements, statement.Writable) →
      Marked.ofTextFrom n (text statements) = [Symbol.char '\n'].intercalate (rows n statements)
  | _, [], _ => rfl
  | n, [statement], h => by
    have hfirst := ofTextFrom_source (h statement List.mem_cons_self) n []
    simpa [text, Text.unlines, Text.join, rows] using hfirst
  | n, statement :: next :: rest, h => by
    have hfirst := ofTextFrom_source (h statement List.mem_cons_self) n
      ('\n' :: text (next :: rest))
    have hfeed : Marked.ofTextFrom (n + statement.spans) ('\n' :: text (next :: rest)) =
        .char '\n' :: Marked.ofTextFrom (n + statement.spans) (text (next :: rest)) :=
      Marked.ofTextFrom_append (List.mem_singleton.not.mpr (by decide)) _ _
    have ih := ofTextFrom_text (n + statement.spans) fun s hs =>
      h s (List.mem_cons_of_mem statement hs)
    rw [text_cons_cons, hfirst, hfeed, ih]
    simp [rows]

theorem exists_of_mem_rows {s : Marked} : ∀ {n : Nat} {statements : List Statement},
    s ∈ rows n statements → ∃ statement ∈ statements, ∃ m, s = statement.marked m
  | _, [], h => by cases h
  | n, statement :: rest, h => by
    rcases List.mem_cons.mp h with rfl | h
    · exact ⟨statement, List.mem_cons_self, n, rfl⟩
    · obtain ⟨found, hmem, m, rfl⟩ := exists_of_mem_rows h
      exact ⟨found, List.mem_cons_of_mem _ hmem, m, rfl⟩

/-- **The lines are those of the statements**, line feeds in labels or not. -/
theorem lines_ofText_text (hne : statements ≠ [])
    (h : ∀ statement ∈ statements, statement.Writable) :
    (Marked.ofText (text statements)).lines = rows 0 statements := by
  have hfeed : ∀ s ∈ rows 0 statements, .char '\n' ∉ s := by
    intro s hs
    obtain ⟨statement, hmem, m, rfl⟩ := exists_of_mem_rows hs
    exact feed_notMem_marked (h statement hmem) m
  have hrows : rows 0 statements ≠ [] := by
    cases statements with
    | nil => exact absurd rfl hne
    | cons => exact List.cons_ne_nil _ _
  rw [Marked.lines, Marked.ofText_eq_ofTextFrom, ofTextFrom_text 0 h,
    List.splitOn_intercalate _ hfeed hrows]

/-! ## Drawing -/

/-- Along the lines of statements every statement is drawn, and nothing else happens. -/
theorem traceFrom_rows (settings : Settings) {t : Text} : ∀ (n : Nat) {statements : List Statement}
    (before : Text) (canvas : Canvas), (∀ statement ∈ statements, statement.Writable) →
    (∀ s ∈ rows n statements, ∀ x ∈ s, x ∈ Marked.ofText t) →
    let entries := Sketch.traceFrom settings (Mask.ofText t) canvas
      (LogicalLine.placed before (rows n statements))
    Sketch.lastCanvas canvas entries = drawAll settings.shapes canvas statements ∧
      ∀ e ∈ entries, ∃ next, e.outcome = .drawn next []
  | _, [], _, _, _, _ => ⟨rfl, nofun⟩
  | n, statement :: rest, before, canvas, h, hin => by
    intro entries
    have houtcome := outcome_marked (h statement List.mem_cons_self)
      (hin (statement.marked n) List.mem_cons_self) settings canvas before
    obtain ⟨hlast, hdrawn⟩ := traceFrom_rows settings (n + statement.spans)
      (before ++ (statement.marked n).source ++ ['\n']) (statement.draw settings.shapes canvas)
      (fun s hs => h s (List.mem_cons_of_mem statement hs))
      (fun s hs => hin s (List.mem_cons_of_mem _ hs))
    have hentries : entries = ⟨⟨before, statement.marked n⟩, canvas,
        .drawn (statement.draw settings.shapes canvas) []⟩ ::
          Sketch.traceFrom settings (Mask.ofText t) (statement.draw settings.shapes canvas)
            (LogicalLine.placed (before ++ (statement.marked n).source ++ ['\n'])
              (rows (n + statement.spans) rest)) := by
      simp only [entries, rows, LogicalLine.placed, Sketch.traceFrom, houtcome]
      rfl
    rw [hentries]
    refine ⟨hlast, ?_⟩
    intro e he
    rcases List.mem_cons.mp he with rfl | he
    · exact ⟨_, rfl⟩
    · exact hdrawn e he

/-- Where every line is drawn without a warning, the canvas is all there is. -/
theorem result_of_drawn {numbering : Numbering} {entries : List Sketch.Entry}
    (h : ∀ e ∈ entries, ∃ next, e.outcome = .drawn next []) :
    let canvas := Sketch.lastCanvas (Canvas.start numbering) entries
    Sketch.result numbering entries =
      (.ok ⟨canvas.nodes, canvas.edges, [], [], []⟩, canvas.numbering) := by
  have hall : ∀ e ∈ entries, e.outcome.fault? = none ∧ e.outcome.command? = none ∧
      e.outcome.error? = none ∧ e.outcome.warnings = [] := by
    intro e he
    obtain ⟨next, ho⟩ := h e he
    rw [ho]
    exact ⟨rfl, rfl, rfl, rfl⟩
  have hfault : Sketch.traceFault? entries = none :=
    List.findSome?_eq_none_iff.mpr fun e he => (hall e he).1
  have hcommands : entries.filterMap (·.outcome.command?) = [] :=
    List.filterMap_eq_nil_iff.mpr fun e he => (hall e he).2.1
  have herrors : entries.filterMap (·.outcome.error?) = [] :=
    List.filterMap_eq_nil_iff.mpr fun e he => (hall e he).2.2.1
  have hwarnings : entries.flatMap (·.outcome.warnings) = [] :=
    List.flatMap_eq_nil_iff.mpr fun e he => (hall e he).2.2.2
  intro canvas
  rw [Sketch.result, hfault, hcommands, herrors, hwarnings]

theorem mem_ofText_of_mem_lines {t : Text} {s : Marked} (h : s ∈ (Marked.ofText t).lines) :
    ∀ x ∈ s, x ∈ Marked.ofText t := by
  rw [← LogicalLine.map_symbols_placed [] (Marked.ofText t).lines] at h
  obtain ⟨l, hl, rfl⟩ := List.mem_map.mp h
  intro x hx
  exact (standsIn_of_mem_logicalLines hl).isInfix_symbols.subset hx

/-- **Compiling written statements draws them one after the other**, whatever their labels look
like. -/
theorem compile_text (settings : Settings) (numbering : Numbering)
    (h : ∀ statement ∈ statements, statement.Writable) :
    let canvas := drawAll settings.shapes (Canvas.start numbering) statements
    Sketch.compile settings numbering (text statements) =
      (.ok ⟨canvas.nodes, canvas.edges, [], [], []⟩, canvas.numbering) := by
  intro canvas
  by_cases hne : statements = []
  · subst hne
    rfl
  have hlines := lines_ofText_text hne h
  have hin : ∀ s ∈ rows 0 statements, ∀ x ∈ s, x ∈ Marked.ofText (text statements) :=
    fun s hs => mem_ofText_of_mem_lines (hlines ▸ hs)
  have htrace : Sketch.trace settings numbering (text statements) =
      Sketch.traceFrom settings (Mask.ofText (text statements)) (Canvas.start numbering)
        (LogicalLine.placed [] (rows 0 statements)) := by
    rw [Sketch.trace, normalize_text h, logicalLines, hlines]
  obtain ⟨hlast, hdrawn⟩ := traceFrom_rows settings 0 [] (Canvas.start numbering) h hin
  rw [Sketch.compile_eq_result, htrace, result_of_drawn hdrawn, hlast]

/-! ## What is drawn -/

theorem drawAll_cons (shapes : List Shape) (canvas : Canvas) (statement : Statement)
    (rest : List Statement) : drawAll shapes canvas (statement :: rest) =
      drawAll shapes (statement.draw shapes canvas) rest := rfl

theorem labels_drawAll (shapes : List Shape) : ∀ (statements : List Statement) {canvas : Canvas}
    {mentioned : List Text}, canvas.labels = mentioned.eraseDups →
      (drawAll shapes canvas statements).labels =
        (mentioned ++ statements.flatMap labels).eraseDups
  | [], _, mentioned, h => by rw [List.flatMap_nil, List.append_nil]; exact h
  | statement :: rest, canvas, mentioned, h => by
    have hdraw : (statement.draw shapes canvas).labels =
        (mentioned ++ statement.labels).eraseDups := by
      rw [draw, Canvas.foldl_addEdge_labels, Canvas.addNodes_labels shapes statement.labels h]
    have ih := labels_drawAll shapes rest hdraw
    rw [drawAll_cons, ih, List.flatMap_cons, List.append_assoc]

theorem edges_drawAll (shapes : List Shape) : ∀ (statements : List Statement) (canvas : Canvas),
    (drawAll shapes canvas statements).edges =
      canvas.edges ++ Canvas.counted canvas.edges.length (statements.flatMap edges)
  | [], canvas => (List.append_nil canvas.edges).symm
  | statement :: rest, canvas => by
    have hdraw : (statement.draw shapes canvas).edges =
        canvas.edges ++ Canvas.counted canvas.edges.length statement.edges := by
      rw [draw, Canvas.foldl_addEdge_edges, Canvas.addNodes_edges]
    have ih := edges_drawAll shapes rest (statement.draw shapes canvas)
    rw [drawAll_cons, ih, hdraw, List.flatMap_cons, Canvas.counted_append, List.length_append,
      Canvas.length_counted, List.append_assoc]

/-- A diagram that shows what the statements say and holds nothing else. -/
structure Describes (statements : List Statement) (d : Diagram) : Prop where
  /-- Each label is a node, where it is first mentioned. -/
  nodes : d.nodes.map (·.label) = (statements.flatMap labels).eraseDups
  /-- The edges are those of the arrows, counted through. -/
  edges : d.edges = Canvas.counted 0 (statements.flatMap edges)
  commands : d.commands = []
  errors : d.errors = []
  warnings : d.warnings = []

theorem describes_drawAll (shapes : List Shape) (numbering : Numbering)
    (statements : List Statement) :
    let canvas := drawAll shapes (Canvas.start numbering) statements
    Describes statements ⟨canvas.nodes, canvas.edges, [], [], []⟩ := by
  intro canvas
  have hstart : (Canvas.start numbering).labels = ([] : List Text).eraseDups := rfl
  have hlabels := labels_drawAll shapes statements hstart
  have hedges := edges_drawAll shapes statements (Canvas.start numbering)
  exact ⟨hlabels, hedges, rfl, rfl, rfl⟩

/-! ## Statements for a graph -/

/-- The statement of an edge. -/
def ofEdge (e : Text × Text × Option Text) : Statement :=
  edge e.1 0 (Connector.ofLabel e.2.2) 0 e.2.1

/-- Statements for the nodes and edges of a graph. -/
def ofGraph (nodes : List Text) (es : List (Text × Text × Option Text)) : List Statement :=
  nodes.map node ++ es.map ofEdge

/-- A graph of which everything can be written and nothing is lost by trimming. -/
structure IsGraph (nodes : List Text) (es : List (Text × Text × Option Text)) : Prop where
  nodup : nodes.Nodup
  label : ∀ l ∈ nodes, IsWritable l ∧ l.trim = l
  ends : ∀ e ∈ es, e.1 ∈ nodes ∧ e.2.1 ∈ nodes
  connector : ∀ e ∈ es, ∀ l, e.2.2 = some l → (Connector.labelled l).IsProper ∧ l.trim = l

variable {nodes : List Text} {es : List (Text × Text × Option Text)}

theorem eraseDups_of_nodup : ∀ {ls : List Text}, ls.Nodup → ls.eraseDups = ls
  | [], _ => rfl
  | l :: ls, h => by
    obtain ⟨hl, hls⟩ := List.nodup_cons.mp h
    have hfilter : ls.filter (fun b => !b == l) = ls :=
      List.filter_eq_self.mpr fun b hb => by
        have hne : b ≠ l := fun heq => hl (heq ▸ hb)
        simpa using hne
    rw [List.eraseDups_cons, hfilter, eraseDups_of_nodup hls]

theorem writable_ofGraph (h : IsGraph nodes es) :
    ∀ statement ∈ ofGraph nodes es, statement.Writable := by
  intro statement hmem
  rcases List.mem_append.mp hmem with hmem | hmem
  · obtain ⟨l, hl, rfl⟩ := List.mem_map.mp hmem
    exact (h.label l hl).1
  · obtain ⟨e, he, rfl⟩ := List.mem_map.mp hmem
    obtain ⟨hleft, hright⟩ := h.ends e he
    refine ⟨(h.label _ hleft).1, ?_, (h.label _ hright).1⟩
    cases hlabel : e.2.2 with
    | none => exact trivial
    | some l => exact (h.connector e he l hlabel).1

/-- The nodes come first, so the statements of edges mention nothing new. -/
theorem labels_ofGraph (h : IsGraph nodes es) :
    ((ofGraph nodes es).flatMap labels).eraseDups = nodes := by
  have hnodes : (nodes.map node).flatMap labels = nodes := calc
    (nodes.map node).flatMap labels = nodes.flatMap fun l => labels (node l) := List.flatMap_map ..
    _ = nodes.flatMap fun l => [l] := List.flatMap_congr fun l hl => by rw [labels, (h.label l hl).2]
    _ = nodes := List.flatMap_singleton' nodes
  have hnothing : ((es.map ofEdge).flatMap labels).removeAll nodes = [] := by
    refine List.filter_eq_nil_iff.mpr fun l hl => ?_
    obtain ⟨statement, hstatement, hl⟩ := List.mem_flatMap.mp hl
    obtain ⟨e, he, rfl⟩ := List.mem_map.mp hstatement
    obtain ⟨hleft, hright⟩ := h.ends e he
    rw [ofEdge, labels, (h.label _ hleft).2, (h.label _ hright).2] at hl
    simp only [List.mem_cons, List.not_mem_nil, or_false] at hl
    rcases hl with rfl | rfl <;> simpa
  rw [ofGraph, List.flatMap_append, hnodes, List.eraseDups_append, hnothing,
    eraseDups_of_nodup h.nodup, List.eraseDups_nil, List.append_nil]

theorem edges_ofGraph (h : IsGraph nodes es) : (ofGraph nodes es).flatMap edges = es := by
  have hnodes : (nodes.map node).flatMap edges = [] := by
    simp [List.flatMap_map, edges]
  have hedge : ∀ e ∈ es, edges (ofEdge e) = [e] := by
    intro e he
    obtain ⟨hleft, hright⟩ := h.ends e he
    have hlabel := h.connector e he
    obtain ⟨left, right, label⟩ := e
    rw [ofEdge, edges, (h.label _ hleft).2, (h.label _ hright).2]
    cases label with
    | none => rfl
    | some l => rw [Connector.ofLabel, Connector.edges, (hlabel l rfl).2]
  rw [ofGraph, List.flatMap_append, hnodes, List.flatMap_map, List.flatMap_congr hedge,
    List.flatMap_singleton', List.nil_append]

end Statement

namespace Session

/-- **Written statements give the graph that they describe**, in any session. -/
theorem compile_describes (session : Session) {statements : List Statement}
    (h : ∀ statement ∈ statements, statement.Writable) :
    ∃ d after, session.compile (Statement.text statements) = (.ok d, after) ∧
      Statement.Describes statements d := by
  have hcompile := Statement.compile_text session.settings session.numbering h
  refine ⟨_, _, by rw [Session.compile, hcompile], ?_⟩
  exact Statement.describes_drawAll session.settings.shapes session.numbering statements

/-- **Every graph can be written.** -/
theorem exists_text_of_graph (session : Session) {nodes : List Text}
    {es : List (Text × Text × Option Text)} (h : Statement.IsGraph nodes es) :
    ∃ t d after, session.compile t = (.ok d, after) ∧ d.nodes.map (·.label) = nodes ∧
      d.edges = Canvas.counted 0 es := by
  have hcompile := Statement.compile_text session.settings session.numbering
    (Statement.writable_ofGraph h)
  have hdescribes := Statement.describes_drawAll session.settings.shapes session.numbering
    (Statement.ofGraph nodes es)
  refine ⟨Statement.text (Statement.ofGraph nodes es), _, _, by rw [Session.compile, hcompile], ?_, ?_⟩
  · rw [hdescribes.nodes, Statement.labels_ofGraph h]
  · rw [hdescribes.edges, Statement.edges_ofGraph h]

/-- Labels that look like a command, a reference, a chain over two lines, a placeholder and the end
of a span, in a session that has seen nothing. -/
theorem compile_describes_lookalikes :
    let statements : List Statement :=
      [.node "=layout(star)", .edge "@A red" 1 .forward 1 ":1",
        .edge ":1" 0 (.labelled " a:1 ") 2 "x -> y\n\"=rename(a,b)\"",
        .edge "__QUOTED_0__" 1 (.labelledBoth "=-1-") 0 " C:\\\\\"D\\E\\\\", .node "@A red "]
    let text : Text := "\"=layout(star)\"\n\"@A red\" -> \":1\"\n\":1\"- a:1 ->  " ++
      "\"x -> y\n\\\"=rename(a,b)\\\"\"\n\"__QUOTED_0__\" <-=-1-->\" C:\\\\\\\"D\\E\\\\\"\n\"@A red \""
    Statement.text statements = text ∧ (∀ statement ∈ statements, statement.Writable) ∧
      ∃ d after, (Session.start ⟨false, true⟩ Numbering.empty).compile text = (.ok d, after) ∧
        Statement.Describes statements d := by
  intro statements text
  have htext : Statement.text statements = text := by decide
  have hwritable : ∀ label : Text, '\r' ∉ label → Text.isBlankText label = false →
      spanContent? (escapeQuotes label ++ ['"']) = some (escapeQuotes label) → IsWritable label :=
    fun label hreturn hblank hspan =>
      ⟨hreturn, hblank, (spanContent?_escapeQuotes_iff [] label).mp hspan⟩
  have hchars : ∀ label signs : Text, label.all (fun c => !signs.elem c) = true →
      ∀ c ∈ label, c ∉ signs := fun label signs hall c hc => by
    simpa using List.all_eq_true.mp hall c hc
  have h : ∀ statement ∈ statements, statement.Writable := by
    intro statement hmem
    simp only [statements, List.mem_cons, List.not_mem_nil, or_false] at hmem
    rcases hmem with rfl | rfl | rfl | rfl | rfl
    · exact hwritable _ (by decide) (by decide) (by decide)
    · exact ⟨hwritable _ (by decide) (by decide) (by decide), trivial,
        hwritable _ (by decide) (by decide) (by decide)⟩
    · exact ⟨hwritable _ (by decide) (by decide) (by decide), ⟨by decide, hchars _ _ (by decide)⟩,
        hwritable _ (by decide) (by decide) (by decide)⟩
    · exact ⟨hwritable _ (by decide) (by decide) (by decide), ⟨by decide, hchars _ _ (by decide)⟩,
        hwritable _ (by decide) (by decide) (by decide)⟩
    · exact hwritable _ (by decide) (by decide) (by decide)
  exact ⟨htext, h, htext ▸ compile_describes _ h⟩

end Session

end GraphSketch
