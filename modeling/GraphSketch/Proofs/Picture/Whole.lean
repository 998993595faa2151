import GraphSketch.Proofs.Picture.DotString
import GraphSketch.Proofs.Picture.Mermaid

/-!
# The code draws the whole graph

Both languages have one statement for each node of a document and one for each edge, in their
order. The nodes have different names there, and an edge has the names of the nodes that it leads
between, whatever the nodes are labelled with.

* `Document.Drawn` — what the code of a document is, line by line, given a picture that has all of
  the document (`Document.Pictured`).
* `Document.drawn_of_compile` — so it is for documents that are made from what sketches compile
  to.

The lines of Mermaid code are in `Proofs.Picture.Mermaid`, and those of DOT code in
`Proofs.Picture.Dot`, for every library that keeps to the laws.  What is left for this module is
that names are different: they are keys made from different numbers, and quoting keeps such keys
apart (`quote_numberKey_injective`).
-/

set_option autoImplicit false

namespace GraphSketch

namespace Picture

/-! ## Names -/

/-- Nodes have different names in DOT too, where a key may have to be quoted. -/
theorem quote_numberKey_injective [Dot.Library] [Dot.Lawful] {m n : Int}
    (h : Dot.quote (numberKey m) = Dot.quote (numberKey n)) : m = n := by
  have hread : ∀ k : Int, Dot.readString? (Dot.quote (numberKey k) ++ ' ' :: []) =
      some (numberKey k, [' ']) := fun k =>
    Dot.readString?_of_isLegible (Dot.isLegible_numberKey k) ⟨rfl, by decide⟩ []
  have hm := hread m
  rw [h, hread n, Option.some.injEq, Prod.mk.injEq] at hm
  exact (numberKey_injective hm.1).symm

end Picture

namespace Document

/-- How a document is drawn in both languages, given its picture. -/
structure Drawn [Dot.Library] (document : Document) (picture : Picture) : Prop extends
    Pictured document picture where
  /-- The lines of the Mermaid code are a heading, a statement for each node, a statement for each
  edge, and the styles of the nodes that have one. -/
  mermaid : document.mermaid = .ok (Mermaid.code picture) ∧
    Text.lines (Mermaid.code picture) = Mermaid.heading picture ::
      (picture.nodes.map Mermaid.nodeStatement ++ picture.edges.map Mermaid.edgeStatement ++
        (picture.nodes.filter Mermaid.isStyled).map Mermaid.styleStatement) ++ [[]]
  /-- A layout is asked for, or the document tells one or none, which is empty then. -/
  asked : ∀ layout, ∃ kind, Picture.askedLayout document layout = .ok kind
  /-- If there is none or it is known, the lines of the DOT code behind the title are an opening, a
  statement for each node, a statement for each edge, and the closing. -/
  dot : ∀ layout kind, Picture.askedLayout document layout = .ok kind →
    (kind = [] ∨ ∃ known, Layout.ofName? kind = some known) →
      ∃ engine body, Layout.engineFor (some kind) = .ok engine ∧
        document.dot layout = .ok (Dot.titleLine picture.title ++ body) ∧
        Text.lines body = Dot.opening picture engine ++ picture.nodes.map Dot.nodeStatement ++
          picture.edges.map Dot.edgeStatement ++ [("\x7d" : Text)] ++ [[]]
  /-- There is no DOT code for a layout that is unknown. -/
  refused : ∀ layout kind, Picture.askedLayout document layout = .ok kind → kind ≠ [] →
    Layout.ofName? kind = none → document.dot layout = .error (.unknownLayout kind)
  /-- Edges are written with the names of their ends as nodes are, and the names are different. -/
  named : (∀ line ∈ picture.edges, Dot.edgeHead line =
      "\t" ++ Dot.quote line.source ++ " -> " ++ Dot.quote line.target) ∧
    (picture.nodes.map (·.key)).Nodup ∧ (picture.nodes.map (Dot.quote ·.key)).Nodup

/-- **The code draws the whole graph.**  Documents that are made from what a sketch compiles to, with
a numbering that goes back to a new one, are drawn in both languages with all their nodes and edges,
and no edge is drawn between other nodes than its own. -/
theorem drawn_of_compile [Dot.Library] [Dot.Lawful] {events : List Numbering.Event}
    {settings : Settings} {t : Text} {d : Diagram} {after : Numbering} {document : Document}
    (h : Sketch.compile settings (Numbering.run .empty events) t = (.ok d, after))
    (hmade : MadeFrom d document) : ∃ picture, Drawn document picture := by
  have hd := Sketch.drawable_of_compile h
  have hnodup := Sketch.nodup_numbers_of_compile h
  have hdepicts := hmade.depicts
  obtain ⟨picture, hshows⟩ := Picture.exists_shows hd hdepicts
  refine ⟨picture, hshows.pictured hd hnodup hdepicts, ⟨?_, Mermaid.lines_code hshows⟩,
    fun layout => ?_, fun layout kind hasked hknown => ?_, fun layout kind hasked hne hname => ?_,
    fun line hline => ?_, hshows.nodup_keys hnodup, ?_⟩
  · rw [mermaid, hshows.made]
    rfl
  · exact Picture.exists_askedLayout hdepicts layout
  · obtain ⟨engine, hfor⟩ := Layout.exists_engineFor hknown
    have hengine := Picture.engine_eq_ok_iff.mpr ⟨kind, hasked, hfor⟩
    have hmem := Dot.mem_engines hengine
    refine ⟨engine, Dot.ended (Dot.statements picture engine), hfor, ?_,
      Dot.lines_body hshows hmem⟩
    rw [← Dot.code_eq hmem, dot, hengine, hshows.made]
    rfl
  · rw [dot, Picture.engine_eq_unknown_iff.mpr ⟨hasked, hne, hname⟩]
    rfl
  · obtain ⟨e, -, hdrawn⟩ := hshows.exists_drawnEdge hline
    obtain ⟨hsource, htarget⟩ := Dot.quoteEnd_of_drawnEdge hdrawn
    rw [Dot.edgeHead, hsource, htarget]
  · have hnames : picture.nodes.map (Dot.quote ·.key) =
        (d.nodes.map (·.number)).map fun n => Dot.quote (Picture.numberKey n) := by
      have hkeys := congrArg (List.map Dot.quote) hshows.map_key
      rwa [List.map_map, List.map_map] at hkeys
    rw [hnames]
    exact hnodup.map fun _ _ => Picture.quote_numberKey_injective

/-- Two labels become the same by commands, a layout that is unknown is chosen, and an edge leads
from each of the nodes to the other. -/
theorem drawn_of_compile_of_renaming :
    let events : List Numbering.Event := [.assign "C", .reload]
    let d : Diagram := ⟨[⟨"A", 2, .rectangle, 0⟩, ⟨"B", 3, .rectangle, 1⟩],
      [⟨0, "A", "B", none⟩, ⟨1, "B", "A", none⟩], [], [], []⟩
    let after : Numbering := ⟨[("C", 1), ("A", 2), ("B", 3)], [(1, "C"), (2, "A"), (3, "B")], 4⟩
    let before : Document := ofDiagram "s" (some "LR") d
    let actions : List Action := [.rename "A" "B", .layout "star" ["A", "B"]]
    let document : Document := actions.foldl apply before
    Sketch.compile ⟨true, false⟩ (Numbering.run .empty events) "A <-> B" = (.ok d, after) ∧
      before.execute d.nodes [.rename ":2" "B", .layout "star"] =
        .ok (actions, document, .ok [true, true]) ∧
      ∃ picture, Drawn document picture := by
  intro events d after before actions document
  have h : Sketch.compile ⟨true, false⟩ (Numbering.run .empty events) "A <-> B" =
      (.ok d, after) := by
    decide +kernel
  have hrun : before.execute d.nodes [.rename ":2" "B", .layout "star"] =
      .ok (actions, document, .ok [true, true]) :=
    execute_eq_ok_iff.mpr ⟨checkNodes_eq_ok_iff.mp rfl, by decide +kernel, rfl, Or.inl rfl⟩
  exact ⟨h, hrun, drawn_of_compile h (.executed (.written "s" (some "LR")) hrun)⟩

end Document

end GraphSketch
