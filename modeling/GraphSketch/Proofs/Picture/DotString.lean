import GraphSketch.Proofs.Picture.Covers
import GraphSketch.Proofs.Picture.DotRead

/-!
# Labels in DOT code

The labels of nodes and edges are values.  What DOT reads in their places is the label exactly if
it is not in angle brackets and no backslash in it is left over before a quote or at the end.

* `Dot.LabelsRead` — where labels stand, and which of them are read as they were.
* `Document.labelsRead_of_dot_eq_ok` — so it is with the labels of nodes and edges, in the code of
  every document that is made from what a sketch compiles to; the labels in it are all the labels
  of the document.

Line feeds of labels are written out as `\n` before (`Picture.escapeLabel`), which puts no bracket
at either end (`isMarkup_escapeLabel`).  `dot_of_brackets_and_backslash` shows both ways in which
a label is not read as it was: one that is in angle brackets, and one that ends with a backslash.
-/

set_option autoImplicit false

namespace GraphSketch

open Picture (DrawnNode DrawnEdge Shows escapeLabel newline_notMem_escapeLabel)

namespace Dot

/-! ## Labels -/

theorem isMarkup_escapeLabel {label : Text} (h : IsArrowLabel label) :
    isMarkup (escapeLabel label) = false := by
  rw [← Bool.not_eq_true]
  intro hmarkup
  have hbracket : '<' ∈ escapeLabel label := by
    unfold isMarkup at hmarkup
    split at hmarkup
    · rename_i heq
      rw [heq]
      exact List.mem_cons_self
    · cases hmarkup
  rcases Text.mem_replaceChar hbracket with hmem | ⟨hmem, -⟩
  · exact absurd hmem (by decide)
  · cases h.2 _ hmem

/-- Where labels stand in the code of a picture, and which of them DOT reads as they were. -/
structure LabelsRead [Library] (picture : Picture) (engine code : Text) : Prop where
  /-- The label of a node stands in its statement, which comes behind those of the nodes before it.
  It is read as it was, up to the blank behind it, exactly if it is not in angle brackets and its
  runs of backslashes are even. -/
  node : ∀ pre drawn post, picture.nodes = pre ++ drawn :: post → ∃ behind,
    code = titleLine picture.title ++ ended (opening picture engine ++ pre.map nodeStatement) ++
        nodeHead drawn ++ (quote (escapeLabel drawn.label) ++ ' ' :: behind) ∧
      (readString? (quote (escapeLabel drawn.label) ++ ' ' :: behind) =
          some (escapeLabel drawn.label, ' ' :: behind) ↔
        isMarkup (escapeLabel drawn.label) = false ∧ EvenBackslashes (escapeLabel drawn.label))
  /-- The label of an edge is never in angle brackets. It is read as it was, up to the bracket behind
  it, exactly if its runs of backslashes are even. -/
  edge : ∀ pre line post label, picture.edges = pre ++ line :: post → line.label = some label →
    ∃ behind,
      code = titleLine picture.title ++ ended (opening picture engine ++
            picture.nodes.map nodeStatement ++ pre.map edgeStatement) ++
          (edgeHead line ++ " [label=") ++ (quote (escapeLabel label) ++ ']' :: behind) ∧
        (readString? (quote (escapeLabel label) ++ ']' :: behind) =
            some (escapeLabel label, ']' :: behind) ↔
          EvenBackslashes (escapeLabel label))

theorem labelsRead_code [Library] [Lawful] {d : Diagram} {document : Document} {picture : Picture}
    (hd : d.Drawable) (h : Shows d document picture) {engine : Text} (hengine : engine ∈ engines) :
    LabelsRead picture engine (code picture engine) := by
  have hblank : EndsWord ' ' := ⟨rfl, by decide⟩
  have hbracket : EndsWord ']' := ⟨rfl, by decide⟩
  refine ⟨fun pre drawn post hnodes => ?_, fun pre line post label hedges hlabel => ?_⟩
  · obtain ⟨behind, hcode⟩ := code_eq_of_node hengine hnodes
    exact ⟨behind, hcode, readString?_quote_iff (newline_notMem_escapeLabel _) hblank behind⟩
  · obtain ⟨behind, hcode⟩ := code_eq_of_edge hengine hedges hlabel
    obtain ⟨e, he, hline⟩ :=
      h.exists_drawnEdge (hedges ▸ List.mem_append_right pre List.mem_cons_self)
    have hmarkup : isMarkup (escapeLabel label) = false :=
      isMarkup_escapeLabel (hd.isArrowLabel e he label (hline.label.symm.trans hlabel))
    exact ⟨behind, hcode, (readString?_quote_iff (newline_notMem_escapeLabel _) hbracket
      behind).trans (and_iff_right hmarkup)⟩

end Dot

namespace Document

open Dot (LabelsRead readString? quote)

/-- **Which labels DOT reads as they were.**  In the code of a document that is made from what a
sketch compiles to, which has the labels of all its nodes and edges, these are exactly the labels that
are not in angle brackets and in which no backslash is left over before a quote or at the end; labels
of edges are never in angle brackets. -/
theorem labelsRead_of_dot_eq_ok [Dot.Library] [Dot.Lawful] {settings : Settings}
    {numbering after : Numbering} {t : Text} {d : Diagram} {document : Document}
    {layout : Option Text} {code : Text}
    (h : Sketch.compile settings numbering t = (.ok d, after)) (hmade : MadeFrom d document)
    (hcode : document.dot layout = .ok code) :
    ∃ picture engine, Picture.ofDocument document = .ok picture ∧
      Picture.engine document layout = .ok engine ∧
      (∃ items edges, document.get? "nodes" = some (.arr items) ∧
        document.get? "edges" = some (.arr edges) ∧ Picture.Holds items edges picture) ∧
      LabelsRead picture engine code := by
  have hd := Sketch.drawable_of_compile h
  obtain ⟨picture, hshows⟩ := Picture.exists_shows hd hmade.depicts
  obtain ⟨engine, drawn, hengine, hdrawn, rfl⟩ := dot_eq_ok hcode
  obtain rfl : picture = drawn := Except.ok.inj (hshows.made.symm.trans hdrawn)
  exact ⟨picture, engine, hshows.made, hengine, hshows.holds hd hmade.depicts,
    Dot.labelsRead_code hd hshows (Dot.mem_engines hengine)⟩

/-- Quotes in a label, a label that is a keyword, and a label on an edge. -/
theorem labelsRead_of_dot_eq_ok_of_quotes :
    let d : Diagram := ⟨[⟨"say \"hi\"", 1, .rectangle, 0⟩, ⟨"graph", 2, .rectangle, 1⟩],
      [⟨0, "say \"hi\"", "graph", some "50%"⟩], [], [], []⟩
    let after : Numbering :=
      ⟨[("say \"hi\"", 1), ("graph", 2)], [(1, "say \"hi\""), (2, "graph")], 3⟩
    let document : Document := ofDiagram "s" none d
    let code : Text := "// s\ndigraph sketch \x7b\n\tlayout=circo rankdir=TB\n" ++
      "\tn1 [label=\"say \\\"hi\\\"\" shape=box]\n\tn2 [label=\"graph\" shape=box]\n" ++
      "\tn1 -> n2 [label=\"50%\"]\n\x7d\n"
    Sketch.compile ⟨true, false⟩ .empty "\"say \\\"hi\\\"\" -50%-> graph" = (.ok d, after) ∧
      document.dot (some "circle") = .ok code ∧
      ∃ picture engine, Picture.ofDocument document = .ok picture ∧
        Picture.engine document (some "circle") = .ok engine ∧
        (∃ items edges, document.get? "nodes" = some (.arr items) ∧
          document.get? "edges" = some (.arr edges) ∧ Picture.Holds items edges picture) ∧
        LabelsRead picture engine code := by
  intro d after document code
  have h : Sketch.compile ⟨true, false⟩ .empty "\"say \\\"hi\\\"\" -50%-> graph" =
      (.ok d, after) := by
    decide +kernel
  have hcode : document.dot (some "circle") = .ok code := by decide +kernel
  exact ⟨h, hcode, labelsRead_of_dot_eq_ok h (.written "s" none) hcode⟩

/-- A label in angle brackets is written as it is, and a backslash at the end of a label takes the
closing quote with it: in neither place is there a plain string. -/
theorem dot_of_brackets_and_backslash :
    let d : Diagram := ⟨[⟨"<b>", 1, .rectangle, 0⟩, ⟨"A\\", 2, .rectangle, 1⟩], [], [], [], []⟩
    let after : Numbering := ⟨[("<b>", 1), ("A\\", 2)], [(1, "<b>"), (2, "A\\")], 3⟩
    let document : Document := ofDiagram "s" none d
    let first : Text := "// s\ndigraph sketch \x7b\n\tlayout=dot rankdir=TB\n\tn1 [label="
    let between : Text := " shape=box]\n\tn2 [label="
    let last : Text := " shape=box]\n\x7d\n"
    let bracketed : Text := quote (escapeLabel "<b>")
    let unclosed : Text := quote (escapeLabel "A\\")
    Sketch.compile ⟨true, false⟩ .empty "<b>\nA\\" = (.ok d, after) ∧
      document.dot none = .ok (first ++ (bracketed ++ between ++ unclosed ++ last)) ∧
      readString? (bracketed ++ between ++ unclosed ++ last) = none ∧
      readString? (unclosed ++ last) = none := by
  decide +kernel

end Document

end GraphSketch
