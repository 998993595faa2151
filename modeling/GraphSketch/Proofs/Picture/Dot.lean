import GraphSketch.Proofs.Picture.Graph
import GraphSketch.Proofs.Picture.Library

/-!
# The lines of DOT code

DOT code is made up of statements, one a line, behind a comment with the title.  Labels bring no
line feeds into it, and the ends of an edge are written as the nodes are.  All of this holds with
any library that keeps to the laws of `Dot.Lawful`.

* `Dot.statements` — the statements of a picture: those that begin the graph (`opening`), one for
  each node (`nodeStatement`) and one for each edge (`edgeStatement`).
* `Dot.pairs_attributesOf` — the label of a node comes first, and its other attributes are in the
  order of their names, in which there is but one way to write them (`perm_attributesOf`,
  `pairwise_sortedAttributes`).
* `Dot.code_eq` — the code of a picture is its title, the statements, and the end of the graph;
  from it come the equations that part the code before and behind one statement
  (`code_eq_of_node`, `code_eq_of_edge`).
* `Dot.lines_body` — the statements are the lines of the code behind the title.
* `Dot.quoteEnd_numberKey` — the end of an edge is written as the node is, if its key is made from
  a number.
-/

set_option autoImplicit false

namespace GraphSketch

open Picture (DrawnNode DrawnEdge Shows numberKey notMem_numberKey newline_notMem_escapeLabel)

namespace Dot

/-! ## Quoted values -/

theorem mem_of_mem_escapeQuotes {c : Char} (hc : c ≠ '\\') : ∀ {odd : Bool} {t : Text},
    c ∈ escapeQuotes odd t → c ∈ t
  | _, [], h => by cases h
  | odd, d :: t, h => by
    unfold escapeQuotes at h
    split at h
    · rename_i heq
      cases heq
    · rename_i t' heq
      cases heq
      rcases List.mem_append.mp h with h | h
      · split at h
        · rw [List.mem_singleton.mp h]
          exact List.mem_cons_self
        · simp only [List.mem_cons, hc, List.not_mem_nil, or_false, false_or] at h
          rw [h]
          exact List.mem_cons_self
      · exact List.mem_cons_of_mem _ (mem_of_mem_escapeQuotes hc h)
    · rename_i t' heq
      cases heq
      rcases List.mem_cons.mp h with h | h
      · exact absurd h hc
      · exact List.mem_cons_of_mem _ (mem_of_mem_escapeQuotes hc h)
    · rename_i d' t' _ _ heq
      cases heq
      rcases List.mem_cons.mp h with rfl | h
      · exact List.mem_cons_self
      · exact List.mem_cons_of_mem _ (mem_of_mem_escapeQuotes hc h)

section Quoting

variable [Library] [Lawful]

theorem mem_of_mem_quote {c : Char} (hquote : c ≠ '"') (hslash : c ≠ '\\') {t : Text}
    (h : c ∈ quote t) : c ∈ t := by
  cases hmarkup : isMarkup t with
  | true => rwa [quote_of_isMarkup hmarkup] at h
  | false =>
    cases hplain : isPlain t with
    | true => rwa [quote_of_isPlain hplain] at h
    | false =>
      rw [quote_of_not hmarkup hplain] at h
      simp only [List.mem_cons, List.mem_append, hquote, List.not_mem_nil, or_false, false_or] at h
      exact mem_of_mem_escapeQuotes hslash h

theorem newline_notMem_quote {t : Text} (h : '\n' ∉ t) : '\n' ∉ quote t := fun hmem =>
  h (mem_of_mem_quote (by decide) (by decide) hmem)

theorem quoteEnd_numberKey (n : Int) : quoteEnd (numberKey n) = quote (numberKey n) :=
  quoteEnd_of_notMem (notMem_numberKey rfl n)

end Quoting

/-! ## Statements -/

section Statements

variable [Library]

/-- The attributes of a node behind its label. -/
def otherAttributes (node : Picture.Node) : List Text :=
  (node.stroke.map (pair "color")).toList ++
    (node.fill.map (pair "fillcolor")).toList ++
    (node.width.map (pair "penwidth")).toList ++
    [pair "shape" (shapeName node.shape)] ++
    (node.fill.map fun _ => pair "style" "filled").toList

/-- What stands before the label of a node. -/
def nodeHead (node : Picture.Node) : Text := "\t" ++ quote node.key ++ " [label="

/-- What stands behind the label of a node. -/
def nodeTail (node : Picture.Node) : Text := " " ++ Text.join " " (otherAttributes node) ++ "]"

/-- The statement of a node. -/
def nodeStatement (node : Picture.Node) : Text :=
  nodeHead node ++ quote (Picture.escapeLabel node.label) ++ nodeTail node

/-- What stands before the label of an edge, or is all of its statement. -/
def edgeHead (e : Picture.Edge) : Text := "\t" ++ quoteEnd e.source ++ " -> " ++ quoteEnd e.target

/-- The label of an edge in brackets, if it has one. -/
def labelPart : Option Text → Text
  | some label => " [label=" ++ quote (Picture.escapeLabel label) ++ "]"
  | none => []

/-- The statement of an edge. -/
def edgeStatement (e : Picture.Edge) : Text := edgeHead e ++ labelPart e.label

/-- The statements that begin the graph. -/
def opening (picture : Picture) (engine : Text) : List Text :=
  ["digraph sketch \x7b", "\tlayout=" ++ engine ++ " rankdir=" ++ picture.orientation.name]

/-- The statements of a picture. -/
def statements (picture : Picture) (engine : Text) : List Text :=
  opening picture engine ++ picture.nodes.map nodeStatement ++ picture.edges.map edgeStatement ++
    [("\x7d" : Text)]

end Statements

/-! ## Attributes in order -/

/-- The attributes that a node may have, in the order of their names. -/
def settings (node : Picture.Node) : List (Text × Option Text) :=
  [("color", node.stroke), ("fillcolor", node.fill), ("penwidth", node.width),
    ("shape", some (shapeName node.shape)), ("style", node.fill.map fun _ => "filled".toList)]

/-- The attributes that a node has besides its label, in the order of their names. -/
def sortedAttributes (node : Picture.Node) : List Attribute :=
  (settings node).filterMap fun setting => setting.2.map (Prod.mk setting.1)

theorem perm_attributesOf (node : Picture.Node) :
    (attributesOf node).Perm (sortedAttributes node) := by
  refine List.perm_iff_count.mpr fun a => ?_
  unfold attributesOf sortedAttributes settings filling
  cases node.stroke <;> cases node.fill <;> cases node.width <;>
    simp only [Option.map_none, Option.map_some, Option.toList_none, Option.toList_some,
      List.filterMap_cons, List.filterMap_nil, List.nil_append, List.append_nil,
      List.cons_append, List.count_cons, List.count_nil] <;> omega

theorem pairwise_sortedAttributes (node : Picture.Node) :
    (sortedAttributes node).Pairwise fun a b => Text.before a.1 b.1 = true := by
  have hnames : (settings node).Pairwise fun s s' => Text.before s.1 s'.1 = true :=
    (List.pairwise_map (f := Prod.fst) (R := fun t u => Text.before t u = true)).mp (by
      show List.Pairwise _ (["color", "fillcolor", "penwidth", "shape", "style"] : List Text)
      decide)
  refine List.pairwise_filterMap.mpr (hnames.imp fun h a ha b hb => ?_)
  obtain ⟨_, -, rfl⟩ := Option.map_eq_some_iff.mp ha
  obtain ⟨_, -, rfl⟩ := Option.map_eq_some_iff.mp hb
  exact h

/-! ## Code -/

/-- The names of the layout engines. -/
def engines : List Text := ["dot", "circo", "osage"]

theorem mem_engines {document : Document} {layout : Option Text} {engine : Text}
    (h : Picture.engine document layout = .ok engine) : engine ∈ engines := by
  have hdefault : Layout.defaultEngine ∈ engines := by decide
  obtain ⟨kind, -, hfor⟩ := Picture.engine_eq_ok_iff.mp h
  unfold Layout.engineFor at hfor
  dsimp only at hfor
  split at hfor
  · cases hfor
    exact hdefault
  · split at hfor
    · rename_i layout _
      cases hfor
      cases layout <;> decide
    · cases hfor

theorem isPlain_of_mem_engines {engine : Text} (h : engine ∈ engines) : isPlain engine = true :=
  List.all_eq_true.mp (by decide +kernel) engine h

theorem newline_notMem_of_mem_engines {engine : Text} (h : engine ∈ engines) : '\n' ∉ engine := by
  revert engine
  decide

section Written

variable [Library] [Lawful]

theorem pairs_attributesOf (node : Picture.Node) (label : Text) :
    pairs (some label) (attributesOf node) = pair "label" label :: otherAttributes node := by
  rw [pairs, order_eq (perm_attributesOf node) (pairwise_sortedAttributes node)]
  refine congrArg (List.cons _) ?_
  unfold sortedAttributes settings otherAttributes
  cases node.stroke <;> cases node.fill <;> cases node.width <;> rfl

theorem writtenNode_eq (node : Picture.Node) :
    writtenNode ⟨node.key, some (Picture.escapeLabel node.label), attributesOf node⟩ =
      nodeStatement node := by
  have hne : otherAttributes node ≠ [] := by
    simp only [otherAttributes, ne_eq, List.append_eq_nil_iff, List.cons_ne_nil, and_false,
      false_and, not_false_eq_true]
  have hassoc : ∀ tab key bracket name is label blank rest close : Text,
      tab ++ key ++ (bracket ++ (name ++ is ++ label ++ blank ++ rest) ++ close) =
        tab ++ key ++ (bracket ++ name ++ is) ++ label ++ (blank ++ rest ++ close) := by
    intros
    simp only [List.append_assoc]
  rw [writtenNode, pairs_attributesOf]
  unfold nodeStatement nodeHead nodeTail
  cases h : otherAttributes node with
  | nil => exact absurd h hne
  | cons next rest => exact hassoc "\t" _ " [" "label" "=" _ " " _ "]"

theorem writtenEdge_eq (e : Picture.Edge) :
    writtenEdge ⟨e.source, e.target, e.label.map Picture.escapeLabel, []⟩ = edgeStatement e := by
  have horder : order ([] : List Attribute) = [] := (perm_order []).eq_nil
  unfold writtenEdge edgeStatement edgeHead labelPart pairs
  rw [horder]
  cases e.label <;> rfl

/-- The attributes of the graph need no quotes. -/
theorem join_pairs_digraph {picture : Picture} {engine : Text} (hengine : engine ∈ engines) :
    Text.join " " (pairs none (digraph picture engine).attributes) =
      "layout=" ++ engine ++ " rankdir=" ++ picture.orientation.name := by
  have horder : order (digraph picture engine).attributes =
      [("layout".toList, engine), ("rankdir".toList, picture.orientation.name)] :=
    order_eq (.swap _ _ _)
      (List.pairwise_pair.mpr (by decide : Text.before "layout" "rankdir" = true))
  have hlayout : pair "layout" engine = "layout".toList ++ "=".toList ++ engine :=
    congrArg (_ ++ ·) (quote_of_isPlain (isPlain_of_mem_engines hengine))
  have hdirection : pair "rankdir" picture.orientation.name =
      "rankdir".toList ++ "=".toList ++ picture.orientation.name :=
    congrArg (_ ++ ·) (quote_of_isPlain (by cases picture.orientation <;> decide +kernel))
  have hjoin : Text.join " " (pairs none (digraph picture engine).attributes) =
      pair "layout" engine ++ " ".toList ++ pair "rankdir" picture.orientation.name :=
    congrArg (fun attributes : List Attribute =>
      Text.join " " (attributes.map fun a : Attribute => pair a.1 a.2)) horder
  have hassoc : ∀ name is value blank name' is' value' : Text,
      name ++ is ++ value ++ blank ++ (name' ++ is' ++ value') =
        name ++ is ++ value ++ (blank ++ name' ++ is') ++ value' := by
    intros
    simp only [List.append_assoc]
  rw [hjoin, hlayout, hdirection]
  exact hassoc "layout" "=" _ " " "rankdir" "=" _

theorem written_digraph {picture : Picture} {engine : Text} (hengine : engine ∈ engines) :
    written (digraph picture engine) = statements picture engine := by
  have hname : quote "sketch".toList = "sketch".toList := quote_of_isPlain (by decide +kernel)
  have hfirst : "digraph ".toList ++ quote "sketch".toList ++ " \x7b".toList =
      "digraph sketch \x7b".toList := by
    rw [hname]
    rfl
  have hnodes : (digraph picture engine).nodes.map writtenNode =
      picture.nodes.map nodeStatement :=
    List.map_map.trans (List.map_congr_left fun node _ => writtenNode_eq node)
  have hedges : (digraph picture engine).edges.map writtenEdge =
      picture.edges.map edgeStatement :=
    List.map_map.trans (List.map_congr_left fun e _ => writtenEdge_eq e)
  have hwritten : written (digraph picture engine) =
      ["digraph ".toList ++ quote "sketch".toList ++ " \x7b".toList,
          "\t".toList ++ Text.join " " (pairs none (digraph picture engine).attributes)] ++
        (digraph picture engine).nodes.map writtenNode ++
        (digraph picture engine).edges.map writtenEdge ++ ["\x7d".toList] := rfl
  rw [hwritten, hfirst, join_pairs_digraph hengine, hnodes, hedges]
  rfl

end Written

section Code

variable [Library] [Lawful] {picture : Picture} {engine : Text} (hengine : engine ∈ engines)

include hengine

theorem code_eq :
    code picture engine = titleLine picture.title ++ ended (statements picture engine) := by
  rw [code, source_eq, written_digraph hengine]
  rfl

/-- The statement of a node, behind those of the nodes before it. -/
theorem code_eq_of_node {pre post : List Picture.Node} {node : Picture.Node}
    (h : picture.nodes = pre ++ node :: post) : ∃ behind,
      code picture engine =
        titleLine picture.title ++ ended (opening picture engine ++ pre.map nodeStatement) ++
          nodeHead node ++ (quote (Picture.escapeLabel node.label) ++ ' ' :: behind) := by
  have hsplit : statements picture engine = opening picture engine ++ pre.map nodeStatement ++
      nodeStatement node :: (post.map nodeStatement ++ picture.edges.map edgeStatement ++
        [("\x7d" : Text)]) := by
    rw [statements, h]
    generalize [("\x7d" : Text)] = last
    simp only [List.map_append, List.map_cons, List.append_assoc, List.cons_append]
  have hassoc : ∀ title before head label blank rest close feed behind : Text,
      title ++ (before ++ (head ++ label ++ (blank ++ rest ++ close) ++ feed ++ behind)) =
        title ++ before ++ head ++ (label ++ (blank ++ (rest ++ close ++ feed ++ behind))) := by
    intros
    simp only [List.append_assoc]
  rw [code_eq hengine, hsplit, ended_append, ended_cons]
  exact ⟨_, hassoc _ _ _ _ [' '] _ "]" "\n" _⟩

/-- The statement of an edge, behind those of the nodes and of the edges before it. -/
theorem code_eq_of_edgeStatement {pre post : List Picture.Edge} {e : Picture.Edge}
    (h : picture.edges = pre ++ e :: post) :
    code picture engine =
      titleLine picture.title ++ ended (opening picture engine ++
          picture.nodes.map nodeStatement ++ pre.map edgeStatement) ++
        (edgeStatement e ++ ("\n" : Text) ++
          ended (post.map edgeStatement ++ [("\x7d" : Text)])) := by
  have hsplit : statements picture engine = opening picture engine ++
      picture.nodes.map nodeStatement ++ pre.map edgeStatement ++
      edgeStatement e :: (post.map edgeStatement ++ [("\x7d" : Text)]) := by
    rw [statements, h]
    generalize [("\x7d" : Text)] = last
    simp only [List.map_append, List.map_cons, List.append_assoc, List.cons_append]
  rw [code_eq hengine, hsplit, ended_append, ended_cons, ← List.append_assoc]

theorem code_eq_of_edge {pre post : List Picture.Edge} {e : Picture.Edge} {label : Text}
    (h : picture.edges = pre ++ e :: post) (hlabel : e.label = some label) : ∃ behind,
      code picture engine =
        titleLine picture.title ++ ended (opening picture engine ++
            picture.nodes.map nodeStatement ++ pre.map edgeStatement) ++
          (edgeHead e ++ " [label=") ++ (quote (Picture.escapeLabel label) ++ ']' :: behind) := by
  have hassoc : ∀ before head bracket text close feed behind : Text,
      before ++ (head ++ (bracket ++ text ++ close) ++ feed ++ behind) =
        before ++ (head ++ bracket) ++ (text ++ (close ++ (feed ++ behind))) := by
    intros
    simp only [List.append_assoc]
  rw [code_eq_of_edgeStatement hengine h, edgeStatement, hlabel]
  exact ⟨_, hassoc _ _ " [label=" _ [']'] "\n" _⟩

end Code

/-! ## Lines -/

section Lines

variable [Library] [Lawful] {node : GraphSketch.Node} {drawn : Picture.Node}

theorem newline_notMem_pair {name value : Text} (hname : '\n' ∉ name) (hvalue : '\n' ∉ value) :
    '\n' ∉ pair name value := by
  simp only [pair, List.mem_append, not_or]
  exact ⟨⟨hname, by decide⟩, newline_notMem_quote hvalue⟩

theorem newline_notMem_otherAttributes (h : DrawnNode node drawn) :
    ∀ part ∈ otherAttributes drawn, '\n' ∉ part := by
  have hcolour : ∀ t, IsColour t → '\n' ∉ t := by
    intro t ht hmem
    have hno : isColourChar '\n' = false := by decide +kernel
    rw [ht.2 _ hmem] at hno
    cases hno
  have hshape : '\n' ∉ shapeName drawn.shape := by
    rw [h.shape]
    cases node.shape <;> decide +kernel
  intro part hpart
  simp only [otherAttributes, List.mem_append, Option.mem_toList, Option.map_eq_some_iff,
    List.mem_singleton] at hpart
  rcases hpart with (((⟨t, ht, rfl⟩ | ⟨t, ht, rfl⟩) | ⟨t, ht, rfl⟩) | rfl) | ⟨t, -, rfl⟩
  · exact newline_notMem_pair (by decide) (hcolour t (h.stroke t ht))
  · exact newline_notMem_pair (by decide) (hcolour t (h.fill t ht))
  · obtain ⟨n, rfl⟩ := h.width t ht
    refine newline_notMem_pair (by decide) fun hmem => ?_
    exact absurd (Text.isDigit_of_mem_ofNat hmem) (by decide)
  · exact newline_notMem_pair (by decide) hshape
  · exact newline_notMem_pair (by decide) (by decide)

theorem newline_notMem_nodeStatement (h : DrawnNode node drawn) : '\n' ∉ nodeStatement drawn := by
  simp only [nodeStatement, nodeHead, nodeTail, List.mem_append, not_or]
  refine ⟨⟨⟨⟨by decide, newline_notMem_quote ?_⟩, by decide⟩, ?_⟩, ⟨by decide, fun hmem => ?_⟩,
    by decide⟩
  · rw [h.key]
    exact notMem_numberKey rfl _
  · exact newline_notMem_quote (newline_notMem_escapeLabel _)
  · rcases Text.mem_join hmem with hmem | ⟨part, hpart, hmem⟩
    · exact absurd hmem (by decide)
    · exact newline_notMem_otherAttributes h part hpart hmem

theorem quoteEnd_of_drawnEdge {nodes : List GraphSketch.Node} {e : GraphSketch.Edge}
    {line : Picture.Edge} (h : DrawnEdge nodes e line) :
    quoteEnd line.source = quote line.source ∧ quoteEnd line.target = quote line.target := by
  obtain ⟨source, -, -, hsource⟩ := h.source
  obtain ⟨target, -, -, htarget⟩ := h.target
  rw [hsource, htarget]
  exact ⟨quoteEnd_numberKey _, quoteEnd_numberKey _⟩

theorem newline_notMem_labelPart (label : Option Text) : '\n' ∉ labelPart label := by
  cases label with
  | none => exact List.not_mem_nil
  | some label =>
    show '\n' ∉ (" [label=" : Text) ++ quote (Picture.escapeLabel label) ++ ("]" : Text)
    simp only [List.mem_append, not_or]
    exact ⟨⟨by decide, newline_notMem_quote (newline_notMem_escapeLabel _)⟩, by decide⟩

theorem newline_notMem_edgeStatement {nodes : List GraphSketch.Node} {e : GraphSketch.Edge}
    {line : Picture.Edge} (h : DrawnEdge nodes e line) : '\n' ∉ edgeStatement line := by
  obtain ⟨source, -, -, hsource⟩ := h.source
  obtain ⟨target, -, -, htarget⟩ := h.target
  have hkey : ∀ n : Int, '\n' ∉ quoteEnd (numberKey n) := fun n =>
    quoteEnd_numberKey n ▸ newline_notMem_quote (notMem_numberKey rfl n)
  unfold edgeStatement edgeHead
  rw [hsource, htarget]
  simp only [List.mem_append, not_or]
  exact ⟨⟨⟨⟨by decide, hkey _⟩, by decide⟩, hkey _⟩, newline_notMem_labelPart _⟩

/-- **The lines of DOT code** behind the title are the statements. -/
theorem lines_body {d : Diagram} {document : Document} {picture : Picture}
    (h : Shows d document picture) {engine : Text} (hengine : engine ∈ engines) :
    Text.lines (ended (statements picture engine)) = statements picture engine ++ [[]] := by
  have hopening : ∀ t ∈ opening picture engine, '\n' ∉ t := by
    refine List.forall_mem_cons.mpr ⟨by decide, List.forall_mem_singleton.mpr ?_⟩
    simp only [List.mem_append, not_or]
    exact ⟨⟨⟨by decide, newline_notMem_of_mem_engines hengine⟩, by decide⟩,
      by cases picture.orientation <;> decide⟩
  refine Text.lines_flatMap ?_
  simp only [statements, List.forall_mem_append, List.forall_mem_map, List.forall_mem_singleton]
  refine ⟨⟨⟨hopening, fun drawn hmem => ?_⟩, fun line hmem => ?_⟩, by decide⟩
  · obtain ⟨node, -, hdrawn⟩ := h.exists_drawnNode hmem
    exact newline_notMem_nodeStatement hdrawn
  · obtain ⟨e, -, hline⟩ := h.exists_drawnEdge hmem
    exact newline_notMem_edgeStatement hline

end Lines

end Dot

end GraphSketch
