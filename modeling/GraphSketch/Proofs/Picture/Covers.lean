import GraphSketch.Proofs.Picture.Graph

/-!
# Pictures that have all of a document

A picture leaves out an edge whose end is no node, and gives a node the key of the last one with its
id.  Neither can be seen in documents that are made from sketches: their pictures have every node with
its label, its shape and its style, and every edge with its label, between the keys of its ends.  What
is said about such a picture, or about code that is written from it, is therefore said about the
document.

* `Picture.DrawnFrom` — a node of a picture that has what an item of the document has.
* `Picture.Holds` — a picture that has what is drawn of all nodes and edges of a document.
* `Picture.Covers` — a picture that has them under different keys, with the edges between these.
* `Document.Pictured` — a document together with such a picture; `Picture.Shows.pictured` says that
  the picture of a document which depicts a diagram is one.
-/

set_option autoImplicit false

namespace GraphSketch

open Document (NodeItem Depicts)

namespace Picture

/-- A node of a picture has the label, the shape and the style of an item. -/
structure DrawnFrom (item : Json) (drawn : Node) : Prop where
  label : item.field? "label" = some (.str drawn.label)
  shape : item.field? "shape" = some (.str drawn.shape)
  fill : item.field? "fill" = drawn.fill.map .str
  stroke : item.field? "stroke" = drawn.stroke.map .str
  /-- A width is a whole number in the item and is spelled in the picture. -/
  width : ∃ n : Option Nat, item.field? "strokeWidth" = n.map (.int ·) ∧ drawn.width = n.map Text.ofNat

/-- A picture has all of the given nodes and edges of a document, in their order. -/
structure Holds (items edges : List Json) (picture : Picture) : Prop where
  /-- Each node is drawn with its label, its shape and its style. -/
  nodes : List.Forall₂ DrawnFrom items picture.nodes
  /-- Each edge is drawn with its label, if it has one. -/
  edges : List.Forall₂ (fun item line => item.field? "label" = (Edge.label line).map .str) edges
    picture.edges

/-- A picture has all of the given nodes and edges of a document, with the keys of the nodes and of
the ends of edges as a table has them. -/
structure Covers (items edges : List Json) (table : OrderedMap NodeId Text) (picture : Picture) :
    Prop where
  /-- The table is that of the nodes: each has one entry, under its id. -/
  keyed : keys items = .ok table
  ids : List.Forall₂ (fun item e => ∃ id, item.nodeId? = some id ∧ e.1 = .text id) items table
  ids_nodup : (OrderedMap.keys table).Nodup
  /-- No two nodes have the same key. -/
  keys_nodup : (table.map (·.2)).Nodup
  /-- Each node is drawn with the key of its id, and with its label, its shape and its style. -/
  nodes : List.Forall₂ (fun item drawn => ∃ id, item.nodeId? = some id ∧
    table.get? (.text id) = some (Node.key drawn) ∧ DrawnFrom item drawn) items picture.nodes
  /-- Each edge is drawn with its label, between the keys of the ids that it has as its ends. -/
  edges : List.Forall₂ (fun item line => ∃ source target,
    item.field? "source" = some (.str source) ∧ item.field? "target" = some (.str target) ∧
    table.get? (.text source) = some (Edge.source line) ∧
    table.get? (.text target) = some (Edge.target line) ∧
    item.field? "label" = (Edge.label line).map .str) edges picture.edges

/-! ## Nodes -/

theorem eq_map_settingOf {v : Option Json} (h : ∀ w, v = some w → ∃ t, w = .str t ∧ IsColour t) :
    v = (Document.settingOf v).map .str := by
  cases v with
  | none => rfl
  | some w =>
    obtain ⟨t, rfl, hne, -⟩ := h w rfl
    have hpresent : (Json.str t).isAbsent = false := by
      cases t with
      | nil => exact absurd rfl hne
      | cons c t => rfl
    rw [Document.settingOf, Option.bind_some, hpresent]
    rfl

theorem exists_map_measureOf {v : Option Json} (h : ∀ w, v = some w → ∃ n : Nat, w = .int n) :
    ∃ n : Option Nat, v = n.map (.int ·) ∧ Document.measureOf v = n.map Text.ofNat := by
  cases v with
  | none => exact ⟨none, rfl, rfl⟩
  | some w =>
    obtain ⟨n, rfl⟩ := h w rfl
    exact ⟨some n, rfl, rfl⟩

theorem drawnFrom_of_nodeOf {table : OrderedMap NodeId Text} {node : GraphSketch.Node} {item : Json}
    {drawn : Node} (hitem : NodeItem node item) (h : nodeOf table item = .ok drawn) :
    DrawnFrom item drawn := by
  obtain ⟨label, hlabel⟩ := hitem.exists_label
  have hfill := hitem.setting "fill" (by decide)
  have hstroke := hitem.setting "stroke" (by decide)
  have hwidth := hitem.setting "strokeWidth" (by decide)
  cases item with
  | obj fields =>
    have hid : OrderedMap.get? fields "id" = some (.str node.label) := hitem.id
    have hshape : OrderedMap.get? fields "shape" = some (.str node.shape.name) := hitem.shape
    have hfield : OrderedMap.get? fields "label" = some (.str label) := hlabel
    have hnamed : node.shape.name.isEmpty = false := by cases node.shape <;> rfl
    simp only [nodeOf, labelOf, OrderedMap.has, hid, hshape, hfield, Document.fieldsOf,
      Document.idOf, Document.textOf, Option.isSome_some, if_true, bind, Except.bind,
      Option.bind_some, hnamed, pure, Except.pure] at h
    split at h
    · cases h
    · cases h
      exact ⟨hlabel, hshape, eq_map_settingOf hfill, eq_map_settingOf hstroke,
        exists_map_measureOf hwidth⟩
  | _ => cases hitem.id

theorem forall₂_ids {nodes : List GraphSketch.Node} {items : List Json}
    (h : List.Forall₂ NodeItem nodes items) :
    List.Forall₂ (fun item e => ∃ id, item.nodeId? = some id ∧ e.1 = .text id) items
      (keyTable nodes) := by
  induction h with
  | nil => exact .nil
  | cons hitem _ ih => exact .cons ⟨_, by rw [Json.nodeId?, hitem.id], rfl⟩ ih

variable {d : Diagram} {document : Document} {picture : Picture}

/-- The nodes of a picture are drawn from the nodes of the document, one by one. -/
theorem mapM_nodeOf_of_made {items : List Json} {table : OrderedMap NodeId Text}
    (hitems : document.get? "nodes" = some (.arr items)) (hkeyed : keys items = .ok table)
    (h : ofDocument document = .ok picture) : items.mapM (nodeOf table) = .ok picture.nodes := by
  obtain ⟨_, _, -, -, hparts, hfound, hdrawn, -⟩ := exists_of_ofDocument_eq_ok h
  rw [Document.parts, hitems] at hparts
  cases hparts
  rw [hkeyed] at hfound
  cases hfound
  exact hdrawn

/-! ## Edges -/

/-- The label of an edge is a field of its item, unless it is empty. -/
theorem field?_label_toJson {e : GraphSketch.Edge} (h : ∀ label, e.label = some label → label ≠ []) :
    e.toJson.field? "label" = e.label.map .str := by
  rw [GraphSketch.Edge.toJson, GraphSketch.Edge.labelField]
  cases hlabel : e.label with
  | none => rfl
  | some label =>
    have hne : label.nonEmpty? = some label :=
      Text.nonEmpty?_eq_some_iff.mpr ⟨h label hlabel, rfl⟩
    rw [Option.bind_some, hne]
    rfl

/-! ## Whole pictures -/

theorem Shows.holds (hd : d.Drawable) (hdepicts : Depicts d document) (h : Shows d document picture) :
    ∃ items edges, document.get? "nodes" = some (.arr items) ∧
      document.get? "edges" = some (.arr edges) ∧ Holds items edges picture := by
  obtain ⟨items, hitems, hnodeItems⟩ := hdepicts.nodes
  have hkeyed := keys_of_nodeItems hnodeItems hd.labels_nodup
  refine ⟨items, _, hitems, hdepicts.edges, ?_, ?_⟩
  · have hdrawn := mapM_eq_ok_iff_forall₂.mp (mapM_nodeOf_of_made hitems hkeyed h.made)
    rw [List.forall₂_iff_get] at hnodeItems hdrawn ⊢
    refine ⟨hdrawn.1, fun i hi hi' => ?_⟩
    exact drawnFrom_of_nodeOf (hnodeItems.2 i (hnodeItems.1 ▸ hi) hi) (hdrawn.2 i hi hi')
  · rw [List.forall₂_map_left_iff]
    have hlabelled : ∀ e ∈ d.edges, e.toJson.field? "label" = e.label.map .str := fun e he =>
      field?_label_toJson fun label hlabel => (hd.isArrowLabel e he label hlabel).1
    have hedges := h.edges
    rw [List.forall₂_iff_get] at hedges ⊢
    refine ⟨hedges.1, fun i hi hi' => ?_⟩
    rw [(hedges.2 i hi hi').label]
    exact hlabelled _ (List.get_mem _ _)

/-- **The picture of a document that depicts a diagram has all of it.** -/
theorem Shows.covers (hd : d.Drawable) (hnodup : (d.nodes.map (·.number)).Nodup)
    (hdepicts : Depicts d document) (h : Shows d document picture) :
    ∃ items edges table, document.get? "nodes" = some (.arr items) ∧
      document.get? "edges" = some (.arr edges) ∧ Covers items edges table picture := by
  obtain ⟨items, hitems, hnodeItems⟩ := hdepicts.nodes
  obtain ⟨_, _, hsame, hedges, hholds⟩ := h.holds hd hdepicts
  obtain rfl := Json.arr.inj (Option.some.inj (hitems.symm.trans hsame))
  obtain rfl := Json.arr.inj (Option.some.inj (hdepicts.edges.symm.trans hedges))
  have hkeys : (keyTable d.nodes).map (·.2) = (d.nodes.map (·.number)).map numberKey := by
    simp only [keyTable, List.map_map]
    rfl
  refine ⟨items, _, keyTable d.nodes, hitems, hedges, keys_of_nodeItems hnodeItems hd.labels_nodup,
    forall₂_ids hnodeItems, nodup_keys_keyTable hd.labels_nodup,
    hkeys ▸ hnodup.map fun _ _ => numberKey_injective, ?_, ?_⟩
  · have hdrawn := hholds.nodes
    have hshown := h.nodes
    rw [List.forall₂_iff_get] at hnodeItems hdrawn hshown ⊢
    refine ⟨hdrawn.1, fun i hi hi' => ?_⟩
    have hnode : i < d.nodes.length := hnodeItems.1 ▸ hi
    refine ⟨(d.nodes.get ⟨i, hnode⟩).label, by rw [Json.nodeId?, (hnodeItems.2 i hnode hi).id], ?_,
      hdrawn.2 i hi hi'⟩
    rw [get?_keyTable hd.labels_nodup (List.get_mem _ _), (hshown.2 i hnode hi').key]
  · have hlabels := hholds.edges
    rw [List.forall₂_map_left_iff] at hlabels ⊢
    refine List.Forall₂.mp (fun e line hline hlabel => ?_) h.edges hlabels
    obtain ⟨source, hsource, hsourceLabel, hsourceKey⟩ := hline.source
    obtain ⟨target, htarget, htargetLabel, htargetKey⟩ := hline.target
    refine ⟨_, _, rfl, rfl, ?_, ?_, hlabel⟩
    · rw [← hsourceLabel, get?_keyTable hd.labels_nodup hsource, hsourceKey]
    · rw [← htargetLabel, get?_keyTable hd.labels_nodup htarget, htargetKey]

end Picture

namespace Document

/-- A document and its picture, which has the orientation of the document and all its nodes and
edges. -/
structure Pictured (document : Document) (picture : Picture) : Prop where
  made : Picture.ofDocument document = .ok picture
  orientation : ∃ t, document.get? "orientation" = some (.str t) ∧
    picture.orientation = Orientation.ofText t
  /-- The picture has all nodes and edges of the document. -/
  covers : ∃ items edges table, document.get? "nodes" = some (.arr items) ∧
    document.get? "edges" = some (.arr edges) ∧ Picture.Covers items edges table picture

end Document

theorem Picture.Shows.pictured {d : Diagram} {document : Document} {picture : Picture}
    (hd : d.Drawable) (hnodup : (d.nodes.map (·.number)).Nodup) (hdepicts : Depicts d document)
    (h : Shows d document picture) : document.Pictured picture :=
  ⟨h.made, h.orientation, h.covers hd hnodup hdepicts⟩

end GraphSketch
