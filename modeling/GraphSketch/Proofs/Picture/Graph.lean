import GraphSketch.Proofs.Document.MadeFrom
import GraphSketch.Proofs.Numbering.Saved
import GraphSketch.Proofs.Picture.Keyed
import GraphSketch.Proofs.Sketch.References

/-!
# Pictures of diagrams

A document that depicts the diagram of a sketch always has a picture.  Every node of the diagram
is drawn, with a key that is made from its number, and every edge, between the keys of its ends.

* `Diagram.Drawable`, `Sketch.drawable_of_compile` — what a picture needs of a diagram: labels
  that tell its nodes apart, edges between them, and labels on arrows that are not empty.
* `Picture.numberKey_injective`, `Picture.isKeyChar_of_mem` — nodes with different numbers have
  different keys, and what a key looks like.
* `Picture.DrawnNode`, `Picture.DrawnEdge` — how a node and an edge of the diagram are drawn.
* `Picture.Shows`, `Picture.exists_shows` — the picture of a document that depicts a diagram.
* `Layout.engineFor_eq_error_iff` — only the layout may stand in the way of drawing it.
-/

set_option autoImplicit false

namespace GraphSketch

open Document (NodeItem Depicts)

theorem mapM_eq_ok_iff_forall₂ {α β ε : Type} {f : α → Except ε β} {xs : List α} {ys : List β} :
    xs.mapM f = .ok ys ↔ List.Forall₂ (fun x y => f x = .ok y) xs ys := by
  induction xs generalizing ys with
  | nil => cases ys <;> simp [pure, Except.pure]
  | cons x xs ih =>
    rw [List.mapM_cons]
    cases hx : f x with
    | error fault => cases ys <;> simp [bind, Except.bind, hx]
    | ok y =>
      cases hxs : xs.mapM f with
      | error fault => cases ys <;> simp [bind, Except.bind, ← ih, hxs, hx]
      | ok zs => cases ys <;> simp [bind, Except.bind, pure, Except.pure, ← ih, hxs, hx]

theorem exists_mapM {α β γ ε : Type} {R : α → β → Prop} {S : α → γ → Prop} {f : β → Except ε γ}
    {xs : List α} {ys : List β} (h : List.Forall₂ R xs ys)
    (hstep : ∀ x ∈ xs, ∀ y, R x y → ∃ z, f y = .ok z ∧ S x z) :
    ∃ zs, ys.mapM f = .ok zs ∧ List.Forall₂ S xs zs := by
  induction h with
  | nil => exact ⟨[], rfl, .nil⟩
  | @cons x y xs ys hfirst _ ih =>
    obtain ⟨hx, hxs⟩ := List.forall_mem_cons.mp hstep
    obtain ⟨z, hz, hS⟩ := hx y hfirst
    obtain ⟨zs, hzs, hall⟩ := ih hxs
    exact ⟨z :: zs, mapM_eq_ok_iff_forall₂.mpr (.cons hz (mapM_eq_ok_iff_forall₂.mp hzs)),
      .cons hS hall⟩

theorem forall₂_filterMap_id {α β : Type} {R : α → β → Prop} {xs : List α}
    {ys : List (Option β)} (h : List.Forall₂ (fun x y => ∃ z, y = some z ∧ R x z) xs ys) :
    List.Forall₂ R xs (ys.filterMap id) := by
  induction h with
  | nil => exact .nil
  | cons hfirst _ ih =>
    obtain ⟨z, rfl, hz⟩ := hfirst
    exact .cons hz ih

/-! ## Diagrams that can be drawn -/

/-- A label that an arrow may carry. -/
def IsArrowLabel (t : Text) : Prop := t ≠ [] ∧ ∀ c ∈ t, Arrow.isBothLabelChar c = true

/-- What a picture needs of a diagram: labels that tell its nodes apart, and edges between them. -/
structure Diagram.Drawable (d : Diagram) : Prop where
  labels_nodup : (d.nodes.map (·.label)).Nodup
  ends_mem : ∀ e ∈ d.edges,
    e.source ∈ d.nodes.map (·.label) ∧ e.target ∈ d.nodes.map (·.label)
  isArrowLabel : ∀ e ∈ d.edges, ∀ label, e.label = some label → IsArrowLabel label

namespace Arrow

theorem isArrowLabel_of_cleanLabel {t label : Text} (h : cleanLabel t = some label)
    (ht : ∀ c ∈ t, isBothLabelChar c = true) : IsArrowLabel label := by
  obtain ⟨hne, rfl⟩ := Text.nonEmpty?_eq_some_iff.mp h
  refine ⟨hne, fun c hc => ht c ?_⟩
  rw [Text.trim, Text.trimEnd, List.mem_reverse] at hc
  exact (List.dropWhile_suffix _).subset
    (List.mem_reverse.mp ((List.dropWhile_suffix _).subset hc))

theorem isArrowLabel_of_at? {t label : Text} {arrow : Arrow} (h : at? t = some arrow)
    (hlabel : arrow.label = some label) : IsArrowLabel label := by
  have hplain : ∀ {direction : Direction} {raw : Text}, plain? direction raw t = some arrow →
      IsArrowLabel label := by
    intro direction raw h
    rw [(plain?_eq_some h).1] at hlabel
    cases hlabel
  simp only [at?, Option.orElse_eq_some] at h
  rcases h with h | ⟨_, h | ⟨_, h | ⟨_, h | ⟨_, h⟩⟩⟩⟩
  · obtain ⟨l, -, -, -, hl, rfl⟩ := labelledBoth?_eq_some_iff.mp h
    exact isArrowLabel_of_cleanLabel hlabel hl
  · exact hplain h
  · obtain ⟨l, -, -, -, hl, rfl⟩ := labelledForward?_eq_some_iff.mp h
    refine isArrowLabel_of_cleanLabel hlabel fun c hc => ?_
    have hc := hl c hc
    simp only [isForwardLabelChar, isBothLabelChar, Bool.and_eq_true] at hc ⊢
    exact ⟨hc.1.2, hc.2⟩
  · exact hplain h
  · exact hplain h

end Arrow

namespace Sketch

variable {settings : Settings} {numbering after : Numbering} {t : Text} {d : Diagram}

theorem isArrowLabel_drawLine {shapes : List Shape} {mask : Mask} {canvas canvas' : Canvas}
    {line : Nat} {text : Text} {warnings : List Warning}
    (hc : ∀ e ∈ canvas.edges, ∀ label, e.label = some label → IsArrowLabel label)
    (h : drawLine shapes mask canvas line text = .ok (canvas', warnings)) :
    ∀ e ∈ canvas'.edges, ∀ label, e.label = some label → IsArrowLabel label := by
  obtain ⟨labels, -, rfl, -⟩ := drawLine_eq_ok h
  have hcounted : ∀ (es : List (Text × Text × Option Text)) (n : Nat),
      ∀ e ∈ Canvas.counted n es, ∃ x ∈ es, e.label = x.2.2 := by
    intro es
    induction es with
    | nil => exact fun _ _ he => nomatch he
    | cons x es ih =>
      intro n e he
      rcases List.mem_cons.mp he with rfl | he
      · exact ⟨x, List.mem_cons_self, rfl⟩
      · obtain ⟨y, hy, hlabel⟩ := ih (n + 1) e he
        exact ⟨y, List.mem_cons_of_mem _ hy, hlabel⟩
  intro e he label hlabel
  rw [Canvas.connect_edges, Canvas.addNodes_edges] at he
  rcases List.mem_append.mp he with he | he
  · exact hc e he label hlabel
  · obtain ⟨x, hx, hsame⟩ := hcounted _ _ e he
    obtain ⟨link, hlink, hmem⟩ := List.mem_flatMap.mp hx
    obtain ⟨arrow, left, right, rfl, harrow, -⟩ := linkEdges_cases hmem
    obtain ⟨s, n, htoken⟩ := Text.exists_of_mem_tokens (mem_of_mem_links hlink).1
    obtain ⟨found, hat, heq⟩ := Option.map_eq_some_iff.mp htoken
    cases heq
    exact Arrow.isArrowLabel_of_at? hat (harrow.symm.trans (hsame.symm.trans hlabel))

/-- **What a sketch compiles to can be drawn.** -/
theorem drawable_of_compile (h : compile settings numbering t = (.ok d, after)) : d.Drawable := by
  obtain ⟨canvas, ⟨hsound, hlabels⟩, -, hd⟩ := compile_induction settings numbering t
    (P := fun canvas => canvas.Sound ∧
      ∀ e ∈ canvas.edges, ∀ label, e.label = some label → IsArrowLabel label)
    ⟨Canvas.start_sound numbering, nofun⟩
    fun _ _ _ _ _ _ hc hdraw => ⟨drawLine_sound hc.1 hdraw, isArrowLabel_drawLine hc.2 hdraw⟩
  rw [h] at hd
  obtain ⟨hnodes, hedges⟩ := hd d rfl
  refine ⟨?_, ?_, ?_⟩
  · rw [hnodes]
    exact hsound.labels_nodup
  · rw [hnodes, hedges]
    exact hsound.ends_mem
  · rw [hedges]
    exact hlabels

/-- No two nodes share a number if the numbering goes back to a new one. -/
theorem nodup_numbers_of_compile {events : List Numbering.Event}
    (h : compile settings (Numbering.run Numbering.empty events) t = (.ok d, after)) :
    (d.nodes.map (·.number)).Nodup := by
  refine (compile_numbers h).2 ?_
  have hafter : after = Numbering.run Numbering.empty (events ++ [.compile settings t]) := by
    rw [Numbering.run_append,
      show after = (compile settings (Numbering.run _ events) t).2 by rw [h]]
    rfl
  exact hafter ▸ Numbering.run_injective _ Numbering.empty_sound Numbering.empty_injective

end Sketch

theorem Layout.engineFor_eq_error_iff {t kind : Text} :
    engineFor (some t) = .error kind ↔ kind = t ∧ t ≠ [] ∧ ofName? t = none := by
  unfold engineFor
  cases t with
  | nil => simp
  | cons c cs =>
    cases hname : ofName? (c :: cs) <;> simp [hname, eq_comm]

/-- Without a name, or with one that is known, there is an engine. -/
theorem Layout.exists_engineFor {kind : Text}
    (h : kind = [] ∨ ∃ layout, ofName? kind = some layout) :
    ∃ engine, engineFor (some kind) = .ok engine := by
  cases hfor : engineFor (some kind) with
  | ok engine => exact ⟨engine, rfl⟩
  | error fault =>
    obtain ⟨-, hne, hnone⟩ := engineFor_eq_error_iff.mp hfor
    rcases h with hnil | ⟨layout, hsome⟩
    · exact absurd hnil hne
    · rw [hsome] at hnone
      cases hnone

/-- What a replaced character is replaced by is all that is new. -/
theorem Text.mem_replaceChar {c d : Char} {by' t : Text} (h : c ∈ replaceChar d by' t) :
    c ∈ by' ∨ c ∈ t ∧ c ≠ d := by
  obtain ⟨e, he, hc⟩ := List.mem_flatMap.mp h
  split at hc
  · exact Or.inl hc
  · rename_i hne
    rw [List.mem_singleton.mp hc]
    exact Or.inr ⟨he, hne⟩

namespace Picture

theorem newline_notMem_escapeLabel (t : Text) : '\n' ∉ escapeLabel t := fun h =>
  (Text.mem_replaceChar h).elim (by decide) fun h => h.2 rfl

/-! ## Keys -/

/-- The key of the node with a number. -/
def numberKey (n : Int) : Text := 'n' :: Text.ofInt n

theorem numberKey_injective {m n : Int} (h : numberKey m = numberKey n) : m = n :=
  Text.ofInt_injective (List.cons.inj h).2

/-- The characters of keys. -/
def isKeyChar (c : Char) : Bool := c = 'n' || c = '-' || c.isDigit

theorem isKeyChar_of_mem {n : Int} : ∀ c ∈ numberKey n, isKeyChar c = true := by
  have hnat : ∀ k : Nat, ∀ c ∈ Text.ofNat k, isKeyChar c = true := by
    intro k c hc
    rw [isKeyChar, Text.isDigit_of_mem_ofNat hc, Bool.or_true]
  refine List.forall_mem_cons.mpr ⟨rfl, ?_⟩
  cases n with
  | ofNat k => exact hnat k
  | negSucc k => exact List.forall_mem_cons.mpr ⟨rfl, hnat (k + 1)⟩

theorem notMem_numberKey {c : Char} (hc : isKeyChar c = false) (n : Int) : c ∉ numberKey n := by
  intro hmem
  rw [isKeyChar_of_mem c hmem] at hc
  cases hc

/-- The keys of nodes by their ids. -/
def keyTable (nodes : List GraphSketch.Node) : OrderedMap NodeId Text :=
  nodes.map fun node => (.text node.label, numberKey node.number)

/-- What the key of a node of a diagram is made from. -/
def KeyedNode.ofNode (node : GraphSketch.Node) : KeyedNode := ⟨node.label, some (.int node.number)⟩

theorem keyTable_eq_table (nodes : List GraphSketch.Node) :
    keyTable nodes = KeyedNode.table (nodes.map KeyedNode.ofNode) := by
  simp only [keyTable, KeyedNode.table, List.map_map]
  rfl

theorem map_id_ofNode (nodes : List GraphSketch.Node) :
    (nodes.map KeyedNode.ofNode).map (·.id) = nodes.map (·.label) := List.map_map

theorem nodup_keys_keyTable {nodes : List GraphSketch.Node}
    (h : (nodes.map (·.label)).Nodup) : (OrderedMap.keys (keyTable nodes)).Nodup := by
  rw [← map_id_ofNode] at h
  exact keyTable_eq_table nodes ▸ KeyedNode.nodup_keys_table h

theorem get?_keyTable {nodes : List GraphSketch.Node} (h : (nodes.map (·.label)).Nodup)
    {node : GraphSketch.Node} (hmem : node ∈ nodes) :
    (keyTable nodes).get? (.text node.label) = some (numberKey node.number) := by
  rw [← map_id_ofNode] at h
  exact keyTable_eq_table nodes ▸ KeyedNode.get?_table h (List.mem_map_of_mem hmem)

theorem standsFor_of_nodeItem {node : GraphSketch.Node} {item : Json} (h : NodeItem node item) :
    ∃ fields, item = .obj fields ∧ (KeyedNode.ofNode node).StandsFor fields := by
  cases item with
  | obj fields =>
    have hnumber : OrderedMap.get? fields "numericId" = some (.int node.number) := h.number
    exact ⟨fields, rfl, h.id, by rw [KeyedNode.numberOf, hnumber]; rfl⟩
  | _ => cases h.id

theorem keys_of_nodeItems {nodes : List GraphSketch.Node} {items : List Json}
    (h : List.Forall₂ NodeItem nodes items) (hnodup : (nodes.map (·.label)).Nodup) :
    keys items = .ok (keyTable nodes) := by
  have hobjects : ∃ objects, items = objects.map Json.obj ∧
      List.Forall₂ KeyedNode.StandsFor (nodes.map KeyedNode.ofNode) objects := by
    clear hnodup
    induction h with
    | nil => exact ⟨[], rfl, .nil⟩
    | cons hitem _ ih =>
      obtain ⟨fields, rfl, hfields⟩ := standsFor_of_nodeItem hitem
      obtain ⟨objects, rfl, hobjects⟩ := ih
      exact ⟨fields :: objects, rfl, .cons hfields hobjects⟩
  obtain ⟨objects, rfl, hobjects⟩ := hobjects
  rw [← map_id_ofNode] at hnodup
  exact keyTable_eq_table nodes ▸ keys_of_standFor hobjects hnodup

/-! ## What is drawn -/

/-- How a node is drawn. -/
structure DrawnNode (node : GraphSketch.Node) (drawn : Node) : Prop where
  key : drawn.key = numberKey node.number
  shape : drawn.shape = node.shape.name
  fill : ∀ t, drawn.fill = some t → IsColour t
  stroke : ∀ t, drawn.stroke = some t → IsColour t
  width : ∀ t, drawn.width = some t → ∃ n : Nat, t = Text.ofNat n

/-- How an edge is drawn. -/
structure DrawnEdge (nodes : List GraphSketch.Node) (e : GraphSketch.Edge) (drawn : Edge) :
    Prop where
  source : ∃ node ∈ nodes, node.label = e.source ∧ drawn.source = numberKey node.number
  target : ∃ node ∈ nodes, node.label = e.target ∧ drawn.target = numberKey node.number
  label : drawn.label = e.label

/-- The picture of a document that depicts a diagram. -/
structure Shows (d : Diagram) (document : Document) (picture : Picture) : Prop where
  made : ofDocument document = .ok picture
  orientation : ∃ t, document.get? "orientation" = some (.str t) ∧
    picture.orientation = Orientation.ofText t
  nodes : List.Forall₂ DrawnNode d.nodes picture.nodes
  edges : List.Forall₂ (DrawnEdge d.nodes) d.edges picture.edges

theorem Shows.exists_drawnNode {d : Diagram} {document : Document} {picture : Picture}
    (h : Shows d document picture) {drawn : Node} (hmem : drawn ∈ picture.nodes) :
    ∃ node ∈ d.nodes, DrawnNode node drawn := by
  obtain ⟨i, hi, rfl⟩ := List.mem_iff_getElem.mp hmem
  obtain ⟨hlength, hall⟩ := List.forall₂_iff_get.mp h.nodes
  exact ⟨_, List.get_mem _ _, hall i (hlength ▸ hi) hi⟩

theorem Shows.exists_drawnEdge {d : Diagram} {document : Document} {picture : Picture}
    (h : Shows d document picture) {drawn : Edge} (hmem : drawn ∈ picture.edges) :
    ∃ e ∈ d.edges, DrawnEdge d.nodes e drawn := by
  obtain ⟨i, hi, rfl⟩ := List.mem_iff_getElem.mp hmem
  obtain ⟨hlength, hall⟩ := List.forall₂_iff_get.mp h.edges
  exact ⟨_, List.get_mem _ _, hall i (hlength ▸ hi) hi⟩

theorem Shows.map_key {d : Diagram} {document : Document} {picture : Picture}
    (h : Shows d document picture) :
    picture.nodes.map (·.key) = (d.nodes.map (·.number)).map numberKey := by
  have hkeys : ∀ {nodes : List GraphSketch.Node} {drawn : List Node},
      List.Forall₂ DrawnNode nodes drawn →
        drawn.map (·.key) = (nodes.map (·.number)).map numberKey := by
    intro nodes drawn hall
    induction hall with
    | nil => rfl
    | cons hfirst _ ih => rw [List.map_cons, List.map_cons, List.map_cons, ih, hfirst.key]
  exact hkeys h.nodes

theorem Shows.nodup_keys {d : Diagram} {document : Document} {picture : Picture}
    (h : Shows d document picture) (hnodup : (d.nodes.map (·.number)).Nodup) :
    (picture.nodes.map (·.key)).Nodup :=
  h.map_key ▸ hnodup.map fun _ _ => numberKey_injective

theorem settingOf_of_colour {v : Option Json} {t : Text}
    (h : ∀ w, v = some w → ∃ t, w = .str t ∧ IsColour t) (ht : Document.settingOf v = some t) :
    IsColour t := by
  obtain ⟨w, rfl, hw⟩ := Option.bind_eq_some_iff.mp ht
  obtain ⟨s, rfl, hs⟩ := h w rfl
  split at hw
  · cases hw
  · cases hw
    exact hs

theorem measureOf_of_nat {v : Option Json} {t : Text}
    (h : ∀ w, v = some w → ∃ n : Nat, w = .int n) (ht : Document.measureOf v = some t) :
    ∃ n : Nat, t = Text.ofNat n := by
  cases v with
  | none => cases ht
  | some w =>
    obtain ⟨n, rfl⟩ := h w rfl
    exact ⟨n, (Option.some.inj ht).symm⟩

variable {nodes : List GraphSketch.Node}

theorem drawnNode_of_nodeItem (hnodup : (nodes.map (·.label)).Nodup) {node : GraphSketch.Node}
    (hmem : node ∈ nodes) {item : Json} (h : NodeItem node item) :
    ∃ drawn, nodeOf (keyTable nodes) item = .ok drawn ∧ DrawnNode node drawn := by
  obtain ⟨label, hlabel⟩ := h.exists_label
  have hfill := h.setting "fill" (by decide)
  have hstroke := h.setting "stroke" (by decide)
  have hwidth := h.setting "strokeWidth" (by decide)
  cases item with
  | obj fields =>
    have hid : OrderedMap.get? fields "id" = some (.str node.label) := h.id
    have hshape : OrderedMap.get? fields "shape" = some (.str node.shape.name) := h.shape
    have hlabel : OrderedMap.get? fields "label" = some (.str label) := hlabel
    have hnamed : node.shape.name.isEmpty = false := by cases node.shape <;> rfl
    refine ⟨⟨numberKey node.number, label, node.shape.name,
      Document.settingOf (OrderedMap.get? fields "fill"),
      Document.settingOf (OrderedMap.get? fields "stroke"),
      Document.measureOf (OrderedMap.get? fields "strokeWidth")⟩, ?_, rfl, rfl,
      fun t ht => settingOf_of_colour hfill ht, fun t ht => settingOf_of_colour hstroke ht,
      fun t ht => measureOf_of_nat hwidth ht⟩
    simp only [nodeOf, labelOf, OrderedMap.has, hid, hshape, hlabel, Document.fieldsOf,
      Document.idOf, Document.textOf, Option.isSome_some, if_true, bind, Except.bind,
      Option.bind_some, get?_keyTable hnodup hmem, hnamed, pure, Except.pure]
    rfl
  | _ => cases h.id

theorem endOf_keyTable (hnodup : (nodes.map (·.label)).Nodup) {node : GraphSketch.Node}
    (hmem : node ∈ nodes) :
    endOf (keyTable nodes) (some (.str node.label)) = .ok (some (numberKey node.number)) := by
  rw [← map_id_ofNode] at hnodup
  exact keyTable_eq_table nodes ▸
    endOf_table hnodup (List.mem_map_of_mem hmem) (List.cons_ne_nil _ _)

theorem edgeOf_of_ends {keys : OrderedMap NodeId Text} {fields : OrderedMap Text Json}
    {source target label : Text}
    (hsource : endOf keys (fields.get? "source") = .ok (some source))
    (htarget : endOf keys (fields.get? "target") = .ok (some target))
    (hlabel : Document.textOf (fields.get? "label") = .ok label) :
    edgeOf keys (.obj fields) = .ok (some ⟨source, target, label.nonEmpty?⟩) := by
  simp only [edgeOf, Document.fieldsOf, bind, Except.bind, hsource, htarget, hlabel, pure,
    Except.pure]

theorem drawnEdge_toJson (hnodup : (nodes.map (·.label)).Nodup) {e : GraphSketch.Edge}
    (hends : e.source ∈ nodes.map (·.label) ∧ e.target ∈ nodes.map (·.label))
    (hlabel : ∀ label, e.label = some label → IsArrowLabel label) :
    ∃ drawn, edgeOf (keyTable nodes) e.toJson = .ok (some drawn) ∧ DrawnEdge nodes e drawn := by
  obtain ⟨source, hsource, hsourceLabel⟩ := List.mem_map.mp hends.1
  obtain ⟨target, htarget, htargetLabel⟩ := List.mem_map.mp hends.2
  have htext : ∃ label, Document.textOf (e.toJson.field? "label") = .ok label ∧
      label.nonEmpty? = e.label := by
    cases hl : e.label with
    | none =>
      refine ⟨[], ?_, rfl⟩
      rw [GraphSketch.Edge.toJson, GraphSketch.Edge.labelField, hl]
      rfl
    | some label =>
      have hne : label.nonEmpty? = some label :=
        Text.nonEmpty?_eq_some_iff.mpr ⟨(hlabel label hl).1, rfl⟩
      refine ⟨label, ?_, hne⟩
      rw [GraphSketch.Edge.toJson, GraphSketch.Edge.labelField, hl, Option.bind_some, hne]
      rfl
  obtain ⟨label, hread, hsame⟩ := htext
  refine ⟨⟨numberKey source.number, numberKey target.number, label.nonEmpty?⟩,
    edgeOf_of_ends ?_ ?_ hread, ⟨source, hsource, hsourceLabel, rfl⟩,
    ⟨target, htarget, htargetLabel, rfl⟩, hsame⟩
  · exact hsourceLabel ▸ endOf_keyTable hnodup hsource
  · exact htargetLabel ▸ endOf_keyTable hnodup htarget

variable {d : Diagram} {document : Document}

/-- **A document that depicts a diagram has a picture**, which shows all of the diagram. -/
theorem exists_shows (hd : d.Drawable) (h : Depicts d document) :
    ∃ picture, Shows d document picture := by
  obtain ⟨title, htitle⟩ := h.title
  obtain ⟨orientation, horientation⟩ := h.orientation
  obtain ⟨items, hitems, hnodeItems⟩ := h.nodes
  have hnodes : document.parts "nodes" = .ok items := by rw [Document.parts, hitems]
  have hedges : document.parts "edges" = .ok (d.edges.map GraphSketch.Edge.toJson) := by
    rw [Document.parts, h.edges]
  obtain ⟨drawn, hdrawn, hdrawnNodes⟩ := exists_mapM hnodeItems
    fun node hmem item => drawnNode_of_nodeItem hd.labels_nodup hmem
  have hedgeItems : List.Forall₂ (fun (e : GraphSketch.Edge) item => item = e.toJson) d.edges
      (d.edges.map GraphSketch.Edge.toJson) :=
    List.forall₂_map_right_iff.mpr (List.forall₂_same.mpr fun _ _ => rfl)
  obtain ⟨lines, hlines, hdrawnEdges⟩ := exists_mapM hedgeItems
    (S := fun e line => ∃ drawn, line = some drawn ∧ DrawnEdge d.nodes e drawn)
    (by
      rintro e hmem _ rfl
      obtain ⟨drawn, hedge, hof⟩ := drawnEdge_toJson hd.labels_nodup (hd.ends_mem e hmem)
        (hd.isArrowLabel e hmem)
      exact ⟨some drawn, hedge, drawn, rfl, hof⟩)
  refine ⟨⟨(Document.settingOf (some (.str title))).getD [], Orientation.ofText orientation, drawn,
    lines.filterMap id⟩, ?_, ⟨orientation, horientation, rfl⟩, hdrawnNodes, ?_⟩
  · simp only [ofDocument, horientation, Document.textOf, hnodes, hedges, htitle, hdrawn, hlines,
      keys_of_nodeItems hnodeItems hd.labels_nodup, bind, Except.bind, pure, Except.pure]
  · exact forall₂_filterMap_id hdrawnEdges

/-! ## Engines -/

/-- The layout that is asked for, or that of the document. -/
def askedLayout (document : Document) (layout : Option Text) : Except DocumentFault Text :=
  match layout.bind Text.nonEmpty? with
  | some kind => .ok kind
  | none => Document.textOf (document.get? "layout")

/-- Whether or not a layout is asked for, the layout of the document can be told. -/
theorem exists_askedLayout (h : Depicts d document) (layout : Option Text) :
    ∃ kind, askedLayout document layout = .ok kind := by
  unfold askedLayout
  cases layout.bind Text.nonEmpty? with
  | some kind => exact ⟨kind, rfl⟩
  | none =>
    cases hlayout : document.get? "layout" with
    | none => exact ⟨[], rfl⟩
    | some v =>
      obtain ⟨kind, rfl⟩ := h.layout v hlayout
      exact ⟨kind, rfl⟩

theorem engine_eq_ok_iff {layout : Option Text} {engine : Text} :
    Picture.engine document layout = .ok engine ↔
      ∃ kind, askedLayout document layout = .ok kind ∧ Layout.engineFor (some kind) = .ok engine := by
  have hmap : ∀ answer : Except Text Text, answer.mapError DocumentFault.unknownLayout = .ok engine ↔
      answer = .ok engine := by
    intro answer
    cases answer <;> simp [Except.mapError]
  unfold Picture.engine askedLayout
  cases layout.bind Text.nonEmpty? with
  | some kind => simpa [pure, Except.pure, bind, Except.bind] using hmap _
  | none =>
    cases Document.textOf (document.get? "layout") with
    | error fault => simp [bind, Except.bind]
    | ok kind => simpa [bind, Except.bind] using hmap _

theorem engine_eq_unknown_iff {layout : Option Text} {kind : Text} :
    Picture.engine document layout = .error (.unknownLayout kind) ↔
      askedLayout document layout = .ok kind ∧ kind ≠ [] ∧ Layout.ofName? kind = none := by
  have hfor : ∀ asked : Text, (Layout.engineFor (some asked)).mapError DocumentFault.unknownLayout =
      .error (.unknownLayout kind) ↔ asked = kind ∧ kind ≠ [] ∧ Layout.ofName? kind = none := by
    intro asked
    have hmap : (Layout.engineFor (some asked)).mapError DocumentFault.unknownLayout =
        .error (.unknownLayout kind) ↔ Layout.engineFor (some asked) = .error kind := by
      cases Layout.engineFor (some asked) <;> simp [Except.mapError]
    rw [hmap, Layout.engineFor_eq_error_iff]
    constructor
    · rintro ⟨rfl, hunknown⟩
      exact ⟨rfl, hunknown⟩
    · rintro ⟨rfl, hunknown⟩
      exact ⟨rfl, hunknown⟩
  unfold Picture.engine askedLayout
  cases layout.bind Text.nonEmpty? with
  | some asked => simpa [pure, Except.pure, bind, Except.bind] using hfor asked
  | none =>
    cases hasked : Document.textOf (document.get? "layout") with
    | ok asked => simpa [bind, Except.bind] using hfor asked
    | error fault =>
      have hnot : ∀ v, Document.textOf v ≠ .error (.unknownLayout kind) := by
        intro v h
        unfold Document.textOf at h
        split at h
        · cases h
        · split at h <;> cases h
        · cases h
      refine iff_of_false (fun h => hnot _ (hasked.trans h)) ?_
      rintro ⟨h, -⟩
      cases h

end Picture

end GraphSketch
