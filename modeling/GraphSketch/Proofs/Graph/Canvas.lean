import GraphSketch.Graph.Basic
import GraphSketch.Proofs.Arrow
import GraphSketch.Proofs.Numbering.Growth
import GraphSketch.Proofs.Text.Digits

/-!
# Sound canvases

`Canvas.Sound` is the invariant of a graph that is being drawn: labels name nodes and are not
empty, places count the nodes and the edges, the numbering knows the number of every node, and
edges end at nodes.  It holds of an empty canvas and is kept by every operation
(`addNode_sound`, `connect_sound`); the edges are named apart (`nodup_ids_of_index`).

The numbering of a canvas changes by giving out numbers only (`addNodes_numbering`), and on a sound
canvas exactly the labels that are added are given theirs (`addNodes_numbering_of_sound`).
-/

set_option autoImplicit false

namespace GraphSketch

/-! ## Names of edges -/

namespace Edge

theorem id_eq (e : Edge) :
    e.id = (e.source ++ '-' :: e.target) ++ '-' :: Text.ofNat e.index := by
  simp [id]

/-- The name of an edge tells its place, whatever dashes and digits the labels hold. -/
theorem index_eq_of_id_eq {e e' : Edge} (h : e.id = e'.id) : e.index = e'.index := by
  rw [id_eq, id_eq] at h
  exact Text.ofNat_injective
    (eq_of_append_dash (Text.dash_notMem_ofNat _) (Text.dash_notMem_ofNat _) h)

end Edge

theorem nodup_ids_of_index {edges : List Edge}
    (h : ∀ (i : Nat) (e : Edge), edges[i]? = some e → e.index = i) : (edges.map Edge.id).Nodup := by
  rw [List.nodup_iff_getElem?_ne_getElem?]
  intro i j hij hj heq
  rw [List.length_map] at hj
  have hi : i < edges.length := by omega
  rw [List.getElem?_map, List.getElem?_map, List.getElem?_eq_getElem hi,
    List.getElem?_eq_getElem hj, Option.map_some, Option.map_some, Option.some.injEq] at heq
  have hidx := Edge.index_eq_of_id_eq heq
  rw [h i _ (List.getElem?_eq_getElem hi), h j _ (List.getElem?_eq_getElem hj)] at hidx
  omega

/-! ## Links -/

theorem mem_of_mem_links {α : Type} : ∀ {as : List α} {ops : List (Option Text)} {a : α}
    {left right : Text}, (a, some left, some right) ∈ links as ops →
    a ∈ as ∧ some left ∈ ops ∧ some right ∈ ops
  | [], _, _, _, _, h => by simp [links] at h
  | a :: as, left :: right :: ops, b, l, r, h => by
    rw [links] at h
    rcases List.mem_cons.mp h with h | h
    · simp only [Prod.mk.injEq] at h
      obtain ⟨rfl, rfl, rfl⟩ := h
      exact ⟨List.mem_cons_self, List.mem_cons_self, List.mem_cons_of_mem _ List.mem_cons_self⟩
    · obtain ⟨ha, hl, hr⟩ := mem_of_mem_links h
      exact ⟨List.mem_cons_of_mem _ ha, List.mem_cons_of_mem _ hl, List.mem_cons_of_mem _ hr⟩
  | a :: as, [left], b, l, r, h => by
    rw [links] at h
    rcases List.mem_cons.mp h with h | h
    · simp at h
    · obtain ⟨_, hl, _⟩ := mem_of_mem_links h
      cases hl
  | a :: as, [], b, l, r, h => by
    rw [links] at h
    rcases List.mem_cons.mp h with h | h
    · simp at h
    · obtain ⟨_, hl, _⟩ := mem_of_mem_links h
      cases hl

/-- The edges of a link lead between its operands, with the label of its arrow. -/
theorem linkEdges_cases {link : Arrow × Option Text × Option Text}
    {e : Text × Text × Option Text} (h : e ∈ linkEdges link) :
    ∃ arrow left right, link = (arrow, some left, some right) ∧ e.2.2 = arrow.label ∧
      ((e.1 = left ∧ e.2.1 = right) ∨ (e.1 = right ∧ e.2.1 = left)) := by
  obtain ⟨arrow, left, right⟩ := link
  cases left with
  | none => simp [linkEdges] at h
  | some left =>
    cases right with
    | none => simp [linkEdges] at h
    | some right =>
      obtain ⟨ends, hends, rfl⟩ := List.mem_map.mp h
      refine ⟨arrow, left, right, rfl, rfl, ?_⟩
      cases hd : arrow.direction <;> rw [hd] at hends <;>
        simp only [Direction.ends, List.mem_cons, List.not_mem_nil, or_false] at hends
      · subst hends
        exact Or.inl ⟨rfl, rfl⟩
      · subst hends
        exact Or.inr ⟨rfl, rfl⟩
      · rcases hends with rfl | rfl
        · exact Or.inl ⟨rfl, rfl⟩
        · exact Or.inr ⟨rfl, rfl⟩

namespace Canvas

/-- The labels of the nodes, in order. -/
def labels (canvas : Canvas) : List Text := canvas.nodes.map (·.label)

/-- What holds of a canvas at every moment: its nodes are counted through and numbered, and its
edges lead between them. -/
structure Sound (canvas : Canvas) : Prop where
  label_ne_nil : ∀ node ∈ canvas.nodes, node.label ≠ []
  labels_nodup : canvas.labels.Nodup
  order_eq : ∀ (i : Nat) (node : Node), canvas.nodes[i]? = some node → node.order = i
  number_eq : ∀ node ∈ canvas.nodes, canvas.numbering.number? node.label = some node.number
  ends_mem : ∀ e ∈ canvas.edges, e.source ∈ canvas.labels ∧ e.target ∈ canvas.labels
  index_eq : ∀ (i : Nat) (e : Edge), canvas.edges[i]? = some e → e.index = i
  isEdgeLabel : ∀ e ∈ canvas.edges, ∀ label, e.label = some label → IsEdgeLabel label

theorem start_sound (numbering : Numbering) : (start numbering).Sound :=
  ⟨nofun, List.nodup_nil, nofun, nofun, nofun, nofun, nofun⟩

/-! ## Nodes -/

theorem node?_isSome_iff {canvas : Canvas} {label : Text} :
    (canvas.node? label).isSome = true ↔ label ∈ canvas.labels := by
  rw [node?, List.find?_isSome, labels, List.mem_map]
  simp only [decide_eq_true_eq]

theorem addNode_cases (known : List Shape) (canvas : Canvas) (label : Text) :
    (label ∈ canvas.labels ∧ addNode known canvas label = canvas) ∨
    (label ∉ canvas.labels ∧ addNode known canvas label =
      { canvas with
        numbering := (canvas.numbering.assign label).1
        nodes := canvas.nodes ++ [⟨label, (canvas.numbering.assign label).2,
          Shape.ofLabel known label, canvas.nodes.length⟩] }) := by
  by_cases h : label ∈ canvas.labels
  · exact Or.inl ⟨h, if_pos (node?_isSome_iff.mpr h)⟩
  · exact Or.inr ⟨h, if_neg fun hs => h (node?_isSome_iff.mp hs)⟩

theorem mem_labels_addNode {known : List Shape} {canvas : Canvas} {label other : Text} :
    other ∈ (addNode known canvas label).labels ↔ other = label ∨ other ∈ canvas.labels := by
  rcases addNode_cases known canvas label with ⟨hmem, h⟩ | ⟨_, h⟩
  · rw [h]
    exact ⟨Or.inr, fun ho => ho.elim (fun he => he ▸ hmem) id⟩
  · rw [h]
    simp only [labels, List.map_append, List.map_cons, List.map_nil, List.mem_append,
      List.mem_singleton]
    exact or_comm

theorem addNode_sound {known : List Shape} {canvas : Canvas} {label : Text}
    (hc : canvas.Sound) (hl : label ≠ []) : (addNode known canvas label).Sound := by
  rcases addNode_cases known canvas label with ⟨_, h⟩ | ⟨hnot, h⟩
  · rw [h]
    exact hc
  · have hmem : ∀ other ∈ canvas.labels, other ∈ (addNode known canvas label).labels :=
      fun other ho => mem_labels_addNode.mpr (Or.inr ho)
    rw [h] at hmem ⊢
    refine ⟨?_, ?_, ?_, ?_, ?_, hc.index_eq, hc.isEdgeLabel⟩
    · intro node hn
      rcases List.mem_append.mp hn with hn | hn
      · exact hc.label_ne_nil node hn
      · rw [List.mem_singleton] at hn
        subst hn
        exact hl
    · simp only [labels, List.map_append, List.map_cons, List.map_nil]
      refine List.nodup_append.mpr ⟨hc.labels_nodup, by simp, fun a ha b hb => ?_⟩
      rw [List.mem_singleton] at hb
      rintro rfl
      exact hnot (hb ▸ ha)
    · intro i node hi
      rcases Nat.lt_or_ge i canvas.nodes.length with hlt | hge
      · rw [List.getElem?_append_left hlt] at hi
        exact hc.order_eq i node hi
      · rw [List.getElem?_append_right hge] at hi
        obtain ⟨hz, hnode⟩ := List.getElem?_eq_some_iff.mp hi
        simp only [List.length_cons, List.length_nil] at hz
        rw [List.getElem_singleton] at hnode
        subst hnode
        show canvas.nodes.length = i
        omega
    · intro node hn
      rcases List.mem_append.mp hn with hn | hn
      · have hne : node.label ≠ label := fun he => hnot (he ▸ List.mem_map.mpr ⟨node, hn, rfl⟩)
        show (canvas.numbering.assign label).1.number? node.label = _
        rw [Numbering.number?_assign_of_ne hne]
        exact hc.number_eq node hn
      · rw [List.mem_singleton] at hn
        subst hn
        exact Numbering.number?_assign_self canvas.numbering label
    · intro e he
      obtain ⟨hs, ht⟩ := hc.ends_mem e he
      exact ⟨hmem _ hs, hmem _ ht⟩

theorem addNodes_sound {known : List Shape} : ∀ (ls : List Text) {canvas : Canvas},
    canvas.Sound → (∀ label ∈ ls, label ≠ []) → (ls.foldl (addNode known) canvas).Sound
  | [], _, hc, _ => hc
  | label :: ls, _, hc, hl =>
    addNodes_sound ls (addNode_sound hc (hl label List.mem_cons_self))
      fun other ho => hl other (List.mem_cons_of_mem _ ho)

theorem mem_labels_addNodes {known : List Shape} {other : Text} : ∀ (ls : List Text)
    {canvas : Canvas},
    other ∈ (ls.foldl (addNode known) canvas).labels ↔ other ∈ ls ∨ other ∈ canvas.labels
  | [], canvas => by simp
  | label :: ls, canvas => by
    rw [List.foldl_cons, mem_labels_addNodes ls, mem_labels_addNode, List.mem_cons, or_assoc,
      or_left_comm]

/-- **Labels become nodes in the order in which they are first mentioned.** -/
theorem addNodes_labels (known : List Shape) : ∀ (ls : List Text) {canvas : Canvas}
    {mentioned : List Text}, canvas.labels = mentioned.eraseDups →
      (ls.foldl (addNode known) canvas).labels = (mentioned ++ ls).eraseDups
  | [], _, mentioned, h => by rw [List.append_nil, List.foldl_nil, h]
  | label :: ls, canvas, mentioned, h => by
    have hfirst : (addNode known canvas label).labels = (mentioned ++ [label]).eraseDups := by
      rw [List.eraseDups_append, List.removeAll]
      rcases addNode_cases known canvas label with ⟨hmem, hadd⟩ | ⟨hnot, hadd⟩
      · rw [h, List.mem_eraseDups] at hmem
        simp [hadd, h, hmem]
      · have hlabels : (addNode known canvas label).labels = canvas.labels ++ [label] := by
          rw [hadd]
          simp [labels]
        rw [h, List.mem_eraseDups] at hnot
        simp [hlabels, h, hnot, List.eraseDups_cons]
    have hrest := addNodes_labels known ls hfirst
    rwa [List.append_assoc] at hrest

theorem addNode_numbering (known : List Shape) (canvas : Canvas) (label : Text) :
    ∃ ls, (addNode known canvas label).numbering = canvas.numbering.assignAll ls := by
  rcases addNode_cases known canvas label with ⟨_, h⟩ | ⟨_, h⟩
  · exact ⟨[], by rw [h]; rfl⟩
  · exact ⟨[label], by rw [h]; rfl⟩

theorem addNodes_numbering {known : List Shape} : ∀ (ls : List Text) (canvas : Canvas),
    ∃ given, (ls.foldl (addNode known) canvas).numbering = canvas.numbering.assignAll given
  | [], _ => ⟨[], rfl⟩
  | label :: ls, canvas => by
    obtain ⟨first, hfirst⟩ := addNode_numbering known canvas label
    obtain ⟨rest, hrest⟩ := addNodes_numbering ls (addNode known canvas label)
    exact ⟨first ++ rest, by rw [List.foldl_cons, hrest, hfirst, Numbering.assignAll_append]⟩

/-- The nodes have their numbers, so to add a node is to give its label a number. -/
theorem addNode_numbering_of_sound {known : List Shape} {canvas : Canvas} (hc : canvas.Sound)
    (label : Text) :
    (addNode known canvas label).numbering = (canvas.numbering.assign label).1 := by
  rcases addNode_cases known canvas label with ⟨hmem, h⟩ | ⟨_, h⟩
  · obtain ⟨node, hnode, rfl⟩ := List.mem_map.mp hmem
    rw [h, Numbering.assign_of_number? (hc.number_eq node hnode)]
  · rw [h]

theorem addNodes_numbering_of_sound (known : List Shape) : ∀ (ls : List Text) {canvas : Canvas},
    canvas.Sound → (∀ label ∈ ls, label ≠ []) →
      (ls.foldl (addNode known) canvas).numbering = canvas.numbering.assignAll ls
  | [], _, _, _ => rfl
  | label :: ls, canvas, hc, hl => by
    have hfirst : (addNode known canvas label).Sound := addNode_sound hc (hl label List.mem_cons_self)
    have hrest := addNodes_numbering_of_sound known ls hfirst
      fun other ho => hl other (List.mem_cons_of_mem _ ho)
    rw [List.foldl_cons, hrest, addNode_numbering_of_sound hc]
    rfl

/-! ## Edges -/

theorem addEdge_sound {canvas : Canvas} {e : Text × Text × Option Text} (hc : canvas.Sound)
    (hs : e.1 ∈ canvas.labels) (ht : e.2.1 ∈ canvas.labels)
    (hl : ∀ label, e.2.2 = some label → IsEdgeLabel label) : (canvas.addEdge e).Sound := by
  refine ⟨hc.label_ne_nil, hc.labels_nodup, hc.order_eq, hc.number_eq, ?_, ?_, ?_⟩
  · intro e' he
    rcases List.mem_append.mp he with he | he
    · exact hc.ends_mem e' he
    · rw [List.mem_singleton] at he
      subst he
      exact ⟨hs, ht⟩
  · intro i e' hi
    rcases Nat.lt_or_ge i canvas.edges.length with hlt | hge
    · rw [addEdge, List.getElem?_append_left hlt] at hi
      exact hc.index_eq i e' hi
    · rw [addEdge, List.getElem?_append_right hge] at hi
      obtain ⟨hz, hedge⟩ := List.getElem?_eq_some_iff.mp hi
      simp only [List.length_cons, List.length_nil] at hz
      rw [List.getElem_singleton] at hedge
      subst hedge
      show canvas.edges.length = i
      omega
  · intro e' he label hlab
    rcases List.mem_append.mp he with he | he
    · exact hc.isEdgeLabel e' he label hlab
    · rw [List.mem_singleton] at he
      subst he
      exact hl label hlab

theorem foldl_addEdge_sound : ∀ (es : List (Text × Text × Option Text)) {canvas : Canvas},
    canvas.Sound → (∀ e ∈ es, e.1 ∈ canvas.labels ∧ e.2.1 ∈ canvas.labels ∧
      ∀ label, e.2.2 = some label → IsEdgeLabel label) → (es.foldl addEdge canvas).Sound
  | [], _, hc, _ => hc
  | e :: es, canvas, hc, h => by
    obtain ⟨hs, ht, hl⟩ := h e List.mem_cons_self
    exact foldl_addEdge_sound es (addEdge_sound hc hs ht hl)
      fun e' he => h e' (List.mem_cons_of_mem _ he)

theorem foldl_addEdge_nodes : ∀ (es : List (Text × Text × Option Text)) (canvas : Canvas),
    (es.foldl addEdge canvas).nodes = canvas.nodes
  | [], _ => rfl
  | e :: es, canvas => foldl_addEdge_nodes es (canvas.addEdge e)

theorem foldl_addEdge_labels (es : List (Text × Text × Option Text)) (canvas : Canvas) :
    (es.foldl addEdge canvas).labels = canvas.labels := by
  rw [labels, foldl_addEdge_nodes, labels]

theorem foldl_addEdge_numbering : ∀ (es : List (Text × Text × Option Text)) (canvas : Canvas),
    (es.foldl addEdge canvas).numbering = canvas.numbering
  | [], _ => rfl
  | e :: es, canvas => foldl_addEdge_numbering es (canvas.addEdge e)

/-- Edges counted through from number `n` on. -/
def counted : Nat → List (Text × Text × Option Text) → List Edge
  | _, [] => []
  | n, e :: es => ⟨n, e.1, e.2.1, e.2.2⟩ :: counted (n + 1) es

theorem counted_append (es es' : List (Text × Text × Option Text)) : ∀ n : Nat,
    counted n (es ++ es') = counted n es ++ counted (n + es.length) es' := by
  induction es with
  | nil => exact fun n => rfl
  | cons e es ih =>
    intro n
    rw [List.cons_append, counted, counted, ih (n + 1), List.cons_append, List.length_cons,
      Nat.add_assoc, Nat.add_comm 1]

theorem length_counted : ∀ (n : Nat) (es : List (Text × Text × Option Text)),
    (counted n es).length = es.length
  | _, [] => rfl
  | n, e :: es => by rw [counted, List.length_cons, List.length_cons, length_counted (n + 1) es]

theorem foldl_addEdge_edges : ∀ (es : List (Text × Text × Option Text)) (canvas : Canvas),
    (es.foldl addEdge canvas).edges = canvas.edges ++ counted canvas.edges.length es
  | [], canvas => (List.append_nil canvas.edges).symm
  | e :: es, canvas => by
    rw [List.foldl_cons, foldl_addEdge_edges es, addEdge, counted, List.append_assoc,
      List.length_append]
    rfl

theorem addNodes_edges {known : List Shape} : ∀ (ls : List Text) (canvas : Canvas),
    (ls.foldl (addNode known) canvas).edges = canvas.edges
  | [], _ => rfl
  | label :: ls, canvas => by
    rw [List.foldl_cons, addNodes_edges ls]
    rcases addNode_cases known canvas label with ⟨_, h⟩ | ⟨_, h⟩ <;> rw [h]

/-- Connecting adds the edges of all links, in order, behind the edges there are. -/
theorem connect_edges (canvas : Canvas) (arrows : List Arrow) (operands : List (Option Text)) :
    (canvas.connect arrows operands).edges = canvas.edges ++
      counted canvas.edges.length ((links arrows operands).flatMap linkEdges) :=
  foldl_addEdge_edges _ canvas

/-- Connecting operands that are nodes, by arrows with proper labels, keeps a canvas sound. -/
theorem connect_sound {canvas : Canvas} {arrows : List Arrow} {operands : List (Option Text)}
    (hc : canvas.Sound) (ho : ∀ label, some label ∈ operands → label ∈ canvas.labels)
    (ha : ∀ arrow ∈ arrows, ∀ label, arrow.label = some label → IsEdgeLabel label) :
    (canvas.connect arrows operands).Sound := by
  refine foldl_addEdge_sound _ hc fun e he => ?_
  obtain ⟨link, hlink, hmem⟩ := List.mem_flatMap.mp he
  obtain ⟨arrow, left, right, rfl, hlabel, hends⟩ := linkEdges_cases hmem
  obtain ⟨harrow, hleft, hright⟩ := mem_of_mem_links hlink
  refine ⟨?_, ?_, fun label hl => ha arrow harrow label (hlabel ▸ hl)⟩
  · rcases hends with ⟨h, _⟩ | ⟨h, _⟩ <;> rw [h]
    · exact ho left hleft
    · exact ho right hright
  · rcases hends with ⟨_, h⟩ | ⟨_, h⟩ <;> rw [h]
    · exact ho right hright
    · exact ho left hleft

theorem connect_nodes (canvas : Canvas) (arrows : List Arrow) (operands : List (Option Text)) :
    (canvas.connect arrows operands).nodes = canvas.nodes :=
  foldl_addEdge_nodes _ canvas

theorem connect_labels (canvas : Canvas) (arrows : List Arrow) (operands : List (Option Text)) :
    (canvas.connect arrows operands).labels = canvas.labels :=
  foldl_addEdge_labels _ canvas

theorem connect_numbering (canvas : Canvas) (arrows : List Arrow)
    (operands : List (Option Text)) :
    (canvas.connect arrows operands).numbering = canvas.numbering :=
  foldl_addEdge_numbering _ canvas

end Canvas

end GraphSketch
