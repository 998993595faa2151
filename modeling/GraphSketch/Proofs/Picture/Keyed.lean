import GraphSketch.Proofs.OrderedMap
import GraphSketch.Proofs.Picture.Render
import GraphSketch.Proofs.Text.Trim

/-!
# Keys of nodes

A picture calls the nodes of a document by their keys.  A key is made from the number of its node,
or it is the id of a node that has no number, so two nodes may come to have one key.

* `Picture.KeyedNode` — what the key of a node is made from.
* `Picture.KeyedNode.key_eq_key_iff` — when two nodes have one key.
* `Picture.keys_of_standFor` — the table of the keys of nodes with different ids.
* `Picture.key_of_nodeOf`, `Picture.edgeOf_of_ids` — nodes and edges are drawn with these keys.
-/

set_option autoImplicit false

namespace GraphSketch

namespace Picture

/-- What the key of a node is made from: its id, and its number if it has one. -/
structure KeyedNode where
  id : Text
  number : Option Json

namespace KeyedNode

/-- The key of a node. -/
def key (node : KeyedNode) : Text :=
  match node.number with
  | none => node.id
  | some number => 'n' :: number.spelling

/-- What fields say of the number of a node. -/
def numberOf (fields : OrderedMap Text Json) : Option Json :=
  match fields.get? "numericId" with
  | none | some .null => none
  | some number => some number

/-- An item of a document that is a node with this id and number. -/
structure StandsFor (node : KeyedNode) (fields : OrderedMap Text Json) : Prop where
  id : fields.get? "id" = some (.str node.id)
  number : numberOf fields = node.number

/-- Two nodes of which the keys are alike: they have one number, or one id and no numbers, or one of
them is called what the other is numbered. -/
inductive Clash : KeyedNode → KeyedNode → Prop
  | numbers {id id' : Text} {number number' : Json} (h : number.spelling = number'.spelling) :
      Clash ⟨id, some number⟩ ⟨id', some number'⟩
  | ids {id : Text} : Clash ⟨id, none⟩ ⟨id, none⟩
  | left {id : Text} {number : Json} : Clash ⟨'n' :: number.spelling, none⟩ ⟨id, some number⟩
  | right {id : Text} {number : Json} : Clash ⟨id, some number⟩ ⟨'n' :: number.spelling, none⟩

/-- **When two nodes have one key.** -/
theorem key_eq_key_iff {node node' : KeyedNode} : node.key = node'.key ↔ Clash node node' := by
  constructor
  · intro h
    obtain ⟨id, number⟩ := node
    obtain ⟨id', number'⟩ := node'
    cases number with
    | none =>
      cases number' with
      | none =>
        obtain rfl : id = id' := h
        exact .ids
      | some number' =>
        obtain rfl : id = 'n' :: number'.spelling := h
        exact .left
    | some number =>
      cases number' with
      | none =>
        obtain rfl : 'n' :: number.spelling = id' := h
        exact .right
      | some number' => exact .numbers (List.cons.inj h).2
  · intro h
    cases h with
    | numbers h => exact congrArg (List.cons 'n') h
    | ids => rfl
    | left => rfl
    | right => rfl

example : (⟨"n1", none⟩ : KeyedNode).key = (⟨"A", some (.int 1)⟩ : KeyedNode).key := by decide

/-- A node with a number has a key, and one without a number if it has an id. -/
theorem key_ne_nil {node : KeyedNode} (h : node.id ≠ []) : node.key ≠ [] := by
  obtain ⟨id, number⟩ := node
  cases number with
  | none => exact h
  | some number => exact List.cons_ne_nil _ _

theorem StandsFor.nodeKey_eq {node : KeyedNode} {fields : OrderedMap Text Json}
    (h : node.StandsFor fields) : nodeKey fields = node.key := by
  rw [nodeKey, key, ← h.number, numberOf, h.id]
  cases fields.get? "numericId" with
  | none => rfl
  | some number => cases number <;> rfl

/-- The keys of nodes by their ids. -/
def table (nodes : List KeyedNode) : OrderedMap NodeId Text :=
  nodes.map fun node => (.text node.id, node.key)

theorem keys_table (nodes : List KeyedNode) :
    OrderedMap.keys (table nodes) = (nodes.map (·.id)).map .text := by
  simp only [OrderedMap.keys, table, List.map_map]
  rfl

variable {nodes : List KeyedNode}

theorem nodup_keys_table (h : (nodes.map (·.id)).Nodup) : (OrderedMap.keys (table nodes)).Nodup := by
  rw [keys_table]
  exact h.map fun _ _ => NodeId.text.inj

theorem get?_table (h : (nodes.map (·.id)).Nodup) {node : KeyedNode} (hmem : node ∈ nodes) :
    (table nodes).get? (.text node.id) = some node.key :=
  (OrderedMap.get?_eq_some_iff (nodup_keys_table h)).mpr (List.mem_map.mpr ⟨node, hmem, rfl⟩)

end KeyedNode

open KeyedNode (table keys_table get?_table)

/-! ## Nodes and edges of documents -/

theorem addKey_of_standsFor (before : OrderedMap NodeId Text) {node : KeyedNode}
    {fields : OrderedMap Text Json} (h : node.StandsFor fields) :
    addKey before (.obj fields) = .ok (before.put (.text node.id) node.key) := by
  simp only [addKey, Document.fieldsOf, bind, Except.bind, h.id, Document.idOf, h.nodeKey_eq, pure,
    Except.pure]

/-- **The table of the keys** of nodes with different ids has one entry for each of them. -/
theorem keys_of_standFor {nodes : List KeyedNode} {items : List (OrderedMap Text Json)}
    (h : List.Forall₂ KeyedNode.StandsFor nodes items) (hnodup : (nodes.map (·.id)).Nodup) :
    keys (items.map .obj) = .ok (table nodes) := by
  -- the items that are left add the keys of their nodes to those that are there
  suffices hfrom : ∀ {nodes : List KeyedNode} {items : List (OrderedMap Text Json)},
      List.Forall₂ KeyedNode.StandsFor nodes items → ∀ before : List KeyedNode,
        ((before ++ nodes).map (·.id)).Nodup →
          (items.map Json.obj).foldlM addKey (table before) = .ok (table (before ++ nodes)) from
    hfrom h [] hnodup
  intro nodes items h
  induction h with
  | nil =>
    intro before _
    rw [List.append_nil]
    rfl
  | @cons node fields nodes items hitem _ ih =>
    intro before hnodup
    have hnew : NodeId.text node.id ∉ OrderedMap.keys (table before) := by
      rw [keys_table, List.mem_map_of_injective fun _ _ => NodeId.text.inj]
      rw [List.map_append, List.nodup_append] at hnodup
      exact fun hmem => hnodup.2.2 _ hmem _ (List.mem_map_of_mem List.mem_cons_self) rfl
    have hput : table before ++ [(NodeId.text node.id, node.key)] = table (before ++ [node]) := by
      simp only [table, List.map_append, List.map_cons, List.map_nil]
    rw [List.map_cons, List.foldlM_cons, addKey_of_standsFor _ hitem, OrderedMap.put_of_notMem hnew,
      hput]
    show (items.map Json.obj).foldlM addKey (table (before ++ [node])) = _
    rw [ih (before ++ [node]) (by rwa [List.append_assoc]), List.append_assoc]
    rfl

variable {nodes : List KeyedNode}

theorem key_of_nodeOf (hnodup : (nodes.map (·.id)).Nodup) {node : KeyedNode} (hmem : node ∈ nodes)
    {fields : OrderedMap Text Json} (hitem : node.StandsFor fields) {drawn : Node}
    (h : nodeOf (table nodes) (.obj fields) = .ok drawn) : drawn.key = node.key := by
  obtain ⟨_, hfields, h⟩ := bind_eq_ok_iff.mp h
  cases hfields
  obtain ⟨id, hid, h⟩ := bind_eq_ok_iff.mp h
  rw [hitem.id] at hid
  cases hid
  rw [Option.bind_some, get?_table hnodup hmem] at h
  obtain ⟨label, -, h⟩ := bind_eq_ok_iff.mp h
  obtain ⟨shape, -, h⟩ := bind_eq_ok_iff.mp h
  cases h
  rfl

theorem map_key_of_nodeOf (hnodup : (nodes.map (·.id)).Nodup) {part : List KeyedNode}
    (hpart : ∀ node ∈ part, node ∈ nodes) {items : List (OrderedMap Text Json)} {drawn : List Node}
    (hitems : List.Forall₂ KeyedNode.StandsFor part items)
    (h : List.Forall₂ (fun fields node => nodeOf (table nodes) (.obj fields) = .ok node) items drawn) :
    drawn.map (·.key) = part.map KeyedNode.key := by
  induction hitems generalizing drawn with
  | nil =>
    cases h
    rfl
  | cons hitem _ ih =>
    obtain ⟨hnode, hpart⟩ := List.forall_mem_cons.mp hpart
    cases h with
    | cons hfirst hrest =>
      rw [List.map_cons, List.map_cons, key_of_nodeOf hnodup hnode hitem hfirst, ih hpart hrest]

theorem endOf_table (hnodup : (nodes.map (·.id)).Nodup) {node : KeyedNode} (hmem : node ∈ nodes)
    (hkey : node.key ≠ []) : endOf (table nodes) (some (.str node.id)) = .ok (some node.key) := by
  have hsame : node.key.nonEmpty? = some node.key := Text.nonEmpty?_eq_some_iff.mpr ⟨hkey, rfl⟩
  simp only [endOf, Document.idOf, Except.map, Option.bind_some, get?_table hnodup hmem, hsame]

/-- **An edge between two nodes is drawn between their keys.** -/
theorem edgeOf_of_ids (hnodup : (nodes.map (·.id)).Nodup) (hids : ∀ node ∈ nodes, node.id ≠ [])
    {source target : KeyedNode} (hsource : source ∈ nodes) (htarget : target ∈ nodes)
    {fields : OrderedMap Text Json} (hfrom : fields.get? "source" = some (.str source.id))
    (hto : fields.get? "target" = some (.str target.id)) {line : Option Edge}
    (h : edgeOf (table nodes) (.obj fields) = .ok line) :
    ∃ label, line = some ⟨source.key, target.key, label⟩ := by
  obtain ⟨_, hfields, h⟩ := bind_eq_ok_iff.mp h
  cases hfields
  have hkey : ∀ node ∈ nodes, node.key ≠ [] := fun node hnode =>
    KeyedNode.key_ne_nil (hids node hnode)
  rw [hfrom, hto, endOf_table hnodup hsource (hkey source hsource),
    endOf_table hnodup htarget (hkey target htarget)] at h
  obtain ⟨_, hends, h⟩ := bind_eq_ok_iff.mp h
  cases hends
  obtain ⟨_, hends, h⟩ := bind_eq_ok_iff.mp h
  cases hends
  obtain ⟨label, -, h⟩ := bind_eq_ok_iff.mp h
  cases h
  exact ⟨_, rfl⟩

theorem exists_of_ofDocument_eq_ok {document : Document} {picture : Picture}
    (h : ofDocument document = .ok picture) : ∃ items found edges lines,
      document.parts "nodes" = .ok items ∧ keys items = .ok found ∧
        items.mapM (nodeOf found) = .ok picture.nodes ∧ document.parts "edges" = .ok edges ∧
          edges.mapM (edgeOf found) = .ok lines ∧ picture.edges = lines.filterMap id := by
  obtain ⟨orientation, -, h⟩ := bind_eq_ok_iff.mp h
  obtain ⟨items, hitems, h⟩ := bind_eq_ok_iff.mp h
  obtain ⟨found, hfound, h⟩ := bind_eq_ok_iff.mp h
  obtain ⟨drawn, hdrawn, h⟩ := bind_eq_ok_iff.mp h
  obtain ⟨edges, hedges, h⟩ := bind_eq_ok_iff.mp h
  obtain ⟨lines, hlines, h⟩ := bind_eq_ok_iff.mp h
  cases h
  exact ⟨items, found, edges, lines, hitems, hfound, hdrawn, hedges, hlines, rfl⟩

end Picture

end GraphSketch
