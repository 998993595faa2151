import GraphSketch.Proofs.Document.Effects
import GraphSketch.Proofs.Execution.Answers
import GraphSketch.Proofs.Picture.Render

/-!
# Documents made from diagrams

A diagram is written down as a document, commands are carried out on it any number of times, and it
may be given fields that no picture is made from.  Whatever commands do, the document goes on
depicting the diagram: each of its nodes is there with its id, its number and its shape, and its
label and its style are such as commands can set.

* `Document.MadeFrom` — the documents that come about in this way.
* `Document.Depicts` — what is true of them, as `MadeFrom.depicts` says.
-/

set_option autoImplicit false

namespace GraphSketch

open Json (textField)

/-! ## What commands set -/

/-- A text that may be the value of a colour. -/
def IsColour (t : Text) : Prop := t ≠ [] ∧ ∀ c ∈ t, isColourChar c = true

theorem setting?_ne_nil {name : Text} {accept : Char → Bool} {value : Text} : ∀ {t : Text},
    setting? name accept t = some value → value ≠ []
  | [], h => by cases h
  | c :: cs, h => by
    rw [setting?, Option.orElse_eq_orElse, Option.orElse_eq_or, Option.or_eq_some_iff] at h
    rcases h with h | ⟨-, h⟩
    · simp only [settingAt?, Option.bind_eq_bind, Option.bind_eq_some_iff] at h
      obtain ⟨rest, -, h⟩ := h
      split at h
      · cases h
      · rename_i hne
        rw [Option.some.injEq] at h
        rw [← h]
        simpa using hne
    · exact setting?_ne_nil h

/-- Both colours of a style are texts that a colour may be. -/
structure Style.Proper (style : Style) : Prop where
  fill : ∀ t, style.fill = some t → IsColour t
  stroke : ∀ t, style.stroke = some t → IsColour t

/-- **A style that is read is proper.** -/
theorem Style.proper_of_read {params : Text} {style : Style} (h : read params = .ok style) :
    style.Proper := by
  have hcolour : ∀ name t, setting? name isColourChar params = some t → IsColour t :=
    fun _ _ h => ⟨setting?_ne_nil h, mem_setting? h⟩
  unfold read at h
  split at h
  · cases h
    exact ⟨hcolour _, hcolour _⟩
  · rename_i digits _
    cases hwidth : Numeral.ofDigits (digits.filterMap digitValue?) with
    | error fault =>
      rw [hwidth] at h
      cases h
    | ok n =>
      rw [hwidth] at h
      cases h
      exact ⟨hcolour _, hcolour _⟩

/-- A style that an action sets is proper. -/
def Action.Proper : Action → Prop
  | style _ given => given.Proper
  | _ => True

/-- **Requests set proper styles only.** -/
theorem Request.proper_actions (nodes : List Node) (request : Request) :
    ∀ action ∈ request.actions nodes, action.Proper := by
  have hdoes := request.does nodes
  generalize request.actions nodes = actions, request.answer nodes = answer at hdoes
  cases hdoes with
  | styled hfind hread hstyle =>
    simpa [Action.Proper] using Style.proper_of_read hread
  | unread | notFound | unnamed | renamed | unstyled | shown | laidOut => simp [Action.Proper]

theorem proper_of_executeAll {nodes : List Node} {requests : List Request} {actions : List Action}
    {answers : Except OversizedNumeral (List Bool)}
    (h : journal.executeAll nodes [] requests = (actions, answers)) :
    ∀ action ∈ actions, action.Proper := by
  have hflat : ∀ requests : List Request,
      ∀ action ∈ requests.flatMap (·.actions nodes), action.Proper :=
    fun _ => List.forall_mem_flatMap.mpr fun request _ => request.proper_actions nodes
  cases answers with
  | ok results =>
    obtain ⟨-, rfl⟩ := (Sink.executeAll_eq_ok_iff journal nodes).mp h
    rw [Sink.acceptAll_journal]
    exact hflat _
  | error fault =>
    obtain ⟨pre, request, -, -, -, -, -, rfl⟩ := (Sink.executeAll_eq_error_iff journal nodes).mp h
    rw [Sink.acceptAll_journal]
    exact hflat _

namespace Document

/-- A value that commands give to a field of a node: a label, a width or a colour. -/
def IsSetting (key : Text) (v : Json) : Prop :=
  if key = "label" then ∃ t, v = .str t
  else if key = "strokeWidth" then ∃ n : Nat, v = .int n
  else ∃ t, v = .str t ∧ IsColour t

theorem isSetting_of_mem_fields {style : Style} (h : style.Proper) :
    ∀ e ∈ style.fields, IsSetting e.1 e.2 := by
  intro e he
  simp only [Style.fields, List.mem_append, Option.mem_toList, Option.map_eq_some_iff] at he
  rcases he with (⟨t, ht, rfl⟩ | ⟨t, ht, rfl⟩) | ⟨_, hwidth, rfl⟩
  · exact ⟨t, rfl, h.fill t ht⟩
  · exact ⟨t, rfl, h.stroke t ht⟩
  · obtain ⟨n, -, hn⟩ := Option.bind_eq_some_iff.mp hwidth
    cases hn
    exact ⟨n, rfl⟩

/-- What an action sets is such a value, in one of the fields for them. -/
theorem isSetting_of_mem_settings {label : Text} {action : Action} (h : action.Proper) :
    ∀ e ∈ action.settings label, IsSetting e.1 e.2 := by
  intro e he
  cases action with
  | style target given =>
    rw [Action.settings] at he
    split at he
    · exact isSetting_of_mem_fields h e he
    · cases he
  | rename target newLabel =>
    rw [Action.settings] at he
    split at he
    · rw [List.mem_singleton.mp he]
      exact ⟨newLabel, rfl⟩
    · cases he
  | _ => cases he

/-! ## Items that depict nodes -/

/-- An item depicts a node: it has the id, the number and the shape of the node, and a label and
settings such as commands give. -/
structure NodeItem (node : Node) (item : Json) : Prop where
  id : item.field? "id" = some (.str node.label)
  number : item.field? "numericId" = some (.int node.number)
  shape : item.field? "shape" = some (.str node.shape.name)
  labelled : (item.field? "label").isSome
  setting : ∀ key ∈ styleNames, ∀ v, item.field? key = some v → IsSetting key v

theorem nodeItem_toJson (node : Node) : NodeItem node node.toJson := by
  refine ⟨rfl, rfl, rfl, rfl, fun key hkey v hv => ?_⟩
  simp only [styleNames, List.mem_cons, List.not_mem_nil, or_false] at hkey
  rcases hkey with rfl | rfl | rfl | rfl
  · exact ⟨node.label, (Option.some.inj hv).symm⟩
  · cases hv
  · cases hv
  · cases hv

namespace NodeItem

variable {node : Node} {item : Json}

theorem setFields {fields : List (Text × Json)} (h : NodeItem node item)
    (hkeys : ∀ e ∈ fields, e.1 ∈ styleNames) (hvalues : ∀ e ∈ fields, IsSetting e.1 e.2) :
    NodeItem node (setFields fields item) := by
  have hsame := sameBut_setFields hkeys item
  obtain ⟨old, rfl⟩ : ∃ old, item = .obj old := by
    cases item with
    | obj old => exact ⟨old, rfl⟩
    | _ => cases h.id
  refine ⟨?_, ?_, ?_, ?_, fun key hkey v hv => ?_⟩
  · rw [hsame "id" (by decide)]
    exact h.id
  · rw [hsame "numericId" (by decide)]
    exact h.number
  · rw [hsame "shape" (by decide)]
    exact h.shape
  · rw [field?_setFields, Option.isSome_or, h.labelled, Bool.or_true]
  · rw [field?_setFields] at hv
    cases hlast : OrderedMap.last? fields key with
    | none =>
      rw [hlast, Option.none_or] at hv
      exact h.setting key hkey v hv
    | some w =>
      rw [hlast, Option.some_or, Option.some.injEq] at hv
      exact hv ▸ hvalues _ (OrderedMap.mem_of_last?_eq_some hlast)

theorem exists_label (h : NodeItem node item) : ∃ t, item.field? "label" = some (.str t) := by
  obtain ⟨v, hv⟩ := Option.isSome_iff_exists.mp h.labelled
  obtain ⟨t, rfl⟩ : ∃ t, v = .str t := h.setting "label" (by decide) v hv
  exact ⟨t, hv⟩

end NodeItem

/-! ## Documents that depict diagrams -/

/-- A document depicts a diagram: it has the nodes of the diagram in their order, its edges as they
are, and texts for everything else that matters to a picture. -/
structure Depicts (d : Diagram) (document : Document) : Prop where
  title : ∃ t, document.get? "title" = some (.str t)
  orientation : ∃ t, document.get? "orientation" = some (.str t)
  nodes : ∃ items, document.get? "nodes" = some (.arr items) ∧ List.Forall₂ NodeItem d.nodes items
  edges : document.get? "edges" = some (.arr (d.edges.map Edge.toJson))
  layout : ∀ v, document.get? "layout" = some v → ∃ kind, v = .str kind

/-- The documents that are made from a diagram. -/
inductive MadeFrom (d : Diagram) : Document → Prop
  /-- The diagram is written down. -/
  | written (title : Text) (orientation : Option Text) :
      MadeFrom d (ofDiagram title orientation d)
  /-- A field is set that no picture is made from. -/
  | noted {document : Document} (h : MadeFrom d document) (key : Text)
      (hkey : key ∉ "layout".toList :: Picture.sourceNames) (v : Json) :
      MadeFrom d (document.put key v)
  /-- Commands are carried out, to their end or not. -/
  | executed {document after : Document} {nodes : List Node} {requests : List Request}
      {actions : List Action} {answers : Except OversizedNumeral (List Bool)}
      (h : MadeFrom d document)
      (hrun : document.execute nodes requests = .ok (actions, after, answers)) :
      MadeFrom d after

theorem depicts_ofDiagram (title : Text) (orientation : Option Text) (d : Diagram) :
    Depicts d (ofDiagram title orientation d) where
  title := ⟨_, rfl⟩
  orientation := ⟨_, rfl⟩
  nodes := ⟨d.nodes.map Node.toJson, rfl, by
    rw [List.forall₂_map_right_iff, List.forall₂_same]
    exact fun node _ => nodeItem_toJson node⟩
  edges := rfl
  layout := by
    intro v hv
    rw [get?_layout_ofDiagram] at hv
    cases hv

namespace Depicts

variable {d : Diagram} {document : Document}

/-- A field that has nothing to do with the diagram may be set. -/
theorem put (h : Depicts d document) {key : Text}
    (hkey : key ∉ "layout".toList :: Picture.sourceNames) (v : Json) :
    Depicts d (OrderedMap.put document key v) := by
  have hother : ∀ name ∈ "layout".toList :: Picture.sourceNames,
      OrderedMap.get? (OrderedMap.put document key v) name = document.get? name :=
    fun name hname => OrderedMap.get?_put_of_ne _ _ fun he => hkey (he ▸ hname)
  refine ⟨?_, ?_, ?_, ?_, ?_⟩
  · rw [hother "title" (by decide)]
    exact h.title
  · rw [hother "orientation" (by decide)]
    exact h.orientation
  · rw [hother "nodes" (by decide)]
    exact h.nodes
  · rw [hother "edges" (by decide)]
    exact h.edges
  · rw [hother "layout" (by decide)]
    exact h.layout

theorem foldl_apply (h : Depicts d document) {actions : List Action}
    (hproper : ∀ action ∈ actions, action.Proper) :
    Depicts d (actions.foldl apply document) := by
  obtain ⟨items, hitems, hnodes⟩ := h.nodes
  refine ⟨?_, ?_, ?_, ?_, fun v hv => ?_⟩
  · rw [get?_foldl_apply (by decide)]
    exact h.title
  · rw [get?_foldl_apply (by decide)]
    exact h.orientation
  · rw [get?_nodes_foldl_apply, hitems]
    refine ⟨_, rfl, ?_⟩
    -- whatever node an item depicts, it still does when fields are set in it
    have hset : ∀ label, ∀ e ∈ actions.flatMap (·.settings label),
        e.1 ∈ styleNames ∧ IsSetting e.1 e.2 := by
      intro label e he
      obtain ⟨action, hmem, hset⟩ := List.mem_flatMap.mp he
      exact ⟨mem_styleNames_of_mem_settings e hset,
        isSetting_of_mem_settings (hproper action hmem) e hset⟩
    have hkept := forall₂_restyle
      (R := fun item changed => ∀ node, NodeItem node item → NodeItem node changed)
      (fun _ _ h => h) (fun label _ _ h => h.setFields (fun e he => (hset label e he).1)
        fun e he => (hset label e he).2) items
    rw [List.forall₂_iff_get] at hnodes hkept ⊢
    obtain ⟨hlength, hnodes⟩ := hnodes
    obtain ⟨hlength', hkept⟩ := hkept
    exact ⟨hlength.trans hlength', fun i hi hi' =>
      hkept i (hlength ▸ hi) hi' _ (hnodes i hi (hlength ▸ hi))⟩
  · rw [get?_foldl_apply (by decide)]
    exact h.edges
  · rw [get?_layout_foldl_apply] at hv
    cases hlast : (actions.filterMap Action.layout?).getLast? with
    | some kind =>
      rw [hlast] at hv
      exact ⟨kind, (Option.some.inj hv).symm⟩
    | none =>
      rw [hlast] at hv
      exact h.layout v hv

end Depicts

/-- **A document that is made from a diagram depicts it.** -/
theorem MadeFrom.depicts {d : Diagram} {document : Document} (h : MadeFrom d document) :
    Depicts d document := by
  induction h with
  | written title orientation => exact depicts_ofDiagram title orientation d
  | noted _ key hkey v ih => exact ih.put hkey v
  | executed _ hrun ih =>
    obtain ⟨-, hjournal, rfl, -⟩ := execute_eq_ok_iff.mp hrun
    exact ih.foldl_apply (proper_of_executeAll hjournal)

/-- Further fields that no picture is made from may be set when the diagram is written down. -/
theorem MadeFrom.addFields {d : Diagram} : ∀ {extras : List (Text × Json)} {document : Document},
    MadeFrom d document →
    (∀ e ∈ extras, e.1 ∉ "layout".toList :: Picture.sourceNames) →
      MadeFrom d (document.addFields extras)
  | [], _, h, _ => h
  | e :: extras, document, h, hextras => by
    obtain ⟨hfirst, hrest⟩ := List.forall_mem_cons.mp hextras
    rw [Document.addFields, List.foldl_cons]
    split
    · exact addFields h hrest
    · exact addFields (h.noted e.1 hfirst _) hrest

end Document

end GraphSketch
