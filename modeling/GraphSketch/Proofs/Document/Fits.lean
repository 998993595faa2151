import GraphSketch.Proofs.Document.Changed
import GraphSketch.Proofs.Json.RoundTrip

/-!
# Documents in files

A document that is written to a file is read back as it was (`Document.Fits`).  No number in it
has a fraction, no object has two fields of one name, and arrays and objects lie in one another
four levels deep at most, the document itself among them.

* `fits_ofDiagram` — so it is with the document of any diagram.  Each part has a lemma of its own
  (`Node.fitsIn_toJson` and so on); the names of the fields are told apart by `fieldNames`.
* `fits_apply` — actions keep it so: a style has texts and whole numbers as its values.
* `fits_executeAll` — so do commands, since what every action preserves holds after any commands;
  and `fits_put_actions` — the list of actions that a run adds.

Whether all integers of a document can be written is another matter (`Json.isWritable`).
-/

set_option autoImplicit false

namespace GraphSketch

open Json (FitsIn fitsIn_arr fitsIn_obj textField intField listField)

/-! ## Parts of a document -/

theorem Node.fitsIn_toJson (node : Node) : FitsIn 1 node.toJson := by
  have hnames : (["id", "label", "shape", "numericId", "order"] : List Text).Nodup := by decide
  exact fitsIn_obj.mpr ⟨hnames, by simp [textField, intField]⟩

theorem Edge.fitsIn_toJson (e : Edge) : FitsIn 1 e.toJson := by
  have hnames : (["id", "source", "target", "label"] : List Text).Nodup := by decide
  have hlabel : (OrderedMap.keys e.labelField).Sublist ["label"] ∧
      ∀ x ∈ e.labelField, FitsIn 0 x.2 := by
    unfold labelField
    split
    · exact ⟨List.Sublist.refl _, by simp [textField]⟩
    · exact ⟨List.nil_sublist _, by simp⟩
  refine fitsIn_obj.mpr ⟨hnames.sublist ?_, ?_⟩
  · rw [OrderedMap.keys, List.map_append]
    exact (List.Sublist.refl (["id", "source", "target"] : List Text)).append hlabel.1
  · exact List.forall_mem_append.mpr ⟨by simp [textField], hlabel.2⟩

theorem Request.fitsIn_toJson (request : Request) : FitsIn 1 request.toJson := by
  cases request with
  | select ref params =>
    have hnames : (["type", "ref", "params"] : List Text).Nodup := by decide
    have hparams : ∀ fields : List (Text × Json),
        fields = (if params.isEmpty then [] else [textField "params" params]) →
        (OrderedMap.keys fields).Sublist ["params"] ∧ ∀ x ∈ fields, FitsIn 0 x.2 := by
      rintro _ rfl
      split
      · exact ⟨List.nil_sublist _, by simp⟩
      · exact ⟨List.Sublist.refl _, by simp [textField]⟩
    obtain ⟨hkeys, hfields⟩ := hparams _ rfl
    refine fitsIn_obj.mpr ⟨hnames.sublist ?_,
      List.forall_mem_append.mpr ⟨by simp [textField], hfields⟩⟩
    rw [OrderedMap.keys, List.map_append]
    exact (List.Sublist.refl (["type", "ref"] : List Text)).append hkeys
  | rename ref label =>
    have hnames : (["type", "oldRef", "newLabel"] : List Text).Nodup := by decide
    exact fitsIn_obj.mpr ⟨hnames, by simp [textField]⟩
  | layout kind =>
    have hnames : (["type", "kind"] : List Text).Nodup := by decide
    exact fitsIn_obj.mpr ⟨hnames, by simp [textField]⟩

theorem LineError.fitsIn_toJson (e : LineError) : FitsIn 1 e.toJson := by
  have hnames : (["line", "text", "message"] : List Text).Nodup := by decide
  exact fitsIn_obj.mpr ⟨hnames, by simp [textField, intField]⟩

theorem Style.fitsIn_fields (style : Style) : FitsIn 1 (.obj style.fields) := by
  have hnames : (["fill", "stroke", "strokeWidth"] : List Text).Nodup := by decide
  have hpart : ∀ {α : Type} (o : Option α) (f : α → Text × Json) (key : Text),
      (∀ x, (f x).1 = key) → ((o.map f).toList.map (·.1)).Sublist [key] := by
    intro α o f key hf
    cases o with
    | none => exact List.nil_sublist _
    | some x => exact List.singleton_sublist.mpr (by simp [hf])
  refine fitsIn_obj.mpr ⟨hnames.sublist ?_, fun e he => ?_⟩
  · rw [OrderedMap.keys, Style.fields, List.map_append, List.map_append]
    exact ((hpart _ _ "fill" fun _ => rfl).append (hpart _ _ "stroke" fun _ => rfl)).append
      (hpart _ _ "strokeWidth" fun _ => rfl)
  · simp only [Style.fields, List.mem_append, Option.mem_toList, Option.map_eq_some_iff] at he
    rcases he with (⟨_, _, rfl⟩ | ⟨_, _, rfl⟩) | ⟨_, _, rfl⟩ <;> trivial

theorem Action.fitsIn_toJson (action : Action) : FitsIn 2 action.toJson := by
  cases action with
  | style label settings =>
    exact fitsIn_arr.mpr (by simp [settings.fitsIn_fields])
  | layout kind labels =>
    have hlabels : FitsIn 1 (.arr (labels.map .str)) := fitsIn_arr.mpr (by simp)
    exact fitsIn_arr.mpr (by simp [hlabels])
  | select _ => exact fitsIn_arr.mpr (by simp)
  | inspect _ => exact fitsIn_arr.mpr (by simp)
  | rename _ _ => exact fitsIn_arr.mpr (by simp)
  | error _ => exact fitsIn_arr.mpr (by simp)

namespace Document

/-- A document that can be read back from a file. -/
def Fits (document : Document) : Prop := FitsIn 4 (.obj document)

/-! ## The document of a diagram -/

theorem keys_optionalList (key : Text) (items : List Json) :
    (OrderedMap.keys (optionalList key items)).Sublist [key] := by
  unfold optionalList
  split
  · exact List.nil_sublist _
  · exact List.Sublist.refl _

theorem fitsIn_optionalList {n : Nat} (key : Text) {items : List Json}
    (h : ∀ item ∈ items, FitsIn n item) : ∀ e ∈ optionalList key items, FitsIn (n + 1) e.2 := by
  unfold optionalList
  split
  · exact List.forall_mem_nil _
  · exact List.forall_mem_singleton.mpr (fitsIn_arr.mpr h)

theorem forall_mem_map_fitsIn {α : Type} {n : Nat} {f : α → Json} (hf : ∀ x, FitsIn n (f x))
    (xs : List α) : ∀ item ∈ xs.map f, FitsIn n item := by
  intro item hitem
  obtain ⟨x, -, rfl⟩ := List.mem_map.mp hitem
  exact hf x

/-- The fields that the document of a diagram may have. -/
def fieldNames : List Text :=
  ["title", "orientation", "nodes", "edges", "commands", "warnings", "errors"]

variable (title : Text) (orientation : Option Text) (diagram : Diagram)

theorem keys_ofDiagram :
    (OrderedMap.keys (ofDiagram title orientation diagram)).Sublist fieldNames := by
  rw [OrderedMap.keys, ofDiagram, List.map_append, List.map_append]
  exact ((List.Sublist.refl (["title", "orientation", "nodes", "edges", "commands"] :
    List Text)).append (keys_optionalList _ _)).append (keys_optionalList _ _)

theorem get?_layout_ofDiagram : (ofDiagram title orientation diagram).get? "layout" = none :=
  (OrderedMap.get?_eq_none_iff _ _).mpr fun h =>
    absurd ((keys_ofDiagram title orientation diagram).subset h) (by decide)

theorem fits_ofDiagram : (ofDiagram title orientation diagram).Fits := by
  have hnodes : FitsIn 2 (.arr (diagram.nodes.map Node.toJson)) :=
    fitsIn_arr.mpr (forall_mem_map_fitsIn Node.fitsIn_toJson _)
  have hedges : FitsIn 2 (.arr (diagram.edges.map Edge.toJson)) :=
    fitsIn_arr.mpr (forall_mem_map_fitsIn Edge.fitsIn_toJson _)
  have hcommands : FitsIn 2 (.arr (diagram.commands.map (·.request.toJson))) :=
    fitsIn_arr.mpr (forall_mem_map_fitsIn (fun c => c.request.fitsIn_toJson) _)
  have hwarnings := fitsIn_optionalList "warnings"
    (forall_mem_map_fitsIn (fun w => Json.fitsIn_str 1 (Warning.message w)) diagram.warnings)
  have herrors := fitsIn_optionalList "errors"
    (forall_mem_map_fitsIn LineError.fitsIn_toJson diagram.errors)
  have hnames : fieldNames.Nodup := by decide
  have hbuilt : FitsIn 3 (.obj (ofDiagram title orientation diagram)) := by
    refine fitsIn_obj.mpr ⟨hnames.sublist (keys_ofDiagram title orientation diagram), ?_⟩
    refine List.forall_mem_append.mpr ⟨List.forall_mem_append.mpr ⟨?_, hwarnings⟩, herrors⟩
    simp [textField, listField, hnodes, hedges, hcommands]
  exact hbuilt.succ

/-! ## After commands -/

variable {document : Document}

theorem fitsIn_setFields {n : Nat} {fields : List (Text × Json)}
    (hfields : ∀ e ∈ fields, FitsIn n e.2) {item : Json} (h : FitsIn (n + 1) item) :
    FitsIn (n + 1) (setFields fields item) := by
  cases item with
  | obj old =>
    show FitsIn (n + 1) (.obj (fields.foldl (fun m e => OrderedMap.put m e.1 e.2) old))
    induction fields generalizing old with
    | nil => exact h
    | cons e fields ih =>
      obtain ⟨he, hrest⟩ := List.forall_mem_cons.mp hfields
      exact ih hrest _ (h.put he e.1)
  | _ => exact h

theorem fits_setNode (h : document.Fits) (id : Text) {fields : List (Text × Json)}
    (hfields : ∀ e ∈ fields, FitsIn 1 e.2) : (document.setNode id fields).Fits := by
  unfold setNode
  split
  · rename_i nodes hnodes
    have hall : ∀ item ∈ nodes, FitsIn 2 item := fitsIn_arr.mp (h.get? hnodes)
    refine h.put (fitsIn_arr.mpr fun item hitem => ?_) _
    rcases mem_changeLast hitem with hmem | ⟨old, hmem, rfl⟩
    · exact hall _ hmem
    · exact fitsIn_setFields hfields (hall _ hmem)
  · exact h

theorem fits_addWarning (h : document.Fits) (message : Text) :
    (document.addWarning message).Fits := by
  unfold addWarning
  split
  · exact h.put (fitsIn_arr.mpr (by simp)) _
  · rename_i warnings hwarnings
    have hall : ∀ item ∈ warnings, FitsIn 2 item := fitsIn_arr.mp (h.get? hwarnings)
    exact h.put (fitsIn_arr.mpr (List.forall_mem_append.mpr ⟨hall, by simp⟩)) _
  · exact h

theorem fits_apply (h : document.Fits) (action : Action) : (document.apply action).Fits := by
  cases action with
  | select _ => exact h
  | inspect _ => exact h
  | style label settings =>
    exact fits_setNode h label fun e he => (settings.fitsIn_fields.2 e he).succ
  | rename label newLabel => exact fits_setNode h label (by simp [textField])
  | layout kind _ => exact h.put (Json.fitsIn_str 3 kind) _
  | error fault => exact fits_addWarning h _

theorem fits_executeAll (h : document.Fits) (nodes : List Node) (requests : List Request) :
    (sink.executeAll nodes ([], document) requests).1.2.Fits :=
  Sink.executeAll_induction (P := fun state : List Action × Document => state.2.Fits)
    (fun _ action h => fits_apply h action) nodes requests h

theorem fits_put_actions (h : document.Fits) (key : Text) (actions : List Action) :
    Fits (OrderedMap.put document key (.arr (actions.map Action.toJson))) :=
  h.put (fitsIn_arr.mpr (forall_mem_map_fitsIn Action.fitsIn_toJson actions)) key

end Document

end GraphSketch
