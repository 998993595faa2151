import GraphSketch.Proofs.Document.Effects
import GraphSketch.Proofs.Document.Execution

/-!
# Documents and the journal

The actions that commands perform are a complete journal of what happens to a document: whoever has
the document as it was before and the actions has the document as it is afterwards.

The nodes may be looked up once, before anything is changed (`Document.place?`), and changed in
place from then on (`Document.edit`), for no action moves a node or gives it another `id`
(`place?_apply`).

* `foldl_apply_eq_foldl_edit` — actions one after the other are edits in place.
* `execute_journaled` — a run of commands, the journal of the same commands, and what is kept.
-/

set_option autoImplicit false

namespace GraphSketch

open Json (textField)

namespace Document

/-! ## Places -/

/-- The place of the last item that has the label as its `id`. -/
def lastPlace? (label : Text) : List Json → Option Nat
  | [] => none
  | item :: items =>
    match lastPlace? label items with
    | some i => some (i + 1)
    | none => if isNode label item then some 0 else none

/-- The place among the nodes of the document at which a node is found. -/
def place? (document : Document) (label : Text) : Option Nat :=
  match document.get? "nodes" with
  | some (.arr items) => lastPlace? label items
  | _ => none

theorem lastPlace?_eq_none_iff {label : Text} {items : List Json} :
    lastPlace? label items = none ↔ ¬ items.any (isNode label) = true := by
  induction items with
  | nil => simp [lastPlace?]
  | cons item items ih =>
    rw [lastPlace?, List.any_cons, Bool.or_eq_true, not_or, ← ih]
    cases lastPlace? label items <;> simp

theorem place?_of_get? {document : Document} {items : List Json}
    (h : document.get? "nodes" = some (.arr items)) (label : Text) :
    document.place? label = lastPlace? label items := by
  rw [place?, h]

theorem place?_eq_none {document : Document}
    (h : ∀ items, document.get? "nodes" ≠ some (.arr items)) (label : Text) :
    document.place? label = none := by
  unfold place?
  split
  · rename_i items hitems
    exact absurd hitems (h items)
  · rfl

theorem lastPlace?_of_forall₂ {items changed : List Json}
    (h : List.Forall₂ (Json.SameBut styleNames) items changed) (label : Text) :
    lastPlace? label changed = lastPlace? label items := by
  induction h with
  | nil => rfl
  | cons hitem _ ih => rw [lastPlace?, lastPlace?, ih, isNode_of_sameBut hitem]

/-- What is done to the last node with an `id` is done at its place. -/
theorem changeLast_eq_modify (label : Text) (change : Json → Json) : ∀ items : List Json,
    changeLast label change items =
      match lastPlace? label items with
      | some i => items.modify i change
      | none => items
  | [] => rfl
  | item :: items => by
    rw [changeLast, lastPlace?]
    split
    · rename_i hlater
      rw [changeLast_eq_modify label change items]
      cases hplace : lastPlace? label items with
      | none => exact absurd hlater (lastPlace?_eq_none_iff.mp hplace)
      | some i => rfl
    · rename_i hnot
      rw [lastPlace?_eq_none_iff.mpr hnot]
      by_cases hitem : isNode label item = true
      · simp only [hitem, if_true]
        rfl
      · simp only [if_neg hitem]

/-! ## Edits in place -/

/-- The document with fields set in the node at a place, if there is one. -/
def editNode (document : Document) (fields : List (Text × Json)) (place : Option Nat) : Document :=
  match place, document.get? "nodes" with
  | some i, some (.arr items) => document.put "nodes" (.arr (items.modify i (setFields fields)))
  | _, _ => document

/-- What an action does to a document whose nodes have been looked up before: a style sets its
fields in the node, a new name is set as its label, a layout is set in the document, and a failure
is added to the warnings.  A node without a place is not in the document. -/
def edit (place : Text → Option Nat) (document : Document) : Action → Document
  | .style label settings => document.editNode settings.fields (place label)
  | .rename label newLabel => document.editNode [textField "label" newLabel] (place label)
  | .layout kind _ => document.put "layout" (.str kind)
  | .error fault => document.addWarning ("command_failed: " ++ fault.message)
  | .select _ | .inspect _ => document

variable (document : Document)

theorem setNode_eq_editNode (label : Text) (fields : List (Text × Json)) :
    document.setNode label fields = document.editNode fields (document.place? label) := by
  unfold setNode
  split
  · rename_i items hitems
    rw [changeLast_eq_modify, place?_of_get? hitems]
    cases lastPlace? label items with
    | none => exact OrderedMap.put_of_get?_eq_some hitems
    | some i => simp only [editNode, hitems]
  · rename_i hnot
    rw [place?_eq_none hnot]
    rfl

theorem apply_eq_edit (action : Action) :
    document.apply action = document.edit document.place? action := by
  cases action with
  | style label given => exact setNode_eq_editNode document label _
  | rename label newLabel => exact setNode_eq_editNode document label _
  | _ => rfl

theorem place?_apply (action : Action) : (document.apply action).place? = document.place? := by
  funext label
  by_cases h : ∃ items, document.get? "nodes" = some (.arr items)
  · obtain ⟨items, hitems⟩ := h
    have hafter := get?_nodes_apply document action
    rw [hitems] at hafter
    rw [place?_of_get? hitems, place?_of_get? hafter]
    exact lastPlace?_of_forall₂ (forall₂_restyle (fun _ _ _ => rfl)
      (fun _ => sameBut_setFields mem_styleNames_of_mem_settings) items) label
  · rw [not_exists] at h
    rw [place?_eq_none h, place?_eq_none]
    rw [get?_nodes_apply, restyled_of_forall_ne h]
    exact h

/-- **Actions one after the other are edits in place**: the nodes may be looked up in the document
as it was at first. -/
theorem foldl_apply_eq_foldl_edit (actions : List Action) : ∀ document : Document,
    actions.foldl apply document = actions.foldl (edit document.place?) document := by
  induction actions with
  | nil => exact fun _ => rfl
  | cons action actions ih =>
    intro document
    rw [List.foldl_cons, List.foldl_cons, ih, place?_apply, ← apply_eq_edit]

/-! ## What commands do to a document -/

/-- An item among the nodes that is the same but for its label and its style, if it is an object,
and is the same if it is not. -/
structure KeptItem (item changed : Json) : Prop where
  fields : Json.SameBut styleNames item changed
  other : (∀ fields, item ≠ .obj fields) → changed = item

theorem keptItem_refl (item : Json) : KeptItem item item := ⟨fun _ _ => rfl, fun _ => rfl⟩

theorem keptItem_setFields {fields : List (Text × Json)} (h : ∀ e ∈ fields, e.1 ∈ styleNames)
    (item : Json) : KeptItem item (setFields fields item) := by
  refine ⟨sameBut_setFields h item, fun hother => ?_⟩
  cases item with
  | obj old => exact absurd rfl (hother old)
  | _ => rfl

/-- What commands do to a document: it is all in the journal, and everything else is kept. -/
structure Journaled (document : Document) (nodes : List Node) (requests : List Request) : Prop where
  /-- The actions and the answers are those of the journal, and the document is what the actions
  make of it in place.  There is nothing to a run besides, unless a failure cannot be noted. -/
  returns_iff : ∀ actions after answers,
    document.execute nodes requests = .ok (actions, after, answers) ↔
      journal.executeAll nodes [] requests = (actions, answers) ∧
        after = actions.foldl (edit document.place?) document ∧
        (document.takesWarnings = true ∨ ∀ action ∈ actions, action.isError = false)
  /-- The nodes are the same ones in the same order; their ids, shapes, numbers and places are what
  they were. -/
  items : ∀ actions after answers,
    document.execute nodes requests = .ok (actions, after, answers) →
      ∀ items, document.get? "nodes" = some (.arr items) →
        ∃ changed, after.get? "nodes" = some (.arr changed) ∧ List.Forall₂ KeptItem items changed
  /-- What is in the place of nodes and is none of them is kept. -/
  noItems : ∀ actions after answers,
    document.execute nodes requests = .ok (actions, after, answers) →
      (∀ items, document.get? "nodes" ≠ some (.arr items)) →
        after.get? "nodes" = document.get? "nodes"
  /-- The failures follow the warnings that were there. -/
  warnings : ∀ actions after answers,
    document.execute nodes requests = .ok (actions, after, answers) →
      after.warningList? =
        document.warningList?.map (· ++ (actions.filterMap Action.warning?).map .str)
  /-- All other fields but the layout are kept, the edges among them. -/
  kept : ∀ actions after answers,
    document.execute nodes requests = .ok (actions, after, answers) →
      ∀ key ∉ effectNames, after.get? key = document.get? key

/-- **The journal tells all that commands do to a document.** -/
theorem execute_journaled {document : Document} (hids : document.HasIds) (nodes : List Node)
    (requests : List Request) : Journaled document nodes requests := by
  have hafter : ∀ {actions after answers},
      document.execute nodes requests = .ok (actions, after, answers) →
        after = actions.foldl apply document :=
    fun h => (execute_eq_ok_iff.mp h).2.2.1
  refine ⟨fun actions after answers => ?_, ?_, ?_, ?_, ?_⟩
  · rw [execute_eq_ok_iff, foldl_apply_eq_foldl_edit]
    exact and_iff_right hids
  · intro actions after answers h items hitems
    rw [hafter h, get?_nodes_foldl_apply, hitems]
    exact ⟨_, rfl, forall₂_restyle keptItem_refl
      (fun _ => keptItem_setFields mem_styleNames_of_mem_flatMap) _⟩
  · intro actions after answers h hnone
    rw [hafter h, get?_nodes_foldl_apply, restyled_of_forall_ne hnone]
  · intro actions after answers h
    rw [hafter h, warningList?_foldl_apply]
  · intro actions after answers h key hkey
    rw [hafter h, get?_foldl_apply hkey]

/-- A document with two nodes of one `id` and something that is no node, commands for these and for
a node of another diagram, and a command that fails. -/
theorem execute_journaled_twins :
    let document : Document :=
      [("nodes", .arr [.obj [textField "id" "A"], .str "A", .obj [textField "id" "A"]])]
    let nodes : List Node := [⟨"A", 1, .rectangle, 0⟩, ⟨"B", 2, .rectangle, 1⟩]
    let requests : List Request :=
      [.select "A" "fill:red", .rename "B" "C", .rename "D" "E", .layout "grid", .rename ":1" "F"]
    let actions : List Action :=
      [.select "A", .style "A" ⟨some "red", none, none⟩, .inspect "A", .rename "B" "C",
        .error (.notFound "D"), .layout "grid" ["A", "B"], .rename "A" "F"]
    document.HasIds ∧
      document.execute nodes requests =
        .ok (actions,
          [("nodes", .arr [.obj [textField "id" "A"], .str "A",
              .obj [textField "id" "A", textField "fill" "red", textField "label" "F"]]),
            ("warnings", .arr [.str "command_failed: Node 'D' not found"]),
            ("layout", .str "grid")],
          .ok [true, true, false, true, true]) := by
  intro document nodes requests actions
  have hids : document.HasIds := checkNodes_eq_ok_iff.mp rfl
  refine ⟨hids, ((execute_journaled hids nodes requests).returns_iff _ _ _).mpr ⟨rfl, rfl, ?_⟩⟩
  exact Or.inl rfl

end Document

end GraphSketch
