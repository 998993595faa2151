import GraphSketch.Proofs.Document.Changed

/-!
# The effects of actions on a document

Every field of a document goes its own way under actions: what an action makes of a field depends
on the value of that field only.

* `get?_nodes_foldl_apply` — the nodes after any actions.  They keep their places and their ids, and
  each has set what the actions set in it, one after the other.
* `get?_layout_foldl_apply`, `warningList?_foldl_apply` — the last layout counts, and the failures
  are added to the warnings.
* `get?_foldl_apply` — all other fields are what they were.
-/

set_option autoImplicit false

namespace GraphSketch

open Json (textField)

/-- The label that an item has as its `id`, if it is one. -/
def Json.nodeId? (item : Json) : Option Text :=
  match item.field? "id" with
  | some (.str label) => some label
  | _ => none

namespace Action

/-- The fields that an action sets in the node that has the given label as its `id`. -/
def settings (label : Text) : Action → List (Text × Json)
  | style target given => if target = label then given.fields else []
  | rename target newLabel => if target = label then [textField "label" newLabel] else []
  | _ => []

/-- The layout that an action chooses. -/
def layout? : Action → Option Text
  | layout kind _ => some kind
  | _ => none

/-- The warning that an action adds. -/
def warning? : Action → Option Text
  | error fault => some ("command_failed: " ++ fault.message)
  | _ => none

end Action

namespace Document

theorem isNode_iff {label : Text} {item : Json} :
    isNode label item = true ↔ item.nodeId? = some label := by
  unfold isNode Json.nodeId?
  generalize item.field? "id" = value
  cases value with
  | none => simp
  | some value => cases value <;> simp

/-! ## Fields of one item -/

theorem setFields_nil (item : Json) : setFields [] item = item := by
  cases item <;> rfl

theorem setFields_append (fields more : List (Text × Json)) (item : Json) :
    setFields (fields ++ more) item = setFields more (setFields fields item) := by
  cases item with
  | obj old => exact congrArg Json.obj (OrderedMap.putAll_append old fields more)
  | _ => rfl

theorem setFields_setFields (fields : List (Text × Json)) (item : Json) :
    setFields fields (setFields fields item) = setFields fields item := by
  cases item with
  | obj old => exact congrArg Json.obj (OrderedMap.putAll_putAll old fields)
  | _ => rfl

/-- The last value that is set is the value, and what is not set stays. -/
theorem field?_setFields (fields old : List (Text × Json)) (key : Text) :
    (setFields fields (.obj old)).field? key =
      (OrderedMap.last? fields key).or (Json.field? key (.obj old)) :=
  OrderedMap.get?_putAll fields key old

theorem nodeId?_eq_of_sameBut {item changed : Json} (h : Json.SameBut styleNames item changed) :
    changed.nodeId? = item.nodeId? := by
  unfold Json.nodeId?
  rw [h "id" (by decide)]

theorem isNode_of_sameBut {item changed : Json} (h : Json.SameBut styleNames item changed)
    (label : Text) : isNode label changed = isNode label item := by
  rw [Bool.eq_iff_iff, isNode_iff, isNode_iff, nodeId?_eq_of_sameBut h]

theorem mem_styleNames_of_mem_settings {label : Text} {action : Action} :
    ∀ e ∈ action.settings label, e.1 ∈ styleNames := by
  intro e he
  cases action with
  | style target given =>
    rw [Action.settings] at he
    split at he
    · exact mem_styleNames_of_mem_fields e he
    · cases he
  | rename target newLabel =>
    rw [Action.settings] at he
    split at he
    · rw [List.mem_singleton.mp he]
      exact (by decide : "label".toList ∈ styleNames)
    · cases he
  | _ => cases he

theorem mem_styleNames_of_mem_flatMap {label : Text} {actions : List Action} :
    ∀ e ∈ actions.flatMap (·.settings label), e.1 ∈ styleNames := by
  intro e he
  obtain ⟨action, -, hmem⟩ := List.mem_flatMap.mp he
  exact mem_styleNames_of_mem_settings e hmem

/-! ## The nodes -/

/-- The items with fields set in the nodes among them, by their ids; of nodes with the same id in
the last one. -/
def restyle (fields : Text → List (Text × Json)) : List Json → List Json
  | [] => []
  | item :: items =>
    (match item.nodeId? with
      | some label => if items.any (isNode label) then item else setFields (fields label) item
      | none => item) :: restyle fields items

/-- A field that holds the nodes, restyled if it holds any. -/
def restyled (fields : Text → List (Text × Json)) : Option Json → Option Json
  | some (.arr items) => some (.arr (restyle fields items))
  | value => value

theorem forall₂_restyle {R : Json → Json → Prop} {fields : Text → List (Text × Json)}
    (hrefl : ∀ item, R item item) (hset : ∀ label item, R item (setFields (fields label) item)) :
    ∀ items : List Json, List.Forall₂ R items (restyle fields items)
  | [] => .nil
  | item :: items => by
    refine .cons ?_ (forall₂_restyle hrefl hset items)
    split
    · split
      · exact hrefl item
      · exact hset _ item
    · exact hrefl item

theorem any_isNode_of_forall₂ {items changed : List Json}
    (h : List.Forall₂ (Json.SameBut styleNames) items changed) (label : Text) :
    changed.any (isNode label) = items.any (isNode label) := by
  induction h with
  | nil => rfl
  | cons hitem _ ih => rw [List.any_cons, List.any_cons, isNode_of_sameBut hitem, ih]

theorem restyle_restyle {fields more : Text → List (Text × Json)}
    (h : ∀ label, ∀ e ∈ fields label, e.1 ∈ styleNames) : ∀ items : List Json,
    restyle more (restyle fields items) = restyle (fun label => fields label ++ more label) items
  | [] => rfl
  | item :: items => by
    have hany := any_isNode_of_forall₂
      (forall₂_restyle (fun _ _ _ => rfl) (fun label => sameBut_setFields (h label)) items)
    have hsame := fun label => nodeId?_eq_of_sameBut (sameBut_setFields (h label) item)
    simp only [restyle, restyle_restyle h items]
    cases hid : item.nodeId? with
    | none => simp only [hid]
    | some label =>
      by_cases hlater : items.any (isNode label) = true
      · simp only [hlater, if_true, hid, hany]
      · simp only [if_neg hlater, hsame, hid, hany, setFields_append]

theorem restyle_of_forall_eq_nil {fields : Text → List (Text × Json)} : ∀ {items : List Json},
    (∀ item ∈ items, ∀ label, item.nodeId? = some label → fields label = []) →
      restyle fields items = items
  | [], _ => rfl
  | item :: items, h => by
    obtain ⟨hitem, hitems⟩ := List.forall_mem_cons.mp h
    rw [restyle, restyle_of_forall_eq_nil hitems]
    congr 1
    split
    · rename_i label hid
      rw [hitem label hid, setFields_nil, ite_self]
    · rfl

/-- To change the last node with some `id` is to restyle the nodes with this `id` only. -/
theorem changeLast_eq_restyle (label : Text) (fields : List (Text × Json)) : ∀ items : List Json,
    changeLast label (setFields fields) items =
      restyle (fun other => if label = other then fields else []) items
  | [] => rfl
  | item :: items => by
    have hnone : ¬ items.any (isNode label) = true →
        restyle (fun other => if label = other then fields else []) items = items := by
      intro hnot
      refine restyle_of_forall_eq_nil fun x hx other hid => if_neg ?_
      rintro rfl
      exact hnot (List.any_eq_true.mpr ⟨x, hx, isNode_iff.mpr hid⟩)
    rw [changeLast, restyle]
    cases hid : item.nodeId? with
    | none =>
      have hother : ¬ isNode label item = true := by simp [isNode_iff, hid]
      split
      · rw [changeLast_eq_restyle label fields items]
      · rename_i hnot
        rw [hnone hnot]
    | some other =>
      by_cases hlabel : label = other
      · subst hlabel
        have hthis : isNode label item = true := isNode_iff.mpr hid
        simp only [if_true]
        split
        · rw [changeLast_eq_restyle label fields items]
        · rename_i hnot
          rw [hnone hnot]
      · have hother : ¬ isNode label item = true := by
          simpa [isNode_iff, hid] using Ne.symm hlabel
        simp only [if_neg hlabel, setFields_nil, ite_self]
        split
        · rw [changeLast_eq_restyle label fields items]
        · rename_i hnot
          rw [hnone hnot]

theorem restyled_of_forall_ne {value : Option Json} (h : ∀ items, value ≠ some (.arr items))
    (fields : Text → List (Text × Json)) : restyled fields value = value := by
  unfold restyled
  split
  · rename_i items
    exact absurd rfl (h items)
  · rfl

theorem restyled_of_forall_eq_nil {fields : Text → List (Text × Json)}
    (h : ∀ label, fields label = []) (value : Option Json) : restyled fields value = value := by
  unfold restyled
  split
  · rw [restyle_of_forall_eq_nil fun _ _ label _ => h label]
  · rfl

theorem restyled_restyled {fields more : Text → List (Text × Json)}
    (h : ∀ label, ∀ e ∈ fields label, e.1 ∈ styleNames) (value : Option Json) :
    restyled more (restyled fields value) =
      restyled (fun label => fields label ++ more label) value := by
  rcases value with _ | value
  · rfl
  · cases value with
    | arr items =>
      simp only [restyled]
      rw [restyle_restyle h]
    | _ => rfl

/-! ## The warnings -/

/-- A field that holds warnings, with others behind them; something else is left alone. -/
def warned : List Text → Option Json → Option Json
  | [], value => value
  | messages, none => some (.arr (messages.map .str))
  | messages, some (.arr earlier) => some (.arr (earlier ++ messages.map .str))
  | _, value => value

theorem warned_warned (messages more : List Text) (value : Option Json) :
    warned more (warned messages value) = warned (messages ++ more) value := by
  cases messages with
  | nil => rfl
  | cons message messages =>
    cases more with
    | nil => rw [List.append_nil, warned]
    | cons next more =>
      rcases value with _ | value
      · simp [warned]
      · cases value <;> simp [warned]

/-! ## One action -/

variable (document : Document)

theorem get?_nodes_setNode (label : Text) (fields : List (Text × Json)) :
    (document.setNode label fields).get? "nodes" =
      restyled (fun other => if label = other then fields else []) (document.get? "nodes") := by
  unfold setNode
  split
  · rename_i nodes hnodes
    rw [OrderedMap.get?_put_self, hnodes, restyled, changeLast_eq_restyle]
  · rename_i hnot
    exact (restyled_of_forall_ne hnot _).symm

theorem get?_setNode_of_ne {key : Text} (hkey : "nodes".toList ≠ key) (label : Text)
    (fields : List (Text × Json)) :
    (document.setNode label fields).get? key = document.get? key := by
  unfold setNode
  split
  · exact OrderedMap.get?_put_of_ne _ _ hkey
  · rfl

theorem get?_warnings_addWarning (message : Text) :
    (document.addWarning message).get? "warnings" =
      warned [message] (document.get? "warnings") := by
  unfold addWarning
  split
  · rename_i h
    rw [OrderedMap.get?_put_self, h]
    rfl
  · rename_i warnings h
    rw [OrderedMap.get?_put_self, h]
    rfl
  · rename_i value hnot h
    rw [h]
    cases value with
    | arr warnings => exact absurd rfl (hnot warnings)
    | _ => rfl

theorem get?_nodes_apply (action : Action) :
    (document.apply action).get? "nodes" =
      restyled (fun label => action.settings label) (document.get? "nodes") := by
  cases action with
  | style label given => exact get?_nodes_setNode document label given.fields
  | rename label newLabel => exact get?_nodes_setNode document label [textField "label" newLabel]
  | select _ => exact (restyled_of_forall_eq_nil (fun _ => rfl) _).symm
  | inspect _ => exact (restyled_of_forall_eq_nil (fun _ => rfl) _).symm
  | layout kind labels =>
    refine Eq.trans ?_ (restyled_of_forall_eq_nil (fun _ => rfl) _).symm
    exact OrderedMap.get?_put_of_ne _ _ (by decide)
  | error fault =>
    refine Eq.trans ?_ (restyled_of_forall_eq_nil (fun _ => rfl) _).symm
    exact get?_addWarning_of_ne (by decide) _

theorem get?_layout_apply (action : Action) :
    (document.apply action).get? "layout" =
      (action.layout?.map Json.str).or (document.get? "layout") := by
  cases action with
  | layout kind labels => exact OrderedMap.get?_put_self document "layout" (.str kind)
  | style label given => exact get?_setNode_of_ne document (by decide) _ _
  | rename label newLabel => exact get?_setNode_of_ne document (by decide) _ _
  | error fault => exact get?_addWarning_of_ne (by decide) _
  | select _ => rfl
  | inspect _ => rfl

theorem get?_warnings_apply (action : Action) :
    (document.apply action).get? "warnings" =
      warned action.warning?.toList (document.get? "warnings") := by
  cases action with
  | error fault => exact get?_warnings_addWarning document _
  | layout kind labels => exact OrderedMap.get?_put_of_ne _ _ (by decide)
  | style label given => exact get?_setNode_of_ne document (by decide) _ _
  | rename label newLabel => exact get?_setNode_of_ne document (by decide) _ _
  | select _ => rfl
  | inspect _ => rfl

/-- The fields of a document that actions change. -/
def effectNames : List Text := ["nodes", "layout", "warnings"]

theorem effectNames_cases (key : Text) :
    key = "nodes".toList ∨ key = "layout".toList ∨ key = "warnings".toList ∨
      key ∉ effectNames := by
  by_cases hkey : key ∈ effectNames
  · simp only [effectNames, List.mem_cons, List.not_mem_nil, or_false] at hkey
    exact hkey.imp_right fun h => h.imp_right Or.inl
  · exact Or.inr (Or.inr (Or.inr hkey))

theorem get?_apply {key : Text} (hkey : key ∉ effectNames) (action : Action) :
    (document.apply action).get? key = document.get? key := by
  have hne : ∀ name ∈ effectNames, name ≠ key := fun name hmem h => hkey (h ▸ hmem)
  cases action with
  | style label given => exact get?_setNode_of_ne document (hne _ (by decide)) _ _
  | rename label newLabel => exact get?_setNode_of_ne document (hne _ (by decide)) _ _
  | layout kind labels => exact OrderedMap.get?_put_of_ne _ _ (hne _ (by decide))
  | error fault => exact get?_addWarning_of_ne (hne _ (by decide)) _
  | select _ => rfl
  | inspect _ => rfl

/-! ## Actions one after the other -/

/-- **The nodes after actions**: each has set what the actions set in it. -/
theorem get?_nodes_foldl_apply (actions : List Action) : ∀ document : Document,
    (actions.foldl apply document).get? "nodes" =
      restyled (fun label => actions.flatMap (·.settings label)) (document.get? "nodes") := by
  induction actions with
  | nil => exact fun document => (restyled_of_forall_eq_nil (fun _ => rfl) _).symm
  | cons action actions ih =>
    intro document
    rw [List.foldl_cons, ih, get?_nodes_apply,
      restyled_restyled fun label => mem_styleNames_of_mem_settings]
    rfl

/-- **The layout after actions** is the last one that is chosen. -/
theorem get?_layout_foldl_apply (actions : List Action) : ∀ document : Document,
    (actions.foldl apply document).get? "layout" =
      ((actions.filterMap Action.layout?).getLast?.map Json.str).or (document.get? "layout") := by
  induction actions with
  | nil => exact fun document => rfl
  | cons action actions ih =>
    intro document
    rw [List.foldl_cons, ih, get?_layout_apply]
    cases h : action.layout? with
    | none => rw [List.filterMap_cons_none h, Option.map_none, Option.none_or]
    | some kind =>
      rw [List.filterMap_cons_some h, List.getLast?_cons]
      cases (actions.filterMap Action.layout?).getLast? <;> rfl

/-- **The warnings after actions** are those before them and the failures. -/
theorem get?_warnings_foldl_apply (actions : List Action) : ∀ document : Document,
    (actions.foldl apply document).get? "warnings" =
      warned (actions.filterMap Action.warning?) (document.get? "warnings") := by
  induction actions with
  | nil => exact fun document => rfl
  | cons action actions ih =>
    intro document
    rw [List.foldl_cons, ih, get?_warnings_apply, warned_warned, List.filterMap_cons]
    cases action.warning? <;> rfl

/-- **Every other field** is what it was. -/
theorem get?_foldl_apply {key : Text} (hkey : key ∉ effectNames) (actions : List Action) :
    ∀ document : Document,
      (actions.foldl apply document).get? key = document.get? key := by
  induction actions with
  | nil => exact fun document => rfl
  | cons action actions ih =>
    intro document
    rw [List.foldl_cons, ih, get?_apply document hkey]

/-- Where warnings are taken, those that are added follow the ones that were there. -/
theorem warningList?_of_warned {after : Document} {messages : List Text}
    (h : after.get? "warnings" = warned messages (document.get? "warnings")) :
    after.warningList? = document.warningList?.map (· ++ messages.map .str) := by
  unfold warningList?
  rw [h]
  rcases document.get? "warnings" with _ | value
  · cases messages <;> simp [warned]
  · cases messages with
    | nil => cases value <;> simp [warned]
    | cons message messages => cases value <;> simp [warned]

/-- The warnings after actions are those before them and the failures. -/
theorem warningList?_foldl_apply (actions : List Action) :
    (actions.foldl apply document).warningList? =
      document.warningList?.map (· ++ (actions.filterMap Action.warning?).map .str) :=
  warningList?_of_warned document (get?_warnings_foldl_apply actions document)

theorem warningList?_addWarning (message : Text) :
    (document.addWarning message).warningList? =
      document.warningList?.map (· ++ [.str message]) :=
  warningList?_of_warned document (get?_warnings_addWarning document message)

end Document

end GraphSketch
