import GraphSketch.Proofs.Document.Again
import GraphSketch.Proofs.Document.Fits

/-!
# The last request counts

Requests always refer to the nodes as they were read, whatever earlier requests have made of them.
So of several requests that set the same field of a node the last one that succeeds counts, and to
carry out the same requests once more changes nothing but the warnings.

* `Request.setting?`, `Request.kind?` — what a request sets if it succeeds.
* `Request.last?_settings_flatMap`, `Request.getLast?_layout?` — the last of it is what the actions
  of the requests come to.
* `execute_lastWrite` — the document after requests, and after the same requests again.
-/

set_option autoImplicit false

namespace GraphSketch

open Json (textField)

/-! ## What requests set -/

namespace Request

/-- The value that a request gives to a field of the node that has the label, if it sets it. -/
def setting? (nodes : List Node) (label key : Text) : Request → Option Json
  | select ref params =>
    match findNode ref nodes, Style.read params with
    | .ok (some node), .ok style =>
      if node.label = label then OrderedMap.get? style.fields key else none
    | _, _ => none
  | rename ref newLabel =>
    match findNode ref nodes with
    | .ok (some node) => if node.label = label ∧ key = "label" then some (.str newLabel) else none
    | _ => none
  | layout _ => none

/-- The layout that a request chooses. -/
def kind? : Request → Option Text
  | layout kind => some kind
  | _ => none

end Request

/-- The last value that the requests that have succeeded set. -/
def lastSet? {α : Type} (set? : Request → Option α) (requests : List Request)
    (results : List Bool) : Option α :=
  ((requests.zip results).filterMap fun e => if e.2 then set? e.1 else none).getLast?

theorem filterMap_zip_answers {α : Type} {nodes : List Node} {set? done? : Request → Option α}
    (h : ∀ request done, request.answer nodes = .ok done →
      done? request = if done then set? request else none) :
    ∀ {requests : List Request} {results : List Bool},
      requests.map (·.answer nodes) = results.map .ok →
        ((requests.zip results).filterMap fun e => if e.2 then set? e.1 else none) =
          requests.filterMap done?
  | [], _, _ => rfl
  | _ :: _, [], hanswers => by cases hanswers
  | request :: requests, done :: results, hanswers => by
    obtain ⟨hfirst, hrest⟩ := List.cons.inj hanswers
    rw [List.zip_cons_cons, List.filterMap_cons, List.filterMap_cons,
      filterMap_zip_answers h hrest, h request done hfirst]

/-- Of requests that are answered only those that succeed need to be looked at. -/
theorem lastSet?_eq {α : Type} {nodes : List Node} {set? done? : Request → Option α}
    (h : ∀ request done, request.answer nodes = .ok done →
      done? request = if done then set? request else none)
    {requests : List Request} {results : List Bool}
    (hanswers : requests.map (·.answer nodes) = results.map .ok) :
    lastSet? set? requests results = (requests.filterMap done?).getLast? := by
  rw [lastSet?, filterMap_zip_answers h hanswers]

namespace Request

variable {nodes : List Node} {request : Request}

/-- **What a request sets it sets by its actions**, if it succeeds. -/
theorem last?_settings {done : Bool} (h : request.answer nodes = .ok done) (label key : Text) :
    OrderedMap.last? ((request.actions nodes).flatMap (·.settings label)) key =
      if done then request.setting? nodes label key else none := by
  have hdoes := request.does nodes
  rw [h] at hdoes
  generalize request.actions nodes = actions at hdoes
  cases hdoes with
  | notFound => rfl
  | unnamed => rfl
  | @renamed ref newLabel node hfind hlabel =>
    simp only [setting?, hfind, List.flatMap_cons, List.flatMap_nil, List.append_nil,
      Action.settings, if_true]
    by_cases hnode : node.label = label
    · rw [if_pos hnode, textField, OrderedMap.last?_singleton]
      exact if_congr (by rw [and_iff_right hnode, eq_comm]) rfl rfl
    · rw [if_neg hnode, if_neg fun h => hnode h.1]
      rfl
  | @shown ref params node hfind hread =>
    simp only [setting?, hfind, hread, if_true]
    exact (ite_self none).symm
  | @styled ref params node style hfind hread hstyle =>
    simp only [setting?, hfind, hread, List.flatMap_cons, List.flatMap_nil, List.append_nil,
      List.nil_append, Action.settings, if_true]
    split
    · exact OrderedMap.last?_of_nodup style.fitsIn_fields.1 key
    · rfl
  | laidOut => rfl

theorem kind?_of_ref? {ref : Text} (h : request.ref? = some ref) : request.kind? = none := by
  cases request with
  | layout _ => cases h
  | _ => rfl

theorem filterMap_layout? (nodes : List Node) (request : Request) :
    (request.actions nodes).filterMap Action.layout? = request.kind?.toList := by
  have hdoes := request.does nodes
  generalize request.actions nodes = actions, request.answer nodes = answer at hdoes
  cases hdoes with
  | unread href => rw [kind?_of_ref? href]; rfl
  | notFound href => rw [kind?_of_ref? href]; rfl
  | unnamed | renamed | unstyled | shown | styled | laidOut => rfl

/-- The layouts that the actions of requests choose are those that the requests choose. -/
theorem filterMap_layout?_flatMap (nodes : List Node) (requests : List Request) :
    (requests.flatMap (·.actions nodes)).filterMap Action.layout? = requests.filterMap kind? := by
  rw [List.filterMap_flatMap, List.filterMap_eq_flatMap_toList kind?]
  simp only [filterMap_layout?]

theorem kind?_of_answer {done : Bool} (h : request.answer nodes = .ok done) :
    request.kind? = if done then request.kind? else none := by
  have hdoes := request.does nodes
  rw [h] at hdoes
  generalize request.actions nodes = actions at hdoes
  cases hdoes with
  | notFound href => exact kind?_of_ref? href
  | unnamed | renamed | shown | styled | laidOut => rfl

variable {requests : List Request} {results : List Bool}

/-- The last value that actions set in a field of a node is the last one that requests set. -/
theorem last?_settings_flatMap (h : requests.map (·.answer nodes) = results.map .ok)
    (label key : Text) :
    OrderedMap.last? ((requests.flatMap (·.actions nodes)).flatMap (·.settings label)) key =
      lastSet? (·.setting? nodes label key) requests results := by
  rw [List.flatMap_assoc, OrderedMap.last?_flatMap,
    lastSet?_eq (fun request done hdone => last?_settings hdone label key) h]

/-- The last layout that actions choose is the last one that requests choose. -/
theorem getLast?_layout? (h : requests.map (·.answer nodes) = results.map .ok) :
    ((requests.flatMap (·.actions nodes)).filterMap Action.layout?).getLast? =
      lastSet? kind? requests results := by
  rw [lastSet?_eq (fun request done => kind?_of_answer) h, filterMap_layout?_flatMap]

end Request

namespace Document

/-! ## Nodes with different ids -/

/-- No two nodes of the document have the same label as their `id`. -/
def DistinctIds (document : Document) : Prop :=
  ∀ items, document.get? "nodes" = some (.arr items) → (items.filterMap Json.nodeId?).Nodup

/-- Where the ids are different every node is the last one with its `id`. -/
theorem restyle_of_nodup {fields : Text → List (Text × Json)} : ∀ {items : List Json},
    (items.filterMap Json.nodeId?).Nodup → restyle fields items = items.map fun item =>
      match item.nodeId? with
      | some label => setFields (fields label) item
      | none => item
  | [], _ => rfl
  | item :: items, h => by
    rw [restyle, List.map_cons]
    cases hid : item.nodeId? with
    | none =>
      rw [List.filterMap_cons_none hid] at h
      rw [restyle_of_nodup h]
    | some label =>
      rw [List.filterMap_cons_some hid, List.nodup_cons] at h
      have hnot : ¬ items.any (isNode label) = true := by
        intro hany
        obtain ⟨other, hmem, hother⟩ := List.any_eq_true.mp hany
        exact h.1 (List.mem_filterMap.mpr ⟨other, hmem, isNode_iff.mp hother⟩)
      simp only [if_neg hnot]
      rw [restyle_of_nodup h.2]

theorem exists_of_nodeId? {item : Json} {label : Text} (h : item.nodeId? = some label) :
    ∃ fields, item = .obj fields := by
  cases item with
  | obj fields => exact ⟨fields, rfl⟩
  | _ => cases h

/-! ## What requests leave behind -/

/-- What requests have made of a document, and what they make of it when they are carried out
again. -/
structure LastWrite (document : Document) (nodes : List Node) (requests : List Request)
    (actions : List Action) (after : Document) (results : List Bool) : Prop where
  /-- The layout is the last one that is chosen. -/
  layout : after.get? "layout" =
    ((lastSet? Request.kind? requests results).map Json.str).or (document.get? "layout")
  /-- Every field of a node has the value that was set last, or the value that it had. -/
  items : ∀ items, document.get? "nodes" = some (.arr items) →
    ∃ changed, after.get? "nodes" = some (.arr changed) ∧
      List.Forall₂ (fun item changed =>
        (∀ label, item.nodeId? = some label → ∀ key, changed.field? key =
          (lastSet? (·.setting? nodes label key) requests results).or (item.field? key)) ∧
        (item.nodeId? = none → changed = item)) items changed
  /-- Each request has been answered and has acted as if it were the only one. -/
  alone : requests.map (·.answer nodes) = results.map .ok ∧
    actions = requests.flatMap (·.actions nodes)
  /-- The same requests have the same answers and actions again, and all that changes is that their
  failures are added to the warnings. -/
  again : ∃ again, after.execute nodes requests = .ok (actions, again, .ok results) ∧
    again = (actions.filter (·.isError)).foldl apply after ∧
    ∀ key ≠ "warnings".toList, again.get? key = after.get? key

/-- **The last request that succeeds counts**, and requests that are carried out again change
nothing but the warnings. -/
theorem execute_lastWrite {document after : Document} {nodes : List Node}
    {requests : List Request} {actions : List Action} {results : List Bool}
    (hids : document.DistinctIds)
    (h : document.execute nodes requests = .ok (actions, after, .ok results)) :
    LastWrite document nodes requests actions after results := by
  obtain ⟨-, hrun, rfl, -⟩ := execute_eq_ok_iff.mp h
  obtain ⟨hanswers, hactions⟩ := (Sink.executeAll_eq_ok_iff journal nodes).mp hrun
  rw [Sink.acceptAll_journal, List.nil_append] at hactions
  refine ⟨?_, ?_, ⟨hanswers, hactions⟩, ?_⟩
  · rw [get?_layout_foldl_apply, hactions, Request.getLast?_layout? hanswers]
  · intro items hitems
    rw [get?_nodes_foldl_apply, hitems]
    refine ⟨_, rfl, ?_⟩
    rw [restyle_of_nodup (hids items hitems), List.forall₂_map_right_iff, List.forall₂_same]
    intro item _
    refine ⟨fun label hlabel key => ?_, fun hnone => by rw [hnone]⟩
    obtain ⟨old, rfl⟩ := exists_of_nodeId? hlabel
    simp only [hlabel]
    rw [field?_setFields, hactions, Request.last?_settings_flatMap hanswers]
  · obtain ⟨hagain, hkept⟩ := execute_again h
    exact ⟨_, hagain, rfl, hkept⟩

/-- A node is given the name of another one, and the requests behind it that refer to this name
still mean the other node. -/
theorem execute_lastWrite_renamed :
    let document : Document :=
      [("nodes", .arr [.obj [textField "id" "A"], .obj [textField "id" "B"]])]
    let nodes : List Node := [⟨"A", 1, .rectangle, 0⟩, ⟨"B", 2, .rectangle, 1⟩]
    let requests : List Request :=
      [.rename "A" "B", .select "B" "fill:red width:2", .rename "C" "D", .layout "grid",
        .select ":2" "fill:blue", .layout "tree"]
    let actions : List Action :=
      [.rename "A" "B", .select "B", .style "B" ⟨some "red", none, some 2⟩, .inspect "B",
        .error (.notFound "C"), .layout "grid" ["A", "B"],
        .select "B", .style "B" ⟨some "blue", none, none⟩, .inspect "B", .layout "tree" ["A", "B"]]
    let after : Document :=
      [("nodes", .arr [.obj [textField "id" "A", textField "label" "B"],
          .obj [textField "id" "B", textField "fill" "blue", ("strokeWidth", .int 2)]]),
        ("warnings", .arr [.str "command_failed: Node 'C' not found"]),
        ("layout", .str "tree")]
    let results : List Bool := [true, true, false, true, true, true]
    document.DistinctIds ∧
      document.execute nodes requests = .ok (actions, after, .ok results) ∧
      LastWrite document nodes requests actions after results := by
  intro document nodes requests actions after results
  have hids : document.DistinctIds := by
    intro items hitems
    cases hitems
    exact (by decide : (["A".toList, "B".toList] : List Text).Nodup)
  have hrun : document.execute nodes requests = .ok (actions, after, .ok results) :=
    execute_eq_ok_iff.mpr ⟨checkNodes_eq_ok_iff.mp rfl, by decide +kernel, rfl, Or.inl rfl⟩
  exact ⟨hids, hrun, execute_lastWrite hids hrun⟩

end Document

end GraphSketch
