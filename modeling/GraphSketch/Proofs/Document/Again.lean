import GraphSketch.Proofs.Document.Journal

/-!
# The same commands again

A document on which commands have been run has all the fields that their actions need, and its
nodes can still be found.  So the same commands can be run on it once more, with the same answers,
and all that changes is that their failures are noted again.

* `Document.Covers` — a document has the fields that an action needs, as it does once the action
  has been applied (`covers_foldl_apply`).  Applying the action then puts values into fields that
  are there, and nothing into their order (`apply_eq_putAll`).
* `restyle_self` — to restyle a node twice in the same way is to restyle it once.
* `foldl_apply_again` — the same actions applied twice.
* `hasIds_foldl_apply` — actions leave every node its `id`, without which commands are not run.
* `execute_again` — the same commands run twice.
-/

set_option autoImplicit false

namespace GraphSketch

namespace Action

variable {action : Action}

theorem settings_of_isError (h : action.isError = true) (label : Text) :
    action.settings label = [] := by
  cases action with
  | error _ => rfl
  | _ => cases h

theorem layout?_of_isError (h : action.isError = true) : action.layout? = none := by
  cases action with
  | error _ => rfl
  | _ => cases h

theorem warning?_eq_ite (action : Action) :
    (if action.isError = true then action.warning? else none) = action.warning? := by
  cases action <;> rfl

end Action

namespace Document

/-! ## The same actions again -/

theorem restyle_self (fields : Text → List (Text × Json)) : ∀ items : List Json,
    restyle (fun label => fields label ++ fields label) items = restyle fields items
  | [] => rfl
  | item :: items => by
    simp only [restyle, restyle_self fields items, setFields_append, setFields_setFields]

theorem restyled_self (fields : Text → List (Text × Json)) (value : Option Json) :
    restyled (fun label => fields label ++ fields label) value = restyled fields value := by
  unfold restyled
  split
  · rw [restyle_self]
  · rfl

/-- An action needs no other fields than those that the document has. -/
def Covers (document : Document) (action : Action) : Prop :=
  (action.layout? ≠ none → "layout".toList ∈ OrderedMap.keys document) ∧
    (action.warning? ≠ none → "warnings".toList ∈ OrderedMap.keys document)

theorem mem_keys_of_get?_eq_some {document : Document} {key : Text} {value : Json}
    (h : document.get? key = some value) : key ∈ OrderedMap.keys document :=
  OrderedMap.mem_keys_of_mem (OrderedMap.mem_of_get?_eq_some h)

/-- An action that needs no other fields only puts values into fields that are there. -/
theorem apply_eq_putAll {document : Document} {action : Action} (h : document.Covers action) :
    ∃ entries, document.apply action = OrderedMap.putAll document entries ∧
      ∀ key ∈ OrderedMap.keys entries, key ∈ OrderedMap.keys document := by
  have hnone : ∃ entries, document = OrderedMap.putAll document entries ∧
      ∀ key ∈ OrderedMap.keys entries, key ∈ OrderedMap.keys document :=
    ⟨[], rfl, fun key hkey => nomatch hkey⟩
  have hput : ∀ {key : Text} (value : Json), key ∈ OrderedMap.keys document →
      ∃ entries, OrderedMap.put document key value = OrderedMap.putAll document entries ∧
        ∀ key ∈ OrderedMap.keys entries, key ∈ OrderedMap.keys document :=
    fun {key} value hkey => ⟨[(key, value)], rfl, fun k hk => List.mem_singleton.mp hk ▸ hkey⟩
  have hnode : ∀ label fields, ∃ entries,
      document.setNode label fields = OrderedMap.putAll document entries ∧
        ∀ key ∈ OrderedMap.keys entries, key ∈ OrderedMap.keys document := by
    intro label fields
    unfold setNode
    split
    · rename_i hnodes
      exact hput _ (mem_keys_of_get?_eq_some hnodes)
    · exact hnone
  cases action with
  | select _ => exact hnone
  | inspect _ => exact hnone
  | style label given => exact hnode label _
  | rename label newLabel => exact hnode label _
  | layout kind _ => exact hput _ (h.1 (Option.some_ne_none kind))
  | error fault =>
    have hkey := h.2 (Option.some_ne_none _)
    show ∃ entries, document.addWarning _ = _ ∧ _
    unfold addWarning
    split
    · exact hput _ hkey
    · exact hput _ hkey
    · exact hnone

theorem foldl_apply_eq_putAll (actions : List Action) : ∀ {document : Document},
    (∀ action ∈ actions, document.Covers action) →
      ∃ entries, actions.foldl apply document = OrderedMap.putAll document entries ∧
        ∀ key ∈ OrderedMap.keys entries, key ∈ OrderedMap.keys document := by
  induction actions with
  | nil => exact fun _ => ⟨[], rfl, fun key hkey => nomatch hkey⟩
  | cons action actions ih =>
    intro document h
    obtain ⟨haction, hactions⟩ := List.forall_mem_cons.mp h
    obtain ⟨entries, hentries, hkeys⟩ := apply_eq_putAll haction
    have hsame : ∀ key, key ∈ OrderedMap.keys (document.apply action) ↔
        key ∈ OrderedMap.keys document := by
      intro key
      rw [hentries, OrderedMap.mem_keys_putAll]
      exact ⟨fun hkey => hkey.elim (hkeys key) id, Or.inr⟩
    have hcovers : ∀ a ∈ actions, (document.apply action).Covers a := by
      intro a ha
      unfold Covers
      rw [hsame, hsame]
      exact hactions a ha
    obtain ⟨more, hmore, hmoreKeys⟩ := ih hcovers
    refine ⟨entries ++ more, ?_, fun key hkey => ?_⟩
    · rw [List.foldl_cons, hmore, hentries, OrderedMap.putAll_append]
    · rw [OrderedMap.keys, List.map_append, List.mem_append] at hkey
      exact hkey.elim (hkeys key) fun hlater => (hsame key).mp (hmoreKeys key hlater)

/-- The actions that have been applied to a document need no other fields than it has. -/
theorem covers_foldl_apply {actions : List Action} (document : Document) {action : Action}
    (h : action ∈ actions) : (actions.foldl apply document).Covers action := by
  constructor
  · intro hlayout
    by_contra hnot
    rw [← OrderedMap.get?_eq_none_iff, get?_layout_foldl_apply, Option.or_eq_none_iff,
      Option.map_eq_none_iff, List.getLast?_eq_none_iff, List.filterMap_eq_nil_iff] at hnot
    exact hlayout (hnot.1 action h)
  · intro hwarning
    by_contra hnot
    rw [← OrderedMap.get?_eq_none_iff, get?_warnings_foldl_apply] at hnot
    cases hmessages : actions.filterMap Action.warning? with
    | nil => exact hwarning (List.filterMap_eq_nil_iff.mp hmessages action h)
    | cons message messages =>
      rw [hmessages] at hnot
      rcases hvalue : document.get? "warnings" with _ | value
      · rw [hvalue] at hnot
        cases hnot
      · rw [hvalue] at hnot
        cases value <;> cases hnot

theorem get?_foldl_apply_failures {key : Text} (hkey : key ≠ "warnings".toList)
    (actions : List Action) (document : Document) :
    ((actions.filter (·.isError)).foldl apply document).get? key = document.get? key := by
  have herror : ∀ action ∈ actions.filter (·.isError), action.isError = true :=
    fun action hmem => (List.mem_filter.mp hmem).2
  generalize actions.filter (·.isError) = failures at herror
  rcases effectNames_cases key with rfl | rfl | rfl | hother
  · rw [get?_nodes_foldl_apply, restyled_of_forall_eq_nil]
    intro label
    exact List.flatMap_eq_nil_iff.mpr fun action hmem =>
      Action.settings_of_isError (herror action hmem) label
  · have hnone : failures.filterMap Action.layout? = [] :=
      List.filterMap_eq_nil_iff.mpr fun action hmem =>
        Action.layout?_of_isError (herror action hmem)
    rw [get?_layout_foldl_apply, hnone]
    rfl
  · exact absurd rfl hkey
  · exact get?_foldl_apply hother failures document

/-- **To apply the same actions again** is to add their failures to the warnings once more. -/
theorem foldl_apply_again (actions : List Action) (document : Document) :
    actions.foldl apply (actions.foldl apply document) =
      (actions.filter (·.isError)).foldl apply (actions.foldl apply document) := by
  obtain ⟨entries, hentries, hkeys⟩ := foldl_apply_eq_putAll actions
    fun _ hmem => covers_foldl_apply document hmem
  obtain ⟨more, hmore, hmoreKeys⟩ := foldl_apply_eq_putAll (actions.filter (·.isError))
    fun _ hmem => covers_foldl_apply document (List.mem_filter.mp hmem).1
  -- both sides put values into fields that are there, so that only the values need to be compared
  rw [hentries, hmore]
  refine OrderedMap.putAll_ext hkeys hmoreKeys fun key => ?_
  rw [← hentries, ← hmore]
  rcases effectNames_cases key with rfl | rfl | rfl | hother
  · rw [get?_foldl_apply_failures (by decide), get?_nodes_foldl_apply, get?_nodes_foldl_apply,
      restyled_restyled fun _ => mem_styleNames_of_mem_flatMap, restyled_self]
  · rw [get?_foldl_apply_failures (by decide), get?_layout_foldl_apply, get?_layout_foldl_apply]
    cases (actions.filterMap Action.layout?).getLast? <;> rfl
  · have hmessages : (actions.filter (·.isError)).filterMap Action.warning? =
        actions.filterMap Action.warning? := by
      rw [List.filterMap_filter]
      exact List.filterMap_congr fun action _ => Action.warning?_eq_ite action
    rw [get?_warnings_foldl_apply, get?_warnings_foldl_apply (actions.filter _), hmessages]
  · exact (get?_foldl_apply hother actions _).trans (get?_foldl_apply hother _ _).symm

/-! ## Nodes stay where they can be found -/

theorem hasId_of_keptItem {item : Json} {fields : OrderedMap Text Json}
    (hkept : KeptItem item (.obj fields)) (h : ∀ old, item = .obj old → HasId old) :
    HasId fields := by
  by_cases hobj : ∃ old, item = .obj old
  · obtain ⟨old, rfl⟩ := hobj
    have hid : fields.get? "id" = OrderedMap.get? old "id" := hkept.fields "id" (by decide)
    unfold HasId
    rw [hid]
    exact h old rfl
  · rw [not_exists] at hobj
    exact h fields (hkept.other hobj).symm

theorem hasId_of_forall₂ {items changed : List Json}
    (hkept : List.Forall₂ KeptItem items changed)
    (h : ∀ fields, .obj fields ∈ items → HasId fields) :
    ∀ fields, .obj fields ∈ changed → HasId fields := by
  induction hkept with
  | nil => exact fun fields hmem => nomatch hmem
  | cons hitem _ ih =>
    intro fields hmem
    rcases List.mem_cons.mp hmem with rfl | hmem
    · exact hasId_of_keptItem hitem fun old hold => h old (hold ▸ List.mem_cons_self)
    · exact ih (fun old hold => h old (List.mem_cons_of_mem _ hold)) fields hmem

theorem hasIds_foldl_apply {document : Document} (h : document.HasIds) (actions : List Action) :
    (actions.foldl apply document).HasIds := by
  obtain ⟨items, hitems, hall⟩ := h
  have hafter := get?_nodes_foldl_apply actions document
  by_cases harr : ∃ nodes, document.get? "nodes" = some (.arr nodes)
  · obtain ⟨nodes, hnodes⟩ := harr
    rw [parts, hnodes] at hitems
    cases hitems
    refine ⟨_, by rw [parts, hafter, hnodes]; rfl, hasId_of_forall₂ (forall₂_restyle keptItem_refl
      (fun _ => keptItem_setFields mem_styleNames_of_mem_flatMap) items) hall⟩
  · rw [not_exists] at harr
    refine ⟨items, ?_, hall⟩
    rw [parts, hafter, restyled_of_forall_ne harr]
    exact hitems

theorem takesWarnings_iff {document : Document} :
    document.takesWarnings = true ↔ document.warningList? ≠ none := by
  unfold takesWarnings warningList?
  rcases document.get? "warnings" with _ | value
  · simp
  · cases value <;> simp

/-- **Commands that are run again** have the same answers and perform the same actions, and nothing
changes but the warnings. -/
theorem execute_again {document after : Document} {nodes : List Node} {requests : List Request}
    {actions : List Action} {answers : Except OversizedNumeral (List Bool)}
    (h : document.execute nodes requests = .ok (actions, after, answers)) :
    after.execute nodes requests =
        .ok (actions, (actions.filter (·.isError)).foldl apply after, answers) ∧
      ∀ key ≠ "warnings".toList,
        ((actions.filter (·.isError)).foldl apply after).get? key = after.get? key := by
  obtain ⟨hids, hrun, rfl, hnoted⟩ := execute_eq_ok_iff.mp h
  refine ⟨?_, fun key hkey => get?_foldl_apply_failures hkey actions _⟩
  refine execute_eq_ok_iff.mpr
    ⟨hasIds_foldl_apply hids actions, hrun, (foldl_apply_again actions document).symm, ?_⟩
  refine hnoted.imp_left fun htakes => ?_
  rw [takesWarnings_iff] at htakes ⊢
  rw [warningList?_foldl_apply]
  exact fun hnone => htakes (Option.map_eq_none_iff.mp hnone)

end Document

end GraphSketch
