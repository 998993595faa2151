import GraphSketch.Proofs.Sketch.Mention
import GraphSketch.Proofs.Sketch.References

/-!
# Nodes found by their labels

A sketch tells labels apart by every letter, but a command that names a label looks for it in lower
case and takes the first node that fits.  The two come together where the nodes before it are
different in lower case too, and only there.

* `segmentLabel_tidy`, `compile_tidy` — the labels of a sketch have no blanks around them, so that a
  command may be written with the label itself.
* `findNode_of_name` — a text that is no reference finds the first node that is called so.
* `compile_namesFirst` — which node a command means that is written with the label of a node.
-/

set_option autoImplicit false

namespace GraphSketch

open OrderedMap

/-! ## Labels without blanks around them -/

/-- None of the labels has blanks around it. -/
def Numbering.Tidy (m : Numbering) : Prop := ∀ label ∈ keys m.numberOf, Text.trim label = label

namespace Numbering

theorem assign_tidy {m : Numbering} (hm : m.Tidy) {label : Text} (h : Text.trim label = label) :
    (m.assign label).1.Tidy := by
  obtain ⟨n, -, heq⟩ | ⟨hnone, heq⟩ := assign_cases m label
  · rwa [heq]
  · rw [heq]
    intro other hother
    rw [← put_of_notMem ((get?_eq_none_iff _ _).mp hnone), mem_keys_put] at hother
    obtain rfl | hother := hother
    · exact h
    · exact hm other hother

theorem assignAll_tidy : ∀ (labels : List Text) {m : Numbering}, m.Tidy →
    (∀ label ∈ labels, Text.trim label = label) → (m.assignAll labels).Tidy
  | [], _, hm, _ => hm
  | label :: labels, _, hm, h =>
    assignAll_tidy labels (assign_tidy hm (h label List.mem_cons_self))
      fun other hother => h other (List.mem_cons_of_mem _ hother)

/-- A trimmed text names a label without blanks around it, be it a reference or not. -/
theorem Tidy.trim_of_resolve {m : Numbering} (hm : m.Tidy) (hs : m.Sound) {t label : Text}
    (ht : Text.trim t = t) (h : m.resolve t = .ok label) : Text.trim label = label := by
  unfold resolve at h
  split at h
  · split at h
    · cases h
    · cases h
    · split at h
      · rename_i found hfound
        cases h
        rw [hs.labelOf_eq] at hfound
        exact hm label (mem_keys_of_mem (mem_of_get?_inverse hfound))
      · cases h
  · cases h
    exact ht

end Numbering

namespace Sketch

theorem segmentLabel_tidy {mask : Mask} {numbering : Numbering} (hm : numbering.Tidy)
    (hs : numbering.Sound) {segment label : Text}
    (h : segmentLabel mask numbering segment = .ok label) : Text.trim label = label := by
  unfold segmentLabel at h
  split at h
  · cases h
    exact Text.trim_trim _
  · exact hm.trim_of_resolve hs (Text.trim_trim _) h

theorem segmentLabels_tidy {mask : Mask} {numbering : Numbering} (hm : numbering.Tidy)
    (hs : numbering.Sound) {segments : List Text} {labels : List (Option Text)}
    (h : segmentLabels mask numbering segments = .ok labels) :
    ∀ label, some label ∈ labels → Text.trim label = label := by
  have hall := forall₂_of_segmentLabels h
  clear h
  induction hall with
  | nil => nofun
  | cons hfirst _ ih =>
    obtain ⟨name, hname, rfl⟩ := hfirst
    intro label hlabel
    rcases List.mem_cons.mp hlabel with hlabel | hlabel
    · obtain ⟨-, rfl⟩ := Text.nonEmpty?_eq_some_iff.mp hlabel.symm
      exact segmentLabel_tidy hm hs hname
    · exact ih label hlabel

theorem operandLabels_tidy {mask : Mask} {numbering : Numbering} (hm : numbering.Tidy)
    (hs : numbering.Sound) {text : Text} {row : List Text}
    (h : operandLabels mask numbering text = .ok row) : ∀ label ∈ row, Text.trim label = label := by
  rw [operandLabels] at h
  cases hlabels : segmentLabels mask numbering (Chain.ofLine text).operands with
  | error fault =>
    rw [hlabels] at h
    cases h
  | ok labels =>
    rw [hlabels] at h
    cases h
    exact fun label hlabel => segmentLabels_tidy hm hs hlabels label (by simpa using hlabel)

/-- The labels of the nodes of a new numbering's diagram have no blanks around them. -/
theorem compile_tidy {settings : Settings} {t : Text} {d : Diagram} {after : Numbering}
    (h : compile settings Numbering.empty t = (.ok d, after)) :
    ∀ node ∈ d.nodes, Text.trim node.label = node.label := by
  obtain ⟨canvas, ⟨hcanvas, -, htidy⟩, -, hnodes⟩ := compile_induction settings Numbering.empty t
    (P := fun canvas => canvas.Sound ∧ canvas.numbering.Sound ∧ canvas.numbering.Tidy)
    ⟨Canvas.start_sound _, Numbering.empty_sound, List.forall_mem_nil _⟩
    fun mask canvas line text canvas' warnings ⟨hc, hs, hm⟩ hline => by
      obtain ⟨row, hrow, -, hnumbering⟩ := operandLabels_of_drawLine hc hline
      refine ⟨drawLine_sound hc hline, (drawLine_grows hs hline).1, ?_⟩
      rw [hnumbering]
      exact Numbering.assignAll_tidy row hm (operandLabels_tidy hm hs hrow)
  rw [h] at hnodes
  intro node hnode
  rw [(hnodes d rfl).1] at hnode
  exact htidy _ (mem_keys_of_mem <| mem_of_get?_eq_some (hcanvas.number_eq node hnode))

end Sketch

/-! ## Looking for a name -/

namespace Reference

/-- A colon with digits behind it, however many. -/
def IsFormed (t : Text) : Prop :=
  ∃ digits, t = ':' :: digits ∧ digits ≠ [] ∧ ∀ c ∈ digits, isAsciiDigit c = true

theorem number_of_not_isFormed {t : Text} (h : ¬ IsFormed t) : number t = .ok none := by
  rw [number]
  cases hdigits : digits? t with
  | none => rfl
  | some digits => exact absurd ⟨digits, digits?_eq_some_iff.mp hdigits⟩ h

end Reference

/-- Two nodes are called the same in lower case. -/
def Node.CalledLike (node other : Node) : Prop := Text.lower node.label = Text.lower other.label

instance (node other : Node) : Decidable (node.CalledLike other) :=
  inferInstanceAs (Decidable (_ = _))

theorem findNode_of_name (nodes : List Node) {ref : Text} (h : ¬ Reference.IsFormed (Text.trim ref)) :
    findNode ref nodes =
      .ok (nodes.find? fun node => Text.lower node.label = Text.lower (Text.trim ref)) := by
  rw [findNode, Reference.number_of_not_isFormed h]
  rfl

theorem Diagram.WellFormed.getElem?_order {d : Diagram} {numbering : Numbering}
    (h : d.WellFormed numbering) {node : Node} (hnode : node ∈ d.nodes) :
    d.nodes[node.order]? = some node := by
  obtain ⟨i, hi⟩ := List.mem_iff_getElem?.mp hnode
  rwa [h.order_eq i node hi]

namespace Sketch

/-- What a command means that is written with the label of a node: the first node that is called
the same in lower case. -/
structure NamesFirst (d : Diagram) (node first : Node) : Prop where
  mem : first ∈ d.nodes
  calledLike : first.CalledLike node
  /-- No such node stands before it. -/
  order_le : ∀ other ∈ d.nodes, other.CalledLike node → first.order ≤ other.order
  /-- It is what the label refers to, with blanks around it or without. -/
  found : ∀ ref, Text.trim ref = node.label → findNode ref d.nodes = .ok (some first)
  /-- The label refers to its own node exactly if every node before that one is called otherwise. -/
  self_iff : findNode node.label d.nodes = .ok (some node) ↔
    ∀ other ∈ d.nodes, other.order < node.order → ¬ other.CalledLike node
  /-- Commands that are written with the label act on what it refers to. -/
  rename_eq : ∀ {σ : Type} (sink : Sink σ) (state : σ) (label : Text),
    sink.execute d.nodes state (.rename node.label label) = sink.rename state first label
  select_eq : ∀ {σ : Type} (sink : Sink σ) (state : σ) (params : Text),
    sink.execute d.nodes state (.select node.label params) = sink.select state first params

/-- **A label means the first node that is called so in lower case**, in every diagram that is
compiled with a new numbering, unless the label looks like a reference. -/
theorem compile_namesFirst {settings : Settings} {t : Text} {d : Diagram} {after : Numbering}
    (h : compile settings Numbering.empty t = (.ok d, after)) {node : Node} (hnode : node ∈ d.nodes)
    (hname : ¬ Reference.IsFormed node.label) : ∃ first, NamesFirst d node first := by
  have htrim : Text.trim node.label = node.label := compile_tidy h node hnode
  have hfind : ∀ ref, Text.trim ref = node.label →
      findNode ref d.nodes = .ok (d.nodes.find? (Node.CalledLike · node)) := fun ref href => by
    rw [findNode_of_name d.nodes (href ▸ hname), href]
    rfl
  obtain ⟨first, hfirst⟩ : ∃ first, d.nodes.find? (Node.CalledLike · node) = some first :=
    Option.isSome_iff_exists.mp
      (List.find?_isSome.mpr ⟨node, hnode, decide_eq_true (rfl : node.CalledLike node)⟩)
  have hfound : ∀ ref, Text.trim ref = node.label → findNode ref d.nodes = .ok (some first) :=
    fun ref href => by rw [hfind ref href, hfirst]
  have hwell : d.WellFormed after := (compile_wellFormed Numbering.empty_reached h).1
  have horder : ∀ other ∈ d.nodes, other.CalledLike node → first.order ≤ other.order := by
    intro other hother hcalled
    obtain ⟨-, i, hi, hat, hbefore⟩ := List.find?_eq_some_iff_getElem.mp hfirst
    rw [hwell.order_eq i first (List.getElem?_eq_some_iff.mpr ⟨hi, hat⟩)]
    by_contra hlt
    obtain ⟨hj, hother'⟩ := List.getElem?_eq_some_iff.mp (hwell.getElem?_order hother)
    have hno := hbefore other.order (by omega)
    rw [hother'] at hno
    simp [hcalled] at hno
  have hself : (∀ other ∈ d.nodes, other.order < node.order → ¬ other.CalledLike node) →
      first = node := fun hno => by
    have hle := horder node hnode rfl
    have heq : first.order = node.order := by
      by_contra hne
      exact hno first (List.mem_of_find?_eq_some hfirst) (by omega)
        (by simpa using List.find?_some hfirst)
    rw [← Option.some.injEq, ← hwell.getElem?_order hnode, ← heq,
      hwell.getElem?_order (List.mem_of_find?_eq_some hfirst)]
  refine ⟨first, List.mem_of_find?_eq_some hfirst, by simpa using List.find?_some hfirst, horder,
    hfound, ?_, fun sink state label => ?_, fun sink state params => ?_⟩
  · rw [hfound _ htrim, Except.ok.injEq, Option.some.injEq]
    refine ⟨?_, hself⟩
    rintro rfl other hother hlt hcalled
    exact absurd (horder other hother hcalled) (by omega)
  · rw [Sink.execute, Sink.onNode, hfound _ htrim]
  · rw [Sink.execute, Sink.onNode, hfound _ htrim]

/-- A label in three spellings, one of them quoted with a blank and one behind a reference; the
last of them means the first node. -/
theorem compile_namesFirst_of_spellings :
    let d : Diagram := ⟨[⟨"Login", 1, .rectangle, 0⟩, ⟨"LOGIN", 2, .rectangle, 1⟩,
        ⟨"login", 3, .rectangle, 2⟩], [⟨0, "Login", "LOGIN", none⟩, ⟨1, "LOGIN", "login", none⟩],
      [], [], []⟩
    let after : Numbering := ⟨[("Login", 1), ("LOGIN", 2), ("login", 3)],
      [(1, "Login"), (2, "LOGIN"), (3, "login")], 4⟩
    let node : Node := ⟨"login", 3, .rectangle, 2⟩
    compile ⟨true, false⟩ Numbering.empty "Login -> \"LOGIN \"\n:2 -> login" = (.ok d, after) ∧
      node ∈ d.nodes ∧ ¬ Reference.IsFormed node.label ∧ ∃ first, NamesFirst d node first := by
  intro d after node
  have hc : compile ⟨true, false⟩ Numbering.empty "Login -> \"LOGIN \"\n:2 -> login" =
      (.ok d, after) := by
    decide +kernel
  have hnode : node ∈ d.nodes := by decide
  have hname : ¬ Reference.IsFormed node.label := by
    rintro ⟨digits, heq, -⟩
    cases heq
  exact ⟨hc, hnode, hname, compile_namesFirst hc hnode hname⟩

/-- The label of a node does not always find that node: the command renames the other one. -/
theorem findNode_ne_of_spellings :
    let d : Diagram := ⟨[⟨"Login", 1, .rectangle, 0⟩, ⟨"login", 2, .rectangle, 1⟩], [],
      [⟨.rename "login" "X", "=rename(login, X)", 3⟩], [], []⟩
    let after : Numbering := ⟨[("Login", 1), ("login", 2)], [(1, "Login"), (2, "login")], 3⟩
    compile ⟨true, false⟩ Numbering.empty "Login\nlogin\n=rename(login, X)" = (.ok d, after) ∧
      (¬ ∀ node ∈ d.nodes, ¬ Reference.IsFormed node.label →
        findNode node.label d.nodes = .ok (some node)) ∧
      journal.executeAll d.nodes [] (d.commands.map (·.request)) =
        ([.rename "Login" "X"], .ok [true]) := by
  intro d after
  refine ⟨by decide +kernel, fun h => ?_, by decide +kernel⟩
  have hname : ¬ Reference.IsFormed "login".toList := by
    rintro ⟨digits, heq, -⟩
    cases heq
  have hfound := h ⟨"login", 2, .rectangle, 1⟩ (by decide) hname
  exact absurd hfound (by decide +kernel)

end Sketch

end GraphSketch
