import GraphSketch.Proofs.Numbering.Row
import GraphSketch.Proofs.Sketch.Repeat
import GraphSketch.Proofs.Sketch.Structure

/-!
# First mentions

The nodes of a diagram, and the numbers that are given out for it, come in the order in which labels
are first mentioned.  A line mentions the labels of its operands, from left to right, with references
followed; a line that is left out mentions nothing.  The labels of a text can therefore be read off
its lines (`MentionOrder`), though each line is resolved only when it is reached and becomes part of
the graph only as a whole.

* `operandLabels_of_drawLine` — what one drawn line mentions, and what it does with it.
* `Mentions.cons`, `mentions_of_drawOnly` — the same for lines that are drawn one after the other, by
  induction.
* `compile_mentionOrder` — nodes and numbers of a diagram follow first mention.
-/

set_option autoImplicit false

namespace GraphSketch

namespace Sketch

/-- The labels that the operands of a masked line name, from left to right; operands that name
nothing are passed over. -/
def operandLabels (mask : Mask) (numbering : Numbering) (text : Text) :
    Except ResolveFault (List Text) :=
  (segmentLabels mask numbering (Chain.ofLine text).operands).map (List.filterMap id)

/-- What lines mention, row by row, and what has become of it when they are drawn. -/
structure Mentions (mask : Mask) (canvas : Canvas) (lines : List LogicalLine) (canvas' : Canvas)
    (rows : List (List Text)) : Prop where
  /-- Each row holds what its line names under the numbers at the end. -/
  resolved : List.Forall₂ (fun l row =>
    operandLabels mask canvas'.numbering (l.masked mask) = .ok row) lines rows
  /-- It is what the line names when it is reached, that is, after the rows before it. -/
  resolved_before : ∀ (i : Nat) l row, lines[i]? = some l → rows[i]? = some row →
    operandLabels mask (canvas.numbering.assignAll (rows.take i).flatten) (l.masked mask) = .ok row
  labels_eq : ∀ mentioned : List Text, canvas.labels = mentioned.eraseDups →
    canvas'.labels = (mentioned ++ rows.flatten).eraseDups
  numbering_eq : canvas'.numbering = canvas.numbering.assignAll rows.flatten
  sound : canvas'.Sound

variable {shapes : List Shape} {mask : Mask} {canvas canvas' : Canvas} {text : Text}
  {warnings : List Warning}

/-! ## One line -/

theorem operandLabels_of_grows {m m' : Numbering} (hm : m.Grows m') {row : List Text}
    (h : operandLabels mask m text = .ok row) : operandLabels mask m' text = .ok row := by
  rw [operandLabels] at h ⊢
  cases hlabels : segmentLabels mask m (Chain.ofLine text).operands with
  | error fault =>
    rw [hlabels] at h
    cases h
  | ok labels =>
    rw [segmentLabels_of_grows hm hlabels, ← hlabels, h]

/-- **What a drawn line mentions** becomes its nodes and is given its numbers, from left to right. -/
theorem operandLabels_of_drawLine {line : Nat} (hc : canvas.Sound)
    (h : drawLine shapes mask canvas line text = .ok (canvas', warnings)) :
    ∃ row, operandLabels mask canvas.numbering text = .ok row ∧
      (∀ mentioned : List Text, canvas.labels = mentioned.eraseDups →
        canvas'.labels = (mentioned ++ row).eraseDups) ∧
      canvas'.numbering = canvas.numbering.assignAll row := by
  obtain ⟨labels, hlabels, rfl, -⟩ := drawLine_eq_ok h
  have hne : ∀ label ∈ labels.filterMap id, label ≠ [] := fun label hl =>
    (segmentLabels_ok hlabels).2 label (by simpa using hl)
  refine ⟨labels.filterMap id, ?_, fun mentioned hmentioned => ?_, ?_⟩
  · rw [operandLabels, hlabels]
    rfl
  · rw [Canvas.connect_labels]
    exact Canvas.addNodes_labels shapes _ hmentioned
  · rw [Canvas.connect_numbering, Canvas.addNodes_numbering_of_sound shapes _ hc hne]

/-! ## Lines -/

/-- A line that is drawn before others mentions what it mentions before them. -/
theorem Mentions.cons {l : LogicalLine} {lines : List LogicalLine} {rows : List (List Text)}
    {next : Canvas} (hc : canvas.Sound) (hn : canvas.numbering.Sound)
    (hline : drawLine shapes mask canvas l.number (l.masked mask) = .ok (next, warnings))
    (hrows : Mentions mask next lines canvas' rows) :
    ∃ row, Mentions mask canvas (l :: lines) canvas' (row :: rows) := by
  obtain ⟨row, hrow, hlabels, hnumbering⟩ := operandLabels_of_drawLine hc hline
  obtain ⟨hsound, hgrows⟩ := drawLine_grows hn hline
  have hlater : next.numbering.Grows canvas'.numbering := by
    rw [hrows.numbering_eq]
    exact Numbering.assignAll_grows _ hsound
  have hend := operandLabels_of_grows (hgrows.trans hlater) hrow
  refine ⟨row, .cons hend hrows.resolved, fun i => ?_, fun mentioned hmentioned => ?_, ?_,
    hrows.sound⟩
  · cases i with
    | zero =>
      rintro _ _ ⟨⟩ ⟨⟩
      exact hrow
    | succ i =>
      intro l' row' hl hrow'
      rw [List.take_succ_cons, List.flatten_cons, Numbering.assignAll_append, ← hnumbering]
      exact hrows.resolved_before i l' row' hl hrow'
  · rw [hrows.labels_eq _ (hlabels mentioned hmentioned), List.flatten_cons, List.append_assoc]
  · rw [hrows.numbering_eq, hnumbering, ← Numbering.assignAll_append, List.flatten_cons]

/-- **What drawn lines mention**, one after the other. -/
theorem mentions_of_drawOnly : ∀ {lines : List LogicalLine} {canvas canvas' : Canvas}
    {warnings : List Warning}, canvas.Sound → canvas.numbering.Sound →
    drawOnly shapes mask canvas lines = .ok (canvas', warnings) →
      ∃ rows, Mentions mask canvas lines canvas' rows
  | [], canvas, _, _, hc, _, h => by
    cases h
    exact ⟨[], .nil, nofun, fun mentioned h => by rwa [List.flatten_nil, List.append_nil], rfl, hc⟩
  | l :: lines, canvas, _, _, hc, hn, h => by
    obtain ⟨next, first, rest, hline, hdrawn, -⟩ := drawOnly_cons_eq_ok h
    obtain ⟨rows, hrows⟩ := mentions_of_drawOnly (drawLine_sound hc hline)
      (drawLine_grows hn hline).1 hdrawn
    obtain ⟨row, hrow⟩ := hrows.cons hc hn hline
    exact ⟨row :: rows, hrow⟩

/-! ## Diagrams -/

/-- The nodes of a diagram and the numbers given out for it follow what its lines mention. -/
structure MentionOrder (numbering : Numbering) (t : Text) (d : Diagram) (after : Numbering)
    (rows : List (List Text)) : Prop where
  /-- There is a row for each structural line that is not reported: the labels that its operands
  name, with references resolved. -/
  resolved : List.Forall₂ (fun l row => operandLabels (Mask.ofText (normalize t)) after
    (l.masked (Mask.ofText (normalize t))) = .ok row) (drawnLines (normalize t) d) rows
  /-- The references of a line mean what they mean when the rows before it have their numbers. -/
  resolved_before : ∀ (i : Nat) l row, (drawnLines (normalize t) d)[i]? = some l →
    rows[i]? = some row →
      operandLabels (Mask.ofText (normalize t)) (numbering.assignAll (rows.take i).flatten)
        (l.masked (Mask.ofText (normalize t))) = .ok row
  /-- The nodes are in the order in which their labels are first mentioned. -/
  labels_eq : d.nodes.map (·.label) = rows.flatten.eraseDups
  nodeOrder_eq : d.nodeOrder = rows.flatten.eraseDups
  /-- A node carries the number of its label. -/
  number_eq : ∀ node ∈ d.nodes, after.number? node.label = some node.number
  /-- The labels without a number have got the next ones, in that order. -/
  given : ∀ (i : Nat) label,
    (d.nodeOrder.filter fun label => !numbering.has label)[i]? = some label →
      after.number? label = some (numbering.next + i)
  /-- For every other label nothing has changed. -/
  kept : ∀ label, label ∉ d.nodeOrder.filter (fun label => !numbering.has label) →
    after.number? label = numbering.number? label
  /-- The counter has moved on past the labels that were new. -/
  next_eq : after.next =
    numbering.next + (d.nodeOrder.filter fun label => !numbering.has label).length

theorem mergeSort_nodes (hc : canvas.Sound) :
    canvas.nodes.mergeSort (fun a b => a.order ≤ b.order) = canvas.nodes := by
  refine List.mergeSort_of_pairwise (List.pairwise_iff_getElem.mpr fun i j hi hj hij => ?_)
  rw [hc.order_eq i _ (List.getElem?_eq_getElem hi), hc.order_eq j _ (List.getElem?_eq_getElem hj)]
  exact decide_eq_true (Nat.le_of_lt hij)

/-- **Nodes and numbers follow first mention**: whatever lines are left out and whatever labels have
numbers before, the labels of the lines that remain, read from top to bottom and from left to right,
are the nodes, and those of them that are new get the next numbers in a row. -/
theorem compile_mentionOrder {settings : Settings} {numbering after : Numbering} {t : Text}
    {d : Diagram} (hreached : numbering.Reached)
    (h : compile settings numbering t = (.ok d, after)) :
    ∃ rows, MentionOrder numbering t d after rows := by
  obtain ⟨rows, hrows⟩ := mentions_of_drawOnly (Canvas.start_sound numbering) hreached.sound
    (drawOnly_drawnLines h)
  have hafter : after = numbering.extend (numbering.newOf rows.flatten) :=
    hrows.numbering_eq.trans (Numbering.assignAll_eq_extend _ hreached.sound.isAhead)
  have hlabels : d.nodes.map (·.label) = rows.flatten.eraseDups := hrows.labels_eq [] rfl
  have horder : d.nodeOrder = rows.flatten.eraseDups := by
    rw [Diagram.nodeOrder, mergeSort_nodes hrows.sound, hlabels]
  have hnew : d.nodeOrder.filter (fun label => !numbering.has label) =
      numbering.newOf rows.flatten := by
    rw [horder, filter_eraseDups, Numbering.newOf]
  refine ⟨rows, hrows.resolved, hrows.resolved_before, hlabels, horder, hrows.sound.number_eq,
    ?_, ?_, ?_⟩
  · intro i label hi
    rw [hnew] at hi
    have hnone := (Numbering.mem_newOf_iff.mp (List.mem_of_getElem? hi)).2
    rw [hafter]
    exact Numbering.number?_extend_of_getElem? hnone (Numbering.nodup_newOf _ _) hi
  · intro label hlabel
    rw [hnew] at hlabel
    rw [hafter, Numbering.number?_extend_of_notMem hlabel]
  · rw [hnew, hafter]
    rfl

/-- References to a label from before and to one of the same text, a label beside an arrow to itself,
and a line that is left out: its first label gets no number, until another line mentions it. -/
theorem compile_mentionOrder_of_references :
    let numbering : Numbering := ⟨[("A", 3), ("B", 3)], [(3, "B")], 4⟩
    let after : Numbering :=
      ⟨[("A", 3), ("B", 3), ("C", 4), ("D", 5)], [(3, "B"), (4, "C"), (5, "D")], 6⟩
    let t : Text := "C -> :3\nD -> :9 -> E\nC -> C ->\n:4 -> D <- \"A\""
    let d : Diagram := ⟨[⟨"C", 4, .rectangle, 0⟩, ⟨"B", 3, .rectangle, 1⟩, ⟨"D", 5, .rectangle, 2⟩,
        ⟨"A", 3, .rectangle, 3⟩],
      [⟨0, "C", "B", none⟩, ⟨1, "C", "C", none⟩, ⟨2, "C", "D", none⟩, ⟨3, "A", "D", none⟩], [],
      [⟨2, "D -> :9 -> E", ⟨":9", some 9⟩⟩], [.dangling 3 "->" 8]⟩
    numbering.Reached ∧ compile ⟨true, false⟩ numbering t = (.ok d, after) ∧
      ∃ rows, MentionOrder numbering t d after rows := by
  intro numbering after t d
  have hreached : numbering.Reached :=
    ⟨.obj [("labelToId", .obj [("A", .int 3), ("B", .int 3)])], numbering, [],
      Numbering.isMapping_of_field? rfl (by decide), rfl, rfl⟩
  have hcompile : compile ⟨true, false⟩ numbering t = (.ok d, after) := by decide +kernel
  exact ⟨hreached, hcompile, compile_mentionOrder hreached hcompile⟩

end Sketch

end GraphSketch
