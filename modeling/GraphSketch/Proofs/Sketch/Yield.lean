import GraphSketch.Proofs.Chain.Lossless
import GraphSketch.Proofs.Sketch.Accounted
import GraphSketch.Proofs.Sketch.ArrowText
import Mathlib.Algebra.BigOperators.Group.List.Basic

/-!
# What arrows yield

An arrow of a drawn line has edges or a warning.  Which of them it has is decided in two places:
`linkEdges` makes edges of an arrow between two operands, and `danglingWarnings` looks for arrows
that lack one.  Both are read off the `Site` of the arrow, and `Yields` says what belongs to a site.

* `links_eq_sites` — the links of a chain are its sites.
* `lineYields_of_drawLine` — every site of a drawn line yields what belongs to it and nothing else.
* `arrows_yield` — this, and from it the number of edges of a diagram.
-/

set_option autoImplicit false

namespace GraphSketch

/-- An arrow of a line, with the labels of the operands beside it. -/
structure Site where
  placed : Placed
  left : Option Text
  right : Option Text

namespace Site

/-- There is an operand on both sides of the arrow. -/
def isJoined (s : Site) : Bool := s.left.isSome && s.right.isSome

/-- The arrow points both ways. -/
def isTwoWay (s : Site) : Bool := s.placed.arrow.direction = .bidirectional

/-- The arrow together with the operands beside it. -/
def link (s : Site) : Arrow × Option Text × Option Text := (s.placed.arrow, s.left, s.right)

end Site

/-- Whether the warning is about an arrow. -/
def Warning.isDangling : Warning → Bool
  | dangling _ _ _ => true
  | emptyLabel _ => false

namespace Chain

/-- The sites of a chain, of which each arrow stands between two neighbouring labels. -/
def sites (chain : Chain) (labels : List (Option Text)) : List Site :=
  List.zipWith (fun e ends => ⟨e, ends.1, ends.2⟩) chain.placed (labels.zip labels.tail)

variable {chain : Chain} {labels : List (Option Text)}

theorem map_placed_sites (h : labels.length = chain.arrows.length + 1) :
    (chain.sites labels).map Site.placed = chain.placed := by
  have hle : chain.placed.length ≤ (labels.zip labels.tail).length := by
    rw [← List.length_map (f := Placed.arrow), map_arrow_placed, List.length_zip, List.length_tail]
    omega
  rw [sites, List.map_zipWith]
  exact List.map_zip_eq_zipWith.symm.trans (List.map_fst_zip hle)

theorem length_sites (h : labels.length = chain.arrows.length + 1) :
    (chain.sites labels).length = chain.arrows.length := by
  rw [← List.length_map (f := Site.placed), map_placed_sites h, ← map_arrow_placed, List.length_map]

theorem mem_labels_of_mem_sites {s : Site} (h : s ∈ chain.sites labels) :
    s.left ∈ labels ∧ s.right ∈ labels := by
  rw [sites, ← List.map_uncurry_zip_eq_zipWith] at h
  obtain ⟨⟨e, left, right⟩, hmem, rfl⟩ := List.mem_map.mp h
  obtain ⟨hleft, hright⟩ := List.of_mem_zip (List.of_mem_zip hmem).2
  exact ⟨hleft, List.mem_of_mem_tail hright⟩

/-- **The links of a chain are its sites.** -/
theorem links_eq_sites (h : labels.length = chain.arrows.length + 1) :
    links chain.arrows labels = (chain.sites labels).map Site.link := by
  rw [← map_arrow_placed] at h ⊢
  rw [sites]
  generalize chain.placed = placed at h
  induction placed generalizing labels with
  | nil => rfl
  | cons e placed ih =>
    match labels, h with
    | left :: right :: labels, h =>
      have hrest : links (placed.map Placed.arrow) (right :: labels) = _ := ih (by simpa using h)
      simp [links, hrest, Site.link]

end Chain

namespace Sketch

/-! ## One arrow -/

/-- What an arrow yields on a line with the given number: its edges, and no warning, or a warning
if an operand is missing. -/
inductive Yields (line : Nat) : Site → List (Text × Text × Option Text) → List Warning → Prop
  | forward {position : Nat} {label : Option Text} {raw left right : Text} :
      Yields line ⟨⟨position, .forward, label, raw⟩, some left, some right⟩
        [(left, right, label)] []
  | backward {position : Nat} {label : Option Text} {raw left right : Text} :
      Yields line ⟨⟨position, .backward, label, raw⟩, some left, some right⟩
        [(right, left, label)] []
  | bidirectional {position : Nat} {label : Option Text} {raw left right : Text} :
      Yields line ⟨⟨position, .bidirectional, label, raw⟩, some left, some right⟩
        [(left, right, label), (right, left, label)] []
  | noLeft {e : Placed} {right : Option Text} :
      Yields line ⟨e, none, right⟩ [] [.dangling line e.arrow.raw (e.position + 1)]
  | noRight {e : Placed} {left : Option Text} :
      Yields line ⟨e, left, none⟩ [] [.dangling line e.arrow.raw (e.position + 1)]

/-- The warning about the arrow at a site. -/
def siteWarnings (line : Nat) (s : Site) : List Warning :=
  if s.isJoined then [] else [.dangling line s.placed.arrow.raw (s.placed.position + 1)]

theorem yields_site (line : Nat) (s : Site) :
    Yields line s (linkEdges s.link) (siteWarnings line s) := by
  obtain ⟨⟨position, direction, label, raw⟩, left, right⟩ := s
  cases left with
  | none => exact .noLeft
  | some left =>
    cases right with
    | none => exact .noRight
    | some right =>
      cases direction with
      | forward => exact .forward
      | backward => exact .backward
      | bidirectional => exact .bidirectional

theorem danglingWarnings_eq_sites {line : Nat} {chain : Chain} {labels : List (Option Text)}
    (h : labels.length = chain.arrows.length + 1) :
    danglingWarnings line chain labels = (chain.sites labels).flatMap (siteWarnings line) := by
  have hpositions : chain.positions =
      (chain.sites labels).map fun s => s.placed.position := by
    rw [← chain.map_position_placed, ← Chain.map_placed_sites h, List.map_map]
    rfl
  rw [danglingWarnings, Chain.links_eq_sites h, hpositions, List.zip_map', List.filterMap_map,
    List.filterMap_eq_flatMap_toList]
  refine List.flatMap_congr fun s _ => ?_
  obtain ⟨e, left, right⟩ := s
  cases left with
  | none => rfl
  | some left => cases right <;> rfl

theorem Yields.length_eq {line : Nat} {s : Site} {edges : List (Text × Text × Option Text)}
    {warnings : List Warning} (h : Yields line s edges warnings) :
    edges.length = (if s.isJoined then 1 else 0) + (if s.isJoined && s.isTwoWay then 1 else 0) ∧
      warnings.length = (if !s.isJoined then 1 else 0) ∧ ∀ w ∈ warnings, w.isDangling = true := by
  cases h with
  | noRight =>
    rename_i left
    cases left <;> exact ⟨rfl, rfl, by simp [Warning.isDangling]⟩
  | noLeft => exact ⟨rfl, rfl, by simp [Warning.isDangling]⟩
  | forward => exact ⟨rfl, rfl, nofun⟩
  | backward => exact ⟨rfl, rfl, nofun⟩
  | bidirectional => exact ⟨rfl, rfl, nofun⟩

/-! ## One line -/

/-- The edges and the warnings of one arrow. -/
abbrev Made := List (Text × Text × Option Text) × List Warning

/-- What a line yields that is drawn, given the labels of its operands and what each of its arrows
makes. -/
structure LineYields (mask : Mask) (canvas : Canvas) (line : Nat) (text : Text) (canvas' : Canvas)
    (warnings : List Warning) (labels : List (Option Text)) (made : List Made) : Prop where
  /-- An operand has a label unless what it names is empty. -/
  operands : List.Forall₂ (fun segment label => ∃ name,
    segmentLabel mask canvas.numbering segment = .ok name ∧ label = name.nonEmpty?)
    (Chain.ofLine text).operands labels
  /-- No arrow is passed over. -/
  arrows : ((Chain.ofLine text).sites labels).map (·.placed) = (Chain.ofLine text).placed
  yields : List.Forall₂ (fun site m => Yields line site m.1 m.2)
    ((Chain.ofLine text).sites labels) made
  /-- The line has these edges, behind all that were there before it. -/
  edges_eq : canvas'.edges = canvas.edges ++
    Canvas.counted canvas.edges.length (made.flatMap (·.1))
  /-- The line has these warnings, if there is an arrow on it, and otherwise none about arrows. -/
  warnings_eq : (Chain.ofLine text).arrows ≠ [] → warnings = made.flatMap (·.2)
  dangling_eq : warnings.filter Warning.isDangling = made.flatMap (·.2)
  /-- Every operand with a label becomes a node, also beside an arrow that lacks the other. -/
  nodes : ∀ label, some label ∈ labels → label ∈ canvas'.labels

/-- **Every arrow of a drawn line yields its edges or a warning**, whatever has been drawn before
it. -/
theorem lineYields_of_drawLine {shapes : List Shape} {mask : Mask} {canvas canvas' : Canvas}
    {line : Nat} {text : Text} {warnings : List Warning} {labels : List (Option Text)}
    (h : drawLine shapes mask canvas line text = .ok (canvas', warnings))
    (hlabels : segmentLabels mask canvas.numbering (Chain.ofLine text).operands = .ok labels) :
    LineYields mask canvas line text canvas' warnings labels
      (((Chain.ofLine text).sites labels).map fun s => (linkEdges s.link, siteWarnings line s)) := by
  obtain ⟨found, hfound, rfl, hwarnings⟩ := drawLine_eq_ok h
  rw [hlabels] at hfound
  cases hfound
  have hlength : labels.length = (Chain.ofLine text).arrows.length + 1 := by
    rw [(segmentLabels_ok hlabels).1, Chain.operands, List.length_map, Cut.gaps_length]
    rfl
  rw [danglingWarnings_eq_sites hlength] at hwarnings
  have hmade : (Chain.ofLine text).arrows ≠ [] →
      warnings = ((Chain.ofLine text).sites labels).flatMap (siteWarnings line) := fun hne => by
    rw [hwarnings, if_neg (by simpa using hne)]
  refine {
    operands := forall₂_of_segmentLabels hlabels
    arrows := Chain.map_placed_sites hlength
    yields := List.forall₂_map_right_iff.mpr (List.forall₂_same.mpr fun s _ => yields_site line s)
    edges_eq := ?_
    warnings_eq := fun hne => by rw [hmade hne, List.flatMap_map]
    dangling_eq := ?_
    nodes := fun label hlabel => ?_ }
  · rw [Canvas.connect_edges, Canvas.addNodes_edges, Chain.links_eq_sites hlength,
      List.flatMap_map, List.flatMap_map]
  · rw [List.flatMap_map]
    by_cases hne : (Chain.ofLine text).arrows = []
    · have hsites : (Chain.ofLine text).sites labels = [] := by
        rw [← List.length_eq_zero_iff, Chain.length_sites hlength, hne, List.length_nil]
      rw [hwarnings, hsites, if_pos (by simp [hne])]
      split <;> rfl
    · rw [hmade hne, List.filter_eq_self]
      intro w hw
      obtain ⟨s, _, hw⟩ := List.mem_flatMap.mp hw
      exact (yields_site line s).length_eq.2.2 w hw
  · rw [Canvas.connect_labels, Canvas.mem_labels_addNodes]
    exact Or.inl (by simpa using hlabel)

/-- Arrows with both operands are counted by the edges of a line, and all others by its warnings. -/
theorem length_of_yields {line : Nat} {sites : List Site} {made : List Made}
    (h : List.Forall₂ (fun site m => Yields line site m.1 m.2) sites made) :
    (made.flatMap (·.1)).length =
        sites.countP Site.isJoined + sites.countP (fun s => s.isJoined && s.isTwoWay) ∧
      (made.flatMap (·.2)).length = sites.countP (fun s => !s.isJoined) := by
  induction h with
  | nil => exact ⟨rfl, rfl⟩
  | cons hfirst _ ih =>
    obtain ⟨hedges, hwarnings, -⟩ := hfirst.length_eq
    simp only [List.flatMap_cons, List.length_append, List.countP_cons]
    omega

/-! ## All lines -/

/-- The arrows of a line that is drawn. -/
def Entry.sites (mask : Mask) (e : Entry) : List Site :=
  if e.outcome.isDrawn then
    match segmentLabels mask e.canvas.numbering (Chain.ofLine (e.line.masked mask)).operands with
    | .ok labels => (Chain.ofLine (e.line.masked mask)).sites labels
    | .error _ => []
  else []

/-- What the lines of a sketch yield, and what of this is in its diagram. -/
structure ParseYields (t : Text) (entries : List Entry) (d : Diagram) : Prop where
  /-- No line is left out. -/
  lines_eq : entries.map (·.line) = logicalLines t
  drawn : ∀ e ∈ entries, ∀ canvas' warnings, e.outcome = .drawn canvas' warnings →
    ∃ labels made, LineYields (Mask.ofText t) e.canvas e.line.number
        (e.line.masked (Mask.ofText t)) canvas' warnings labels made ∧
      e.sites (Mask.ofText t) = (Chain.ofLine (e.line.masked (Mask.ofText t))).sites labels
  edges_eq : d.edges = entries.flatMap (·.edges)
  /-- There is an edge for each arrow that has both operands, and another if it points both ways. -/
  edges_length : d.edges.length =
    (entries.flatMap (·.sites (Mask.ofText t))).countP Site.isJoined +
      (entries.flatMap (·.sites (Mask.ofText t))).countP fun s => s.isJoined && s.isTwoWay
  /-- There is a warning for each of the other arrows. -/
  dangling_length : (d.warnings.filter Warning.isDangling).length =
    (entries.flatMap (·.sites (Mask.ofText t))).countP fun s => !s.isJoined
  nodes : ∀ s ∈ entries.flatMap (·.sites (Mask.ofText t)), ∀ label,
    s.left = some label ∨ s.right = some label → label ∈ d.nodes.map (·.label)

variable {settings : Settings} {mask : Mask} {canvas : Canvas} {l : LogicalLine}

/-- A line that is reached yields what belongs to its arrows if it is drawn. -/
theorem exists_lineYields {canvas' : Canvas} {warnings : List Warning}
    (h : Becomes settings mask canvas l (.drawn canvas' warnings)) :
    ∃ labels made, LineYields mask canvas l.number (l.masked mask) canvas' warnings labels made ∧
      Entry.sites mask ⟨l, canvas, .drawn canvas' warnings⟩ =
        (Chain.ofLine (l.masked mask)).sites labels := by
  cases h with
  | drawn hd hb hdraw =>
    obtain ⟨labels, hlabels, -⟩ := drawLine_eq_ok hdraw
    exact ⟨labels, _, lineYields_of_drawLine hdraw hlabels,
      by simp [Entry.sites, Outcome.isDrawn, hlabels]⟩

theorem Becomes.length_eq {o : Outcome} (h : Becomes settings mask canvas l o) :
    (Entry.edges ⟨l, canvas, o⟩).length =
        (Entry.sites mask ⟨l, canvas, o⟩).countP Site.isJoined +
          (Entry.sites mask ⟨l, canvas, o⟩).countP (fun s => s.isJoined && s.isTwoWay) ∧
      (o.warnings.filter Warning.isDangling).length =
        (Entry.sites mask ⟨l, canvas, o⟩).countP fun s => !s.isJoined := by
  cases o with
  | drawn canvas' warnings =>
    obtain ⟨labels, made, hline, hsites⟩ := exists_lineYields h
    obtain ⟨hedges, hwarnings⟩ := length_of_yields hline.yields
    rw [hsites, Entry.edges, Outcome.next, hline.edges_eq, List.drop_left, Canvas.length_counted,
      Outcome.warnings, hline.dangling_eq]
    exact ⟨hedges, hwarnings⟩
  | _ => simp [Entry.edges, Entry.sites, Outcome.isDrawn, Outcome.next, Outcome.warnings]

theorem Entry.names_of_mem_sites {e : Entry} {s : Site} {label : Text} (h : s ∈ e.sites mask)
    (hlabel : s.left = some label ∨ s.right = some label) : e.Names mask label := by
  rw [Entry.sites] at h
  split at h
  · rename_i hdrawn
    split at h
    · rename_i labels hlabels
      obtain ⟨hleft, hright⟩ := Chain.mem_labels_of_mem_sites h
      refine ⟨hdrawn, labels, hlabels, ?_⟩
      rcases hlabel with hlabel | hlabel
      · exact hlabel ▸ hleft
      · exact hlabel ▸ hright
    · cases h
  · cases h

theorem parseYields_of_compile {numbering after : Numbering} {t : Text} {d : Diagram}
    (h : compile settings numbering t = (.ok d, after)) :
    ParseYields (normalize t) (trace settings numbering t) d := by
  have hnodes := @mem_nodes_iff _ _ _ _ _ h
  have hlength := fun e (he : e ∈ trace settings numbering t) =>
    (becomes_of_mem_trace he).length_eq
  obtain ⟨hlines, -, rfl⟩ := compile_eq_ok h
  have hedges : (lastCanvas (Canvas.start numbering) (trace settings numbering t)).edges =
      (trace settings numbering t).flatMap Entry.edges := lastCanvas_edges
  refine ⟨hlines, fun e he canvas' warnings ho => ?_, hedges, ?_, ?_, fun s hs label hlabel => ?_⟩
  · have hbecomes := becomes_of_mem_trace he
    obtain ⟨l, canvas, o⟩ := e
    cases ho
    exact exists_lineYields hbecomes
  · simp only [hedges, List.length_flatMap, List.countP_flatMap, ← List.sum_map_add]
    exact congrArg List.sum (List.map_congr_left fun e he => (hlength e he).1)
  · simp only [List.filter_flatMap, List.length_flatMap, List.countP_flatMap]
    exact congrArg List.sum (List.map_congr_left fun e he => (hlength e he).2)
  · obtain ⟨e, he, hs⟩ := List.mem_flatMap.mp hs
    exact hnodes.mpr ⟨e, he, Entry.names_of_mem_sites hs hlabel⟩

/-- **Every arrow yields its edges or a warning**, on every line that is drawn and whatever has been
drawn before it; so the edges of a diagram are counted by the arrows that have both operands. -/
theorem arrows_yield (settings : Settings) :
    (∀ mask canvas line text canvas' warnings,
      drawLine settings.shapes mask canvas line text = .ok (canvas', warnings) →
        ∃ labels made, LineYields mask canvas line text canvas' warnings labels made) ∧
    ∀ numbering t d after, compile settings numbering t = (.ok d, after) →
      ParseYields (normalize t) (trace settings numbering t) d := by
  refine ⟨fun mask canvas line text canvas' warnings h => ?_, fun numbering t d after h =>
    parseYields_of_compile h⟩
  obtain ⟨labels, hlabels, -⟩ := drawLine_eq_ok h
  exact ⟨labels, _, lineYields_of_drawLine h hlabels⟩

/-- Operands that are missing at the end of a line, for a blank label that is written, and for one
under a number; and a line by itself. -/
theorem arrows_yield_of_blank_labels :
    let t : Text := ":1 -> A <-x-> B <-\n\"\" -> C <- D"
    let numbering : Numbering := ⟨[("", 1)], [(1, "")], 2⟩
    let after : Numbering := ⟨[("", 1), ("A", 2), ("B", 3), ("C", 4), ("D", 5)],
      [(1, ""), (2, "A"), (3, "B"), (4, "C"), (5, "D")], 6⟩
    let d : Diagram := ⟨[⟨"A", 2, .rectangle, 0⟩, ⟨"B", 3, .rectangle, 1⟩, ⟨"C", 4, .rectangle, 2⟩,
        ⟨"D", 5, .rectangle, 3⟩],
      [⟨0, "A", "B", some "x"⟩, ⟨1, "B", "A", some "x"⟩, ⟨2, "D", "C", none⟩], [], [],
      [.dangling 1 "->" 4, .dangling 1 "<-" 17, .dangling 2 "->" 14]⟩
    let canvas : Canvas := ⟨⟨[("", 1), ("B", 2)], [(1, ""), (2, "B")], 3⟩,
      [⟨"B", 2, .rectangle, 0⟩], []⟩
    compile ⟨false, false⟩ numbering t = (.ok d, after) ∧
      ParseYields (normalize t) (trace ⟨false, false⟩ numbering t) d ∧
      drawLine Shape.basic (Mask.ofText []) (Canvas.start numbering) 7 ":1 <- B" =
        .ok (canvas, [.dangling 7 "<-" 4]) ∧
      ∃ labels made, LineYields (Mask.ofText []) (Canvas.start numbering) 7 ":1 <- B" canvas
        [.dangling 7 "<-" 4] labels made := by
  intro t numbering after d canvas
  have h : compile ⟨false, false⟩ numbering t = (.ok d, after) := by decide +kernel
  have hline : (drawLine Shape.basic (Mask.ofText []) (Canvas.start numbering) 7 ":1 <- B") =
      .ok (canvas, [.dangling 7 "<-" 4]) := by rfl
  exact ⟨h, (arrows_yield ⟨false, false⟩).2 _ _ _ _ h, hline,
    (arrows_yield ⟨false, false⟩).1 _ _ _ _ _ _ hline⟩

end Sketch

end GraphSketch
