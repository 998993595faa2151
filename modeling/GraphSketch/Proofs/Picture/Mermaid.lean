import GraphSketch.Proofs.Picture.Covers
import GraphSketch.Proofs.Text.Split

/-!
# Mermaid code tells what it draws

Mermaid code is made up of statements, one a line, and no label can look like the end of its own
statement: whatever the labels are, the statements can be told apart and each of them read back.

* `Mermaid.statements`, `Mermaid.lines_code` — the lines of the code.
* `Mermaid.kindOf` — what tells the kinds of statements apart.
* `Mermaid.told_of_nodeStatement`, `Mermaid.told_of_edgeStatement`,
  `Mermaid.styleParts_of_styleStatement` — what a statement says can be read from it.
* `Mermaid.agree_of_code_eq`, `Document.agree_of_mermaid_eq` — pictures and documents with the same
  code are told in the same words.
-/

set_option autoImplicit false

namespace GraphSketch

open Picture (DrawnNode DrawnEdge Shows isKeyChar numberKey isKeyChar_of_mem notMem_numberKey
  newline_notMem_escapeLabel)

namespace Mermaid

/-! ## Labels -/

theorem notMem_nodeLabel {c : Char} (hc : c = '"' ∨ c = '\n') (t : Text) : c ∉ nodeLabel t := by
  intro h
  rcases Text.mem_replaceChar h with h | ⟨h, hne⟩
  · rcases hc with rfl | rfl <;> exact absurd h (by decide)
  · rcases hc with rfl | rfl
    · exact hne rfl
    · exact newline_notMem_escapeLabel t h

theorem notMem_edgeLabel {c : Char} (hc : c = '|' ∨ c = '\n') (t : Text) : c ∉ edgeLabel t := by
  intro h
  rcases Text.mem_replaceChar h with h | ⟨h, hne⟩
  · rcases hc with rfl | rfl <;> exact absurd h (by decide)
  · rcases hc with rfl | rfl
    · exact hne rfl
    · exact newline_notMem_escapeLabel t h

/-! ## Statements -/

/-- The statement of a node. -/
def nodeStatement (node : Picture.Node) : Text :=
  "  " ++ node.key ++ (brackets node.shape).1 ++ "\"" ++ nodeLabel node.label ++ "\"" ++
    (brackets node.shape).2

/-- The label of an edge between its bars, if it has one. -/
def labelPart : Option Text → Text
  | some label => "|" ++ edgeLabel label ++ "|"
  | none => []

/-- The statement of an edge. -/
def edgeStatement (e : Picture.Edge) : Text :=
  "  " ++ e.source ++ " -->" ++ labelPart e.label ++ " " ++ e.target

/-- Whether a node has any setting of a style. -/
def isStyled (node : Picture.Node) : Bool := !(styleParts node).isEmpty

/-- The statement of the style of a node. -/
def styleStatement (node : Picture.Node) : Text :=
  "  style " ++ node.key ++ " " ++ Text.join "," (styleParts node)

theorem styleLine_eq (node : Picture.Node) :
    styleLine node = if isStyled node then styleStatement node ++ ("\n" : Text) else [] := by
  unfold styleLine isStyled styleStatement
  cases styleParts node <;> rfl

/-- The statements of a picture behind the heading. -/
def statements (picture : Picture) : List Text :=
  picture.nodes.map nodeStatement ++ picture.edges.map edgeStatement ++
    (picture.nodes.filter isStyled).map styleStatement

/-- The statement with which the code begins. -/
def heading (picture : Picture) : Text := "flowchart " ++ picture.orientation.name

theorem code_eq (picture : Picture) : code picture =
    (heading picture :: statements picture).flatMap fun t => t ++ ("\n" : Text) := by
  have hnodes : ∀ nodes : List Picture.Node,
      (nodes.map nodeStatement).flatMap (fun t => t ++ ("\n" : Text)) =
        nodes.flatMap nodeLine := by
    intro nodes
    rw [List.flatMap_map]
    rfl
  have hedges : ∀ edges : List Picture.Edge,
      (edges.map edgeStatement).flatMap (fun t => t ++ ("\n" : Text)) =
        edges.flatMap edgeLine := by
    intro edges
    rw [List.flatMap_map]
    rfl
  have hstyles : ∀ nodes : List Picture.Node,
      ((nodes.filter isStyled).map styleStatement).flatMap (fun t => t ++ ("\n" : Text)) =
        nodes.flatMap styleLine := by
    intro nodes
    induction nodes with
    | nil => rfl
    | cons node nodes ih =>
      rw [List.flatMap_cons, ← ih, styleLine_eq, List.filter_cons]
      split <;> rfl
  have hparts : ∀ (first : Text) (nodes edges styles : List Text) (f : Text → Text),
      (first :: (nodes ++ edges ++ styles)).flatMap f =
        f first ++ nodes.flatMap f ++ edges.flatMap f ++ styles.flatMap f := by
    intro first nodes edges styles f
    simp only [List.flatMap_cons, List.flatMap_append, List.append_assoc]
  rw [statements, hparts, hnodes, hedges, hstyles]
  rfl

/-! ## Reading statements -/

theorem nodeStatement_eq (node : Picture.Node) : nodeStatement node =
    ' ' :: ' ' :: (node.key ++ ((brackets node.shape).1 ++
      '"' :: (nodeLabel node.label ++ '"' :: (brackets node.shape).2))) := by
  have hassoc : ∀ a b c d e f g : Text, a ++ b ++ c ++ d ++ e ++ f ++ g =
      a ++ (b ++ (c ++ (d ++ (e ++ (f ++ g))))) := by
    intro a b c d e f g
    simp only [List.append_assoc]
  exact hassoc "  " _ _ ['"'] _ ['"'] _

theorem edgeStatement_eq (e : Picture.Edge) : edgeStatement e =
    ' ' :: ' ' :: (e.source ++ ' ' :: '-' :: '-' :: '>' ::
      (labelPart e.label ++ ' ' :: e.target)) := by
  have hassoc : ∀ a b c d e f : Text, a ++ b ++ c ++ d ++ e ++ f =
      a ++ (b ++ (c ++ (d ++ (e ++ f)))) := by
    intro a b c d e f
    simp only [List.append_assoc]
  exact hassoc "  " _ " -->" _ [' '] _

theorem styleStatement_eq (node : Picture.Node) : styleStatement node =
    "  style ".toList ++ (node.key ++ ' ' :: Text.join "," (styleParts node)) := by
  have hassoc : ∀ a b c d : Text, a ++ b ++ c ++ d = a ++ (b ++ (c ++ d)) := by
    intro a b c d
    simp only [List.append_assoc]
  exact hassoc "  style " _ [' '] _

/-- The brackets of the shapes. -/
def bracketPairs : List (Text × Text) :=
  [("((", "))"), ("\x7b", "\x7d"), ("\x7b\x7b", "\x7d\x7d"), ("[", "]")]

theorem brackets_mem (shape : Text) : brackets shape ∈ bracketPairs := by
  unfold brackets
  dsimp only
  split
  · exact List.mem_of_getElem? (i := 0) rfl
  · split
    · exact List.mem_of_getElem? (i := 1) rfl
    · split
      · exact List.mem_of_getElem? (i := 2) rfl
      · exact List.mem_of_getElem? (i := 3) rfl

/-- A bracket ends the key before it, and holds neither a quote nor a line feed. -/
theorem opening_cases (shape : Text) : ∃ c rest, (brackets shape).1 = c :: rest ∧
    isKeyChar c = false ∧ c ≠ ' ' ∧ c ≠ 's' ∧
    '"' ∉ (brackets shape).1 ∧ '\n' ∉ (brackets shape).1 ∧ '\n' ∉ (brackets shape).2 := by
  have hpairs : ∀ pair ∈ bracketPairs, isKeyChar (pair.1.headD ' ') = false ∧
      pair.1.headD ' ' ≠ ' ' ∧ pair.1.headD ' ' ≠ 's' ∧
      '"' ∉ pair.1 ∧ '\n' ∉ pair.1 ∧ '\n' ∉ pair.2 := by decide
  obtain ⟨hkey, hblank, hstyle, hrest⟩ := hpairs _ (brackets_mem shape)
  cases h : (brackets shape).1 with
  | nil =>
    rw [h] at hblank
    exact absurd rfl hblank
  | cons c rest =>
    rw [h] at hkey hblank hstyle hrest
    exact ⟨c, rest, rfl, hkey, hblank, hstyle, hrest⟩

/-! ## Kinds of statements -/

/-- The kinds of statements. -/
inductive Kind where
  | node
  | edge
  | style
  deriving DecidableEq

/-- The kind of a statement: a blank follows the key of an edge's source, and the word `style`
cannot begin a key. -/
def kindOf (statement : Text) : Kind :=
  match (statement.drop 2).dropWhile isKeyChar with
  | ' ' :: _ => .edge
  | 's' :: _ => .style
  | _ => .node

variable {node : GraphSketch.Node} {drawn : Picture.Node}

theorem kindOf_nodeStatement (h : DrawnNode node drawn) : kindOf (nodeStatement drawn) = .node := by
  obtain ⟨c, rest, hopening, hkey, hblank, hstyle, -⟩ := opening_cases drawn.shape
  have hdrop : ((nodeStatement drawn).drop 2).dropWhile isKeyChar =
      c :: (rest ++ '"' :: (nodeLabel drawn.label ++ '"' :: (brackets drawn.shape).2)) := by
    rw [nodeStatement_eq, hopening, h.key]
    exact Text.dropWhile_append_cons isKeyChar_of_mem hkey
  unfold kindOf
  rw [hdrop]
  split
  · rename_i heq
    exact absurd (List.cons.inj heq).1 hblank
  · rename_i heq
    exact absurd (List.cons.inj heq).1 hstyle
  · rfl

theorem kindOf_edgeStatement {nodes : List GraphSketch.Node} {e : GraphSketch.Edge}
    {line : Picture.Edge} (h : DrawnEdge nodes e line) : kindOf (edgeStatement line) = .edge := by
  obtain ⟨source, -, -, hsource⟩ := h.source
  have hdrop : ((edgeStatement line).drop 2).dropWhile isKeyChar =
      ' ' :: '-' :: '-' :: '>' :: (labelPart line.label ++ ' ' :: line.target) := by
    rw [edgeStatement_eq, hsource]
    exact Text.dropWhile_append_cons isKeyChar_of_mem rfl
  rw [kindOf, hdrop]
  rfl

theorem kindOf_styleStatement (node : Picture.Node) : kindOf (styleStatement node) = .style := by
  rw [styleStatement_eq]
  rfl

/-! ## Lines -/

theorem newline_notMem_nodeStatement (h : DrawnNode node drawn) : '\n' ∉ nodeStatement drawn := by
  obtain ⟨c, rest, -, -, -, -, -, hopening, hclosing⟩ := opening_cases drawn.shape
  rw [nodeStatement_eq, h.key]
  simp only [List.mem_cons, List.mem_append, not_or]
  exact ⟨by decide, by decide, notMem_numberKey rfl _, hopening, by decide,
    notMem_nodeLabel (Or.inr rfl) _, by decide, hclosing⟩

theorem newline_notMem_labelPart (label : Option Text) : '\n' ∉ labelPart label := by
  cases label with
  | none => exact List.not_mem_nil
  | some label =>
    simp only [labelPart, List.mem_append, not_or]
    exact ⟨⟨by decide, notMem_edgeLabel (Or.inr rfl) _⟩, by decide⟩

theorem newline_notMem_edgeStatement {nodes : List GraphSketch.Node} {e : GraphSketch.Edge}
    {line : Picture.Edge} (h : DrawnEdge nodes e line) : '\n' ∉ edgeStatement line := by
  obtain ⟨source, -, -, hsource⟩ := h.source
  obtain ⟨target, -, -, htarget⟩ := h.target
  rw [edgeStatement_eq, hsource, htarget]
  simp only [List.mem_cons, List.mem_append, not_or]
  exact ⟨by decide, by decide, notMem_numberKey rfl _, by decide, by decide, by decide, by decide,
    newline_notMem_labelPart _, by decide, notMem_numberKey rfl _⟩

theorem notMem_of_mem_styleParts {c : Char} (hc : c = ',' ∨ c = '\n') (h : DrawnNode node drawn) :
    ∀ part ∈ styleParts drawn, c ∉ part := by
  have hsetting : ∀ {name unit value : Text}, c ∉ name → c ∉ unit → c ∉ value →
      c ∉ setting name unit value := by
    intro name unit value hname hunit hvalue
    simp only [setting, List.mem_append, not_or]
    exact ⟨⟨⟨hname, by rcases hc with rfl | rfl <;> decide⟩, hvalue⟩, hunit⟩
  have hcolour : ∀ t, IsColour t → c ∉ t := by
    intro t ht hmem
    have hno : isColourChar c = false := by rcases hc with rfl | rfl <;> decide +kernel
    rw [ht.2 c hmem] at hno
    cases hno
  have hnumber : ∀ n : Nat, c ∉ Text.ofNat n := by
    intro n hmem
    have hno := Text.isDigit_of_mem_ofNat hmem
    rcases hc with rfl | rfl <;> cases hno
  intro part hpart
  simp only [styleParts, List.mem_append, Option.mem_toList, Option.map_eq_some_iff] at hpart
  rcases hpart with (⟨t, ht, rfl⟩ | ⟨t, ht, rfl⟩) | ⟨t, ht, rfl⟩
  · exact hsetting (by rcases hc with rfl | rfl <;> decide) List.not_mem_nil
      (hcolour t (h.fill t ht))
  · exact hsetting (by rcases hc with rfl | rfl <;> decide) List.not_mem_nil
      (hcolour t (h.stroke t ht))
  · obtain ⟨n, rfl⟩ := h.width t ht
    exact hsetting (by rcases hc with rfl | rfl <;> decide) (by rcases hc with rfl | rfl <;> decide)
      (hnumber n)

theorem newline_notMem_styleStatement (h : DrawnNode node drawn) :
    '\n' ∉ styleStatement drawn := by
  rw [styleStatement_eq, h.key]
  simp only [List.mem_cons, List.mem_append, not_or]
  refine ⟨by decide, notMem_numberKey rfl _, by decide, fun hmem => ?_⟩
  rcases Text.mem_join hmem with hmem | ⟨part, hpart, hmem⟩
  · exact absurd hmem (by decide)
  · exact notMem_of_mem_styleParts (Or.inr rfl) h part hpart hmem

/-- **The lines of Mermaid code** are the heading and the statements. -/
theorem lines_code {d : Diagram} {document : Document} {picture : Picture}
    (h : Shows d document picture) :
    Text.lines (code picture) = heading picture :: statements picture ++ [[]] := by
  have hheading : ∀ orientation : Orientation, '\n' ∉ "flowchart ".toList ++ orientation.name := by
    intro orientation
    cases orientation <;> decide
  have hclean : ∀ t ∈ heading picture :: statements picture, '\n' ∉ t := by
    refine List.forall_mem_cons.mpr ⟨hheading _, ?_⟩
    simp only [statements, List.forall_mem_append, List.forall_mem_map]
    refine ⟨⟨fun drawn hmem => ?_, fun line hmem => ?_⟩, fun drawn hmem => ?_⟩
    · obtain ⟨node, -, hdrawn⟩ := h.exists_drawnNode hmem
      exact newline_notMem_nodeStatement hdrawn
    · obtain ⟨e, -, hline⟩ := h.exists_drawnEdge hmem
      exact newline_notMem_edgeStatement hline
    · obtain ⟨node, -, hdrawn⟩ := h.exists_drawnNode (List.mem_of_mem_filter hmem)
      exact newline_notMem_styleStatement hdrawn
  rw [code_eq]
  exact Text.lines_flatMap hclean

/-! ## What statements say -/

/-- What the statement of a node says: its key, its brackets and its label as it is written. -/
def told (node : Picture.Node) : Text × (Text × Text) × Text :=
  (node.key, brackets node.shape, nodeLabel node.label)

/-- What the statement of an edge says: the keys of its ends, and its label as it is written. -/
def toldEdge (e : Picture.Edge) : Text × Text × Option Text :=
  (e.source, e.target, e.label.map edgeLabel)

/-- The style of a node. -/
def toldStyle (node : Picture.Node) : Text × Option Text × Option Text × Option Text :=
  (node.key, node.fill, node.stroke, node.width)

variable {other : GraphSketch.Node} {drawn' : Picture.Node}

theorem told_of_nodeStatement (h : DrawnNode node drawn) (h' : DrawnNode other drawn')
    (heq : nodeStatement drawn = nodeStatement drawn') : told drawn = told drawn' := by
  obtain ⟨c, rest, hopening, hc, -, -, hquote, -⟩ := opening_cases drawn.shape
  obtain ⟨c', rest', hopening', hc', -, -, hquote', -⟩ := opening_cases drawn'.shape
  have hnotQuote : ∀ {t : Text}, '"' ∉ t → ∀ d ∈ t, (d != '"') = true := by
    rintro t ht d hd
    exact bne_iff_ne.mpr fun he => ht (he ▸ hd)
  rw [nodeStatement_eq, nodeStatement_eq, hopening, hopening', h.key, h'.key] at heq
  obtain ⟨hkey, hfirst, hrest⟩ := Text.eq_of_append_cons isKeyChar_of_mem hc isKeyChar_of_mem hc'
    (List.cons.inj (List.cons.inj heq).2).2
  -- neither the opening bracket nor the label holds a quote, so they end at the same places
  have hbehind : (brackets drawn.shape).1 ++
        '"' :: (nodeLabel drawn.label ++ '"' :: (brackets drawn.shape).2) =
      (brackets drawn'.shape).1 ++
        '"' :: (nodeLabel drawn'.label ++ '"' :: (brackets drawn'.shape).2) := by
    rw [hopening, hopening']
    exact congrArg₂ List.cons hfirst hrest
  obtain ⟨hopen, -, hlabelled⟩ := Text.eq_of_append_cons (p := (· != '"')) (hnotQuote hquote) rfl
    (hnotQuote hquote') rfl hbehind
  obtain ⟨hlabel, -, hclose⟩ := Text.eq_of_append_cons (p := (· != '"'))
    (hnotQuote (notMem_nodeLabel (Or.inl rfl) _)) rfl
    (hnotQuote (notMem_nodeLabel (Or.inl rfl) _)) rfl hlabelled
  rw [told, told, h.key, h'.key, hkey, Prod.ext hopen hclose, hlabel]

theorem labelPart_inj {label label' : Option Text} {rest rest' : Text}
    (h : labelPart label ++ ' ' :: rest = labelPart label' ++ ' ' :: rest') :
    label.map edgeLabel = label'.map edgeLabel ∧ rest = rest' := by
  have hnotBar : ∀ label d, d ∈ edgeLabel label → (d != '|') = true := fun label d hd =>
    bne_iff_ne.mpr fun he => notMem_edgeLabel (Or.inl rfl) label (he ▸ hd)
  have hbars : ∀ (label rest : Text), labelPart (some label) ++ ' ' :: rest =
      '|' :: (edgeLabel label ++ '|' :: ' ' :: rest) := by
    intro label rest
    have hassoc : ∀ a b c e : Text, a ++ b ++ c ++ e = a ++ (b ++ (c ++ e)) := by
      intro a b c e
      simp only [List.append_assoc]
    exact hassoc ['|'] _ ['|'] _
  cases label with
  | none =>
    cases label' with
    | none => exact ⟨rfl, (List.cons.inj h).2⟩
    | some label' =>
      rw [hbars] at h
      exact absurd (List.cons.inj h).1 (by decide)
  | some label =>
    cases label' with
    | none =>
      rw [hbars] at h
      exact absurd (List.cons.inj h).1 (by decide)
    | some label' =>
      rw [hbars, hbars] at h
      obtain ⟨hlabel, -, hrest⟩ := Text.eq_of_append_cons (p := (· != '|')) (hnotBar label) rfl
        (hnotBar label') rfl (List.cons.inj h).2
      exact ⟨congrArg some hlabel, (List.cons.inj hrest).2⟩

theorem told_of_edgeStatement {nodes nodes' : List GraphSketch.Node} {e e' : GraphSketch.Edge}
    {line line' : Picture.Edge} (h : DrawnEdge nodes e line) (h' : DrawnEdge nodes' e' line')
    (heq : edgeStatement line = edgeStatement line') : toldEdge line = toldEdge line' := by
  obtain ⟨source, -, -, hsource⟩ := h.source
  obtain ⟨source', -, -, hsource'⟩ := h'.source
  rw [edgeStatement_eq, edgeStatement_eq, hsource, hsource'] at heq
  obtain ⟨hkey, -, hrest⟩ := Text.eq_of_append_cons (p := isKeyChar) isKeyChar_of_mem rfl
    isKeyChar_of_mem rfl (List.cons.inj (List.cons.inj heq).2).2
  have harrow : ['-', '-', '>'] ++ (labelPart line.label ++ ' ' :: line.target) =
      ['-', '-', '>'] ++ (labelPart line'.label ++ ' ' :: line'.target) := hrest
  obtain ⟨hlabel, htarget⟩ := labelPart_inj (List.append_cancel_left harrow)
  rw [toldEdge, toldEdge, hsource, hsource', hkey, hlabel, htarget]

theorem styleParts_of_styleStatement (h : DrawnNode node drawn) (h' : DrawnNode other drawn')
    (hstyled : isStyled drawn = true) (hstyled' : isStyled drawn' = true)
    (heq : styleStatement drawn = styleStatement drawn') :
    (drawn.key, styleParts drawn) = (drawn'.key, styleParts drawn') := by
  have hne : ∀ {node : Picture.Node}, isStyled node = true → styleParts node ≠ [] := by
    intro node hnode hnil
    rw [isStyled, hnil] at hnode
    cases hnode
  rw [styleStatement_eq, styleStatement_eq, h.key, h'.key] at heq
  obtain ⟨hkey, -, hjoin⟩ := Text.eq_of_append_cons (p := isKeyChar) isKeyChar_of_mem rfl
    isKeyChar_of_mem rfl (List.append_cancel_left heq)
  have hparts := congrArg (Text.splitOn ',') hjoin
  rw [show (",".toList : Text) = [','] from rfl,
    Text.splitOn_join_of_notMem (hne hstyled) (notMem_of_mem_styleParts (Or.inl rfl) h),
    Text.splitOn_join_of_notMem (hne hstyled') (notMem_of_mem_styleParts (Or.inl rfl) h')] at hparts
  rw [h.key, h'.key, hkey, hparts]

/-! ## Styles -/

/-- The value of a setting among others. -/
def settingIn? (name : Text) (parts : List Text) : Option Text :=
  parts.findSome? (Text.after? (name ++ ":"))

/-- What is found in the parts of a style is the setting with its unit. -/
theorem settingIn?_styleParts (node : Picture.Node) :
    settingIn? "fill" (styleParts node) = node.fill.map (· ++ []) ∧
      settingIn? "stroke" (styleParts node) = node.stroke.map (· ++ []) ∧
      settingIn? "stroke-width" (styleParts node) = node.width.map (· ++ "px".toList) := by
  unfold styleParts
  refine ⟨?_, ?_, ?_⟩ <;> cases node.fill <;> cases node.stroke <;> cases node.width <;> rfl

/-- **The settings of a node can be told from the parts of its style.** -/
theorem settings_of_styleParts {node node' : Picture.Node}
    (h : styleParts node = styleParts node') :
    node.fill = node'.fill ∧ node.stroke = node'.stroke ∧ node.width = node'.width := by
  have hunit : ∀ unit : Text, Function.Injective (Option.map (· ++ unit)) := fun unit =>
    Option.map_injective (List.append_left_injective unit)
  obtain ⟨hfill, hstroke, hwidth⟩ := settingIn?_styleParts node
  obtain ⟨hfill', hstroke', hwidth'⟩ := settingIn?_styleParts node'
  rw [h] at hfill hstroke hwidth
  exact ⟨hunit [] (hfill.symm.trans hfill'), hunit [] (hstroke.symm.trans hstroke'),
    hunit _ (hwidth.symm.trans hwidth')⟩

/-- The styles of nodes by their keys, where there is any. -/
def styleTable (nodes : List Picture.Node) : OrderedMap Text (List Text) :=
  (nodes.filter isStyled).map fun node => (node.key, styleParts node)

/-- Where every node has a key of its own, its style can be looked up. -/
theorem styleParts_eq_get? {nodes : List Picture.Node} (h : (nodes.map (·.key)).Nodup)
    {node : Picture.Node} (hmem : node ∈ nodes) :
    styleParts node = ((styleTable nodes).get? node.key).getD [] := by
  have hkeys : OrderedMap.keys (styleTable nodes) = (nodes.filter isStyled).map (·.key) := by
    rw [OrderedMap.keys, styleTable, List.map_map]
    rfl
  have hnodup : (OrderedMap.keys (styleTable nodes)).Nodup :=
    hkeys ▸ h.sublist (List.filter_sublist.map _)
  cases hstyled : isStyled node with
  | true =>
    have hentry : (node.key, styleParts node) ∈ styleTable nodes :=
      List.mem_map.mpr ⟨node, List.mem_filter.mpr ⟨hmem, hstyled⟩, rfl⟩
    rw [(OrderedMap.get?_eq_some_iff hnodup).mpr hentry]
    rfl
  | false =>
    have hnone : node.key ∉ OrderedMap.keys (styleTable nodes) := by
      rw [hkeys]
      intro hin
      obtain ⟨other, hother, hkey⟩ := List.mem_map.mp hin
      obtain ⟨hotherMem, hotherStyled⟩ := List.mem_filter.mp hother
      rw [List.inj_on_of_nodup_map h hotherMem hmem hkey, hstyled] at hotherStyled
      cases hotherStyled
    rw [(OrderedMap.get?_eq_none_iff _ _).mpr hnone]
    rw [isStyled, Bool.not_eq_false', List.isEmpty_iff] at hstyled
    exact hstyled

/-! ## Pictures with the same code -/

/-- What two lists are mapped to by one function tells what they are mapped to by another, where
this is so of their elements. -/
theorem map_eq_map_of_imp {α β γ : Type} {f : α → β} {g : α → γ} : ∀ {xs ys : List α},
    xs.map f = ys.map f → (∀ x ∈ xs, ∀ y ∈ ys, f x = f y → g x = g y) → xs.map g = ys.map g
  | [], [], _, _ => rfl
  | [], _ :: _, h, _ => nomatch h
  | _ :: _, [], h, _ => nomatch h
  | x :: xs, y :: ys, h, himp => by
    obtain ⟨hfirst, hrest⟩ := List.cons.inj h
    rw [List.map_cons, List.map_cons, himp x List.mem_cons_self y List.mem_cons_self hfirst,
      map_eq_map_of_imp hrest fun a ha b hb =>
        himp a (List.mem_cons_of_mem _ ha) b (List.mem_cons_of_mem _ hb)]

/-- Two pictures that are told in the same words. -/
structure Agree (picture other : Picture) : Prop where
  orientation : picture.orientation = other.orientation
  nodes : picture.nodes.map told = other.nodes.map told
  edges : picture.edges.map toldEdge = other.edges.map toldEdge
  styles : picture.nodes.map toldStyle = other.nodes.map toldStyle

variable {d d' : Diagram} {document document' : Document} {picture picture' : Picture}

/-- The statements of one kind are those for the parts of this kind. -/
theorem filter_statements (h : Shows d document picture) :
    (statements picture).filter (kindOf · = .node) = picture.nodes.map nodeStatement ∧
      (statements picture).filter (kindOf · = .edge) = picture.edges.map edgeStatement ∧
      (statements picture).filter (kindOf · = .style) =
        (picture.nodes.filter isStyled).map styleStatement := by
  have hnodes : ∀ t ∈ picture.nodes.map nodeStatement, kindOf t = .node := by
    refine List.forall_mem_map.mpr fun drawn hmem => ?_
    obtain ⟨node, -, hdrawn⟩ := h.exists_drawnNode hmem
    exact kindOf_nodeStatement hdrawn
  have hedges : ∀ t ∈ picture.edges.map edgeStatement, kindOf t = .edge := by
    refine List.forall_mem_map.mpr fun line hmem => ?_
    obtain ⟨e, -, hline⟩ := h.exists_drawnEdge hmem
    exact kindOf_edgeStatement hline
  have hstyles : ∀ t ∈ (picture.nodes.filter isStyled).map styleStatement, kindOf t = .style :=
    List.forall_mem_map.mpr fun drawn _ => kindOf_styleStatement drawn
  have hall : ∀ {ts : List Text} {kind : Kind}, (∀ t ∈ ts, kindOf t = kind) →
      ts.filter (kindOf · = kind) = ts := fun h =>
    List.filter_eq_self.mpr fun t ht => decide_eq_true (h t ht)
  have hnone : ∀ (kind kind' : Kind) {ts : List Text}, kind ≠ kind' →
      (∀ t ∈ ts, kindOf t = kind) → ts.filter (kindOf · = kind') = [] := fun _ _ _ hne h =>
    List.filter_eq_nil_iff.mpr fun t ht => by
      rw [h t ht, decide_eq_true_eq]
      exact hne
  simp only [statements, List.filter_append]
  refine ⟨?_, ?_, ?_⟩
  · rw [hall hnodes, hnone .edge .node nofun hedges, hnone .style .node nofun hstyles,
      List.append_nil, List.append_nil]
  · rw [hnone .node .edge nofun hnodes, hall hedges, hnone .style .edge nofun hstyles,
      List.nil_append, List.append_nil]
  · rw [hnone .node .style nofun hnodes, hnone .edge .style nofun hedges, hall hstyles,
      List.nil_append, List.nil_append]

/-- **The code of a picture tells the picture**, if its nodes have different keys. -/
theorem agree_of_code_eq (h : Shows d document picture) (h' : Shows d' document' picture')
    (hnodup : (picture.nodes.map (·.key)).Nodup) (hnodup' : (picture'.nodes.map (·.key)).Nodup)
    (heq : code picture = code picture') : Agree picture picture' := by
  have hlines := congrArg Text.lines heq
  rw [lines_code h, lines_code h', List.cons_append, List.cons_append] at hlines
  obtain ⟨hheading, hstatements⟩ := List.cons.inj hlines
  have hstatements : statements picture = statements picture' := List.append_cancel_right hstatements
  obtain ⟨hnodes, hedges, hstyles⟩ := filter_statements h
  obtain ⟨hnodes', hedges', hstyles'⟩ := filter_statements h'
  rw [hstatements] at hnodes hedges hstyles
  have htold : picture.nodes.map told = picture'.nodes.map told := by
    refine map_eq_map_of_imp (hnodes.symm.trans hnodes') fun drawn hmem drawn' hmem' heq => ?_
    obtain ⟨node, -, hdrawn⟩ := h.exists_drawnNode hmem
    obtain ⟨node', -, hdrawn'⟩ := h'.exists_drawnNode hmem'
    exact told_of_nodeStatement hdrawn hdrawn' heq
  have htoldEdge : picture.edges.map toldEdge = picture'.edges.map toldEdge := by
    refine map_eq_map_of_imp (hedges.symm.trans hedges') fun line hmem line' hmem' heq => ?_
    obtain ⟨e, -, hline⟩ := h.exists_drawnEdge hmem
    obtain ⟨e', -, hline'⟩ := h'.exists_drawnEdge hmem'
    exact told_of_edgeStatement hline hline' heq
  have htable : styleTable picture.nodes = styleTable picture'.nodes := by
    refine map_eq_map_of_imp (hstyles.symm.trans hstyles') fun drawn hmem drawn' hmem' heq => ?_
    obtain ⟨hmem, hstyled⟩ := List.mem_filter.mp hmem
    obtain ⟨hmem', hstyled'⟩ := List.mem_filter.mp hmem'
    obtain ⟨node, -, hdrawn⟩ := h.exists_drawnNode hmem
    obtain ⟨node', -, hdrawn'⟩ := h'.exists_drawnNode hmem'
    exact styleParts_of_styleStatement hdrawn hdrawn' hstyled hstyled' heq
  refine ⟨?_, htold, htoldEdge, map_eq_map_of_imp htold fun drawn hmem drawn' hmem' heq => ?_⟩
  · have hname : picture.orientation.name = picture'.orientation.name :=
      List.append_cancel_left hheading
    revert hname
    cases picture.orientation <;> cases picture'.orientation <;> decide
  · have hkey : drawn.key = drawn'.key := (Prod.mk.inj heq).1
    have hparts : styleParts drawn = styleParts drawn' := by
      rw [styleParts_eq_get? hnodup hmem, styleParts_eq_get? hnodup' hmem', htable, hkey]
    obtain ⟨hfill, hstroke, hwidth⟩ := settings_of_styleParts hparts
    rw [toldStyle, toldStyle, hkey, hfill, hstroke, hwidth]

end Mermaid

namespace Document

open GraphSketch.Numbering (run)

variable {settings settings' : Settings} {t t' : Text} {d d' : Diagram} {after after' : Numbering}

/-- **No label can forge Mermaid code.**  Documents that are made from what sketches compile to, with
numberings that go back to new ones, have Mermaid code, which is that of pictures with all their nodes
and edges; and where the code is the same, the documents have the same orientation, the same nodes
with the same brackets and labels, the same edges between them with the same labels, and the same
styles, all as the code writes them. -/
theorem agree_of_mermaid_eq {events events' : List Numbering.Event} {document document' : Document}
    (h : Sketch.compile settings (run .empty events) t = (.ok d, after))
    (h' : Sketch.compile settings' (run .empty events') t' = (.ok d', after'))
    (hmade : MadeFrom d document) (hmade' : MadeFrom d' document')
    (heq : document.mermaid = document'.mermaid) :
    ∃ picture picture', Pictured document picture ∧ Pictured document' picture' ∧
      document.mermaid = .ok (Mermaid.code picture) ∧ Mermaid.Agree picture picture' := by
  have hd := Sketch.drawable_of_compile h
  have hd' := Sketch.drawable_of_compile h'
  have hnodup := Sketch.nodup_numbers_of_compile h
  have hnodup' := Sketch.nodup_numbers_of_compile h'
  obtain ⟨picture, hshows⟩ := Picture.exists_shows hd hmade.depicts
  obtain ⟨picture', hshows'⟩ := Picture.exists_shows hd' hmade'.depicts
  have hcode : document.mermaid = .ok (Mermaid.code picture) := by
    rw [mermaid, hshows.made]
    rfl
  have hcode' : document'.mermaid = .ok (Mermaid.code picture') := by
    rw [mermaid, hshows'.made]
    rfl
  refine ⟨picture, picture', hshows.pictured hd hnodup hmade.depicts,
    hshows'.pictured hd' hnodup' hmade'.depicts, hcode, ?_⟩
  exact Mermaid.agree_of_code_eq hshows hshows' (hshows.nodup_keys hnodup)
    (hshows'.nodup_keys hnodup') (Except.ok.inj (hcode.symm.trans (heq.trans hcode')))

/-- A quote and a bar in labels, and other labels that spell their entities out, one of them given
by a command. -/
theorem agree_of_mermaid_eq_of_entities :
    let settings : Settings := ⟨true, false⟩
    let d : Diagram := ⟨[⟨"a\"b", 1, .rectangle, 0⟩, ⟨"circle", 2, .circle, 1⟩],
      [⟨0, "a\"b", "circle", some "x|y"⟩], [], [], []⟩
    let d' : Diagram := ⟨[⟨"A", 1, .rectangle, 0⟩, ⟨"circle", 2, .circle, 1⟩],
      [⟨0, "A", "circle", some "x#124;y"⟩], [], [], []⟩
    let after : Numbering := ⟨[("a\"b", 1), ("circle", 2)], [(1, "a\"b"), (2, "circle")], 3⟩
    let after' : Numbering := ⟨[("A", 1), ("circle", 2)], [(1, "A"), (2, "circle")], 3⟩
    let document : Document := ofDiagram "s" none d
    let before : Document := ofDiagram "t" none d'
    let actions : List Action := [.rename "A" "a#quot;b"]
    let document' : Document := actions.foldl apply before
    Sketch.compile settings (run .empty []) "\"a\\\"b\" -x|y-> circle" = (.ok d, after) ∧
      Sketch.compile settings (run .empty []) "A -x#124;y-> circle" = (.ok d', after') ∧
      before.execute d'.nodes [.rename ":1" "a#quot;b"] = .ok (actions, document', .ok [true]) ∧
      document.mermaid = document'.mermaid ∧
      ∃ picture picture', Pictured document picture ∧ Pictured document' picture' ∧
        document.mermaid = .ok (Mermaid.code picture) ∧ Mermaid.Agree picture picture' := by
  intro settings d d' after after' document before actions document'
  have h : Sketch.compile settings (run .empty []) "\"a\\\"b\" -x|y-> circle" = (.ok d, after) := by
    decide +kernel
  have h' : Sketch.compile settings (run .empty []) "A -x#124;y-> circle" = (.ok d', after') := by
    decide +kernel
  have hrun : before.execute d'.nodes [.rename ":1" "a#quot;b"] =
      .ok (actions, document', .ok [true]) :=
    execute_eq_ok_iff.mpr ⟨checkNodes_eq_ok_iff.mp rfl, by decide +kernel, rfl, Or.inl rfl⟩
  have heq : document.mermaid = document'.mermaid := by decide +kernel
  exact ⟨h, h', hrun, heq, agree_of_mermaid_eq h h' (.written "s" none)
    (.executed (.written "t" none) hrun) heq⟩

end Document

end GraphSketch
