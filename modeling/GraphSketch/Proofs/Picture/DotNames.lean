import GraphSketch.Proofs.Picture.DotRead

/-!
# Names of nodes in DOT code

A node is declared under its key, and edges have the keys of their nodes at their ends.  There a
colon parts a key into a node and a port, so that it names another node.  Two nodes that have one
key are one node for DOT.

* `Dot.readNode?` — the node that DOT reads in a place, if no port follows.
* `Dot.readNode?_quote_iff`, `Dot.readNode?_quoteEnd_iff` — which keys are read as they were, when
  they are declared and at the end of an edge.
* `Dot.NamesRead` — where the names of nodes stand in the code of a document, and how they are
  read.
* `Document.namesRead_of_dot_eq_ok` — so it is in all code, whatever lawful library writes it, if
  the nodes of the document are told apart by their ids.

`dot_of_colon` is a document with a node called `a:b`; the edge from it is read as one from `a`.
-/

set_option autoImplicit false

namespace GraphSketch

open Picture (KeyedNode)

namespace Dot

/-! ## Reading nodes -/

/-- White space between words. -/
def isSpace (c : Char) : Bool := c = ' ' || c = '\t' || c = '\n' || c = '\r'

/-- Whether a port follows: a colon, behind white space or not. -/
def hasPort (t : Text) : Bool := (t.dropWhile isSpace).head? = some ':'

/-- The node that a text begins with the name of, and what is behind it. With a port the name is not
all that the text says. -/
def readNode? (t : Text) : Option (Text × Text) :=
  (readString? t).filter fun found => !hasPort found.2

theorem readNode?_eq_some_iff {t name behind : Text} :
    readNode? t = some (name, behind) ↔
      readString? t = some (name, behind) ∧ hasPort behind = false := by
  rw [readNode?, Option.filter_eq_some_iff, Bool.not_eq_true']

variable {key : Text} {c : Char} {rest : Text}

section Keys

variable [Library] [Lawful]

/-- **A declared name is read as it was** exactly if it is legible. -/
theorem readNode?_quote_iff (hc : EndsWord c) (hport : hasPort (c :: rest) = false) :
    readNode? (quote key ++ c :: rest) = some (key, c :: rest) ↔ IsLegible key := by
  rw [readNode?_eq_some_iff, readString?_quote_iff_isLegible hc, and_iff_left hport]

theorem exists_quoteEnd_of_mem (h : ':' ∈ key) : ∃ node behind tail,
    key = node ++ ':' :: behind ∧ quoteEnd key = quote node ++ tail ∧
      (tail = [] ∨ ∃ port, tail = ':' :: port) := by
  obtain ⟨node, behind, rfl, hnode⟩ := List.eq_append_cons_of_mem h
  obtain ⟨tail, htail⟩ := exists_quoteEnd_append behind hnode
  exact ⟨node, behind, tail, rfl, htail⟩

/-- **A key at the end of an edge is read as it was** exactly if it is legible and has no colon. -/
theorem readNode?_quoteEnd_iff (hc : EndsWord c) (hport : hasPort (c :: rest) = false) :
    readNode? (quoteEnd key ++ c :: rest) = some (key, c :: rest) ↔ IsLegible key ∧ ':' ∉ key := by
  by_cases hcolon : ':' ∈ key
  · refine iff_of_false (fun h => ?_) fun h => h.2 hcolon
    -- only what is before the colon is written as a value, and nothing longer can be read there
    obtain ⟨node, behind, tail, hkey, hquote, htail⟩ := exists_quoteEnd_of_mem hcolon
    have hread := (readNode?_eq_some_iff.mp h).1
    have hbegins : node <+: key := ⟨_, hkey.symm⟩
    have hsame : key = node := by
      rw [hquote, List.append_assoc] at hread
      rcases htail with rfl | ⟨port, rfl⟩
      · exact (isLegible_of_readString? hc hread hbegins).2
      · exact (isLegible_of_readString? ⟨rfl, by decide⟩ hread hbegins).2
    have hlength := congrArg List.length (hkey.symm.trans hsame)
    rw [List.length_append, List.length_cons] at hlength
    omega
  · rw [quoteEnd_of_notMem hcolon, readNode?_quote_iff hc hport, and_iff_left hcolon]

end Keys

/-! ## Places of names -/

theorem hasPort_cons_of_isSpace (hc : isSpace c = true) : hasPort (c :: rest) = hasPort rest := by
  rw [hasPort, hasPort, List.dropWhile_cons_of_pos hc]

theorem hasPort_cons_of_not (hc : isSpace c = false) (hcolon : c ≠ ':') :
    hasPort (c :: rest) = false := by
  rw [hasPort, List.dropWhile_cons_of_neg (by rw [hc]; decide), List.head?_cons]
  exact decide_eq_false fun h => hcolon (Option.some.inj h)

section Places

variable [Library] [Lawful]

theorem exists_cons_quote (t : Text) : ∃ first rest, quote t = first :: rest ∧
    isSpace first = false ∧ first ≠ ':' := by
  cases hmarkup : isMarkup t with
  | true =>
    rw [quote_of_isMarkup hmarkup]
    unfold isMarkup at hmarkup
    split at hmarkup
    · exact ⟨'<', _, rfl, rfl, by decide⟩
    · cases hmarkup
  | false =>
    cases hplain : isPlain t with
    | true =>
      obtain ⟨word, hword, hform⟩ := exists_word_of_isPlain hplain
      have hne : word ≠ [] := by
        rintro rfl
        exact absurd hword (by decide)
      obtain ⟨first, rest, rfl⟩ := List.exists_cons_of_ne_nil hne
      have hfirst : ∀ c, isNameChar c = false → isNumberChar c = false → first ≠ c := by
        rintro c hname hnumber rfl
        exact notMem_of_isWord hword hname hnumber List.mem_cons_self
      have hspace : isSpace first = false := by
        simp only [isSpace, Bool.or_eq_false_iff, decide_eq_false_iff_not]
        exact ⟨⟨⟨hfirst _ rfl rfl, hfirst _ rfl rfl⟩, hfirst _ rfl rfl⟩, hfirst _ rfl rfl⟩
      rw [quote_of_isPlain hplain]
      rcases hform with rfl | rfl
      · exact ⟨first, rest, rfl, hspace, hfirst _ rfl rfl⟩
      · exact ⟨first, rest ++ ['\n'], rfl, hspace, hfirst _ rfl rfl⟩
    | false =>
      have hquote := quote_append_of_not hmarkup hplain []
      rw [List.append_nil] at hquote
      exact ⟨'"', _, hquote, rfl, by decide⟩

theorem exists_cons_quoteEnd (t : Text) : ∃ first rest, quoteEnd t = first :: rest ∧
    isSpace first = false ∧ first ≠ ':' := by
  have hform : ∃ node tail, quoteEnd t = quote node ++ tail := by
    by_cases hcolon : ':' ∈ t
    · obtain ⟨node, _, tail, -, hquote, -⟩ := exists_quoteEnd_of_mem hcolon
      exact ⟨node, tail, hquote⟩
    · exact ⟨t, [], by rw [quoteEnd_of_notMem hcolon, List.append_nil]⟩
  obtain ⟨node, tail, hquote⟩ := hform
  obtain ⟨first, rest, hfirst, hprops⟩ := exists_cons_quote node
  exact ⟨first, rest ++ tail, by rw [hquote, hfirst, List.cons_append], hprops⟩

/-- The name in the statement of a node, behind the statements of the nodes before it. -/
theorem code_eq_of_name {picture : Picture} {engine : Text} (hengine : engine ∈ engines)
    {pre post : List Picture.Node} {node : Picture.Node}
    (h : picture.nodes = pre ++ node :: post) : ∃ behind,
      code picture engine =
        titleLine picture.title ++ ended (opening picture engine ++ pre.map nodeStatement) ++
          ("\t" : Text) ++ (quote node.key ++ ' ' :: '[' :: behind) := by
  obtain ⟨behind, hcode⟩ := code_eq_of_node hengine h
  have hassoc : ∀ before tab key bracket label behind : Text,
      before ++ (tab ++ key ++ bracket) ++ (label ++ behind) =
        before ++ tab ++ (key ++ (bracket ++ (label ++ behind))) := by
    intros
    simp only [List.append_assoc]
  exact ⟨_, hcode.trans (hassoc _ "\t" _ " [label=" _ _)⟩

/-- What is behind the second name in the statement of an edge: a label in brackets, or the next
statement. -/
theorem exists_behind_ends (label : Option Text) (post : List Picture.Edge) : ∃ c behind,
    labelPart label ++ ("\n" : Text) ++ ended (post.map edgeStatement ++ [("\x7d" : Text)]) =
        c :: behind ∧ EndsWord c ∧ hasPort (c :: behind) = false := by
  cases label with
  | some label =>
    refine ⟨' ', _, rfl, ⟨rfl, by decide⟩, ?_⟩
    exact (hasPort_cons_of_isSpace rfl).trans (hasPort_cons_of_not rfl (by decide))
  | none =>
    refine ⟨'\n', _, rfl, ⟨rfl, by decide⟩, (hasPort_cons_of_isSpace rfl).trans ?_⟩
    cases post with
    | nil => exact hasPort_cons_of_not rfl (by decide)
    | cons e post =>
      obtain ⟨first, rest, hfirst, hspace, hcolon⟩ := exists_cons_quoteEnd e.source
      have hassoc : ∀ tab source arrow target label feed behind : Text,
          tab ++ source ++ arrow ++ target ++ label ++ feed ++ behind =
            tab ++ (source ++ (arrow ++ target ++ label ++ feed ++ behind)) := by
        intros
        simp only [List.append_assoc]
      show hasPort (ended (edgeStatement e :: (post.map edgeStatement ++ [("\x7d" : Text)]))) = false
      rw [ended_cons, edgeStatement, edgeHead, hassoc, hfirst]
      exact (hasPort_cons_of_isSpace rfl).trans (hasPort_cons_of_not hspace hcolon)

/-- The names in the statement of an edge, behind the statements of all nodes and of the edges before
it. -/
theorem code_eq_of_ends {picture : Picture} {engine : Text} (hengine : engine ∈ engines)
    {pre post : List Picture.Edge} {e : Picture.Edge} (h : picture.edges = pre ++ e :: post) :
    ∃ c behind,
      code picture engine =
        titleLine picture.title ++ ended (opening picture engine ++
            picture.nodes.map nodeStatement ++ pre.map edgeStatement) ++
          ("\t" : Text) ++
            (quoteEnd e.source ++ ((" -> " : Text) ++ (quoteEnd e.target ++ c :: behind))) ∧
        EndsWord c ∧ hasPort (c :: behind) = false := by
  obtain ⟨c, behind, hbehind, hends⟩ := exists_behind_ends e.label post
  have hassoc : ∀ before tab source arrow target label feed behind : Text,
      before ++ (tab ++ source ++ arrow ++ target ++ label ++ feed ++ behind) =
        before ++ tab ++ (source ++ (arrow ++ (target ++ (label ++ feed ++ behind)))) := by
    intros
    simp only [List.append_assoc]
  refine ⟨c, behind, ?_, hends⟩
  rw [code_eq_of_edgeStatement hengine h, edgeStatement, edgeHead, hassoc, hbehind]

end Places

/-! ## Documents -/

/-- How the names of nodes are read in the code of a document with the given nodes and edges. -/
structure NamesRead [Library] (nodes : List KeyedNode) (edges : List Json) (picture : Picture)
    (engine code : Text) : Prop where
  /-- Every node is drawn, under its key. -/
  keys_eq : picture.nodes.map (·.key) = nodes.map KeyedNode.key
  /-- The keys are different unless two nodes clash. -/
  distinct_iff : (picture.nodes.map (·.key)).Nodup ↔
    nodes.Pairwise fun node node' => ¬ node.Clash node'
  /-- A node is declared behind those before it. Its key is read there as it was exactly if it is
  legible. -/
  declared : ∀ pre drawn post, picture.nodes = pre ++ drawn :: post → ∃ behind,
    code = titleLine picture.title ++ ended (opening picture engine ++ pre.map nodeStatement) ++
        ("\t" : Text) ++ (quote drawn.key ++ ' ' :: '[' :: behind) ∧
      (readNode? (quote drawn.key ++ ' ' :: '[' :: behind) =
        some (drawn.key, ' ' :: '[' :: behind) ↔ IsLegible drawn.key)
  /-- Every edge between two nodes of the document is drawn, between the keys of these. -/
  joined : ∃ lines, picture.edges = lines.filterMap id ∧
    List.Forall₂ (fun (item : Json) line => ∀ source ∈ nodes, ∀ target ∈ nodes,
      item.field? "source" = some (.str source.id) → item.field? "target" = some (.str target.id) →
        ∃ label, line = some ⟨source.key, target.key, label⟩) edges lines
  /-- An edge is written behind those before it, with a key at each end. A key is read there as it
  was exactly if it is legible and has no colon. -/
  ends : ∀ pre line post, picture.edges = pre ++ line :: post → ∃ c behind,
    code = titleLine picture.title ++ ended (opening picture engine ++
            picture.nodes.map nodeStatement ++ pre.map edgeStatement) ++
          ("\t" : Text) ++
            (quoteEnd line.source ++ ((" -> " : Text) ++ (quoteEnd line.target ++ c :: behind))) ∧
      (readNode? (quoteEnd line.source ++
            ((" -> " : Text) ++ (quoteEnd line.target ++ c :: behind))) =
          some (line.source, (" -> " : Text) ++ (quoteEnd line.target ++ c :: behind)) ↔
        IsLegible line.source ∧ ':' ∉ line.source) ∧
      (readNode? (quoteEnd line.target ++ c :: behind) = some (line.target, c :: behind) ↔
        IsLegible line.target ∧ ':' ∉ line.target)
  /-- Without a colon the key is written there as in the declaration, legible or not. -/
  alike : ∀ line ∈ picture.edges,
    (':' ∉ line.source → quoteEnd line.source = quote line.source) ∧
      (':' ∉ line.target → quoteEnd line.target = quote line.target)
  /-- The keys of nodes with whole numbers are legible and have no colon. -/
  numbered : ∀ node ∈ nodes, ∀ n, node.number = some (.int n) →
    IsLegible node.key ∧ ':' ∉ node.key

theorem namesRead_code [Library] [Lawful] {document : Document} {picture : Picture}
    {nodes : List KeyedNode}
    {items : List (OrderedMap Text Json)} (h : Picture.ofDocument document = .ok picture)
    (hitems : document.parts "nodes" = .ok (items.map .obj))
    (hnodes : List.Forall₂ KeyedNode.StandsFor nodes items) (hnodup : (nodes.map (·.id)).Nodup)
    (hids : ∀ node ∈ nodes, node.id ≠ []) {engine : Text} (hengine : engine ∈ engines) :
    ∃ edges, document.parts "edges" = .ok edges ∧
      NamesRead nodes edges picture engine (code picture engine) := by
  obtain ⟨_, found, edges, lines, hparts, hfound, hdrawn, hedges, hlines, hpicture⟩ :=
    Picture.exists_of_ofDocument_eq_ok h
  rw [hitems] at hparts
  cases hparts
  rw [Picture.keys_of_standFor hnodes hnodup] at hfound
  cases hfound
  have hkeys : picture.nodes.map (·.key) = nodes.map KeyedNode.key := by
    rw [mapM_eq_ok_iff_forall₂, List.forall₂_map_left_iff] at hdrawn
    exact Picture.map_key_of_nodeOf hnodup (fun _ hnode => hnode) hnodes hdrawn
  refine ⟨edges, hedges, hkeys, ?_, fun pre drawn post hsplit => ?_, ⟨lines, hpicture, ?_⟩,
    fun pre line post hsplit => ?_, fun line _ => ⟨quoteEnd_of_notMem, quoteEnd_of_notMem⟩,
    fun node _ n hn => ?_⟩
  · rw [hkeys, List.Nodup, List.pairwise_map]
    simp only [ne_eq, KeyedNode.key_eq_key_iff]
  · obtain ⟨behind, hcode⟩ := code_eq_of_name hengine hsplit
    exact ⟨behind, hcode, readNode?_quote_iff ⟨rfl, by decide⟩
      ((hasPort_cons_of_isSpace rfl).trans (hasPort_cons_of_not rfl (by decide)))⟩
  · refine (mapM_eq_ok_iff_forall₂.mp hlines).imp fun item line hline => ?_
    intro source hsource target htarget hfrom hto
    cases item with
    | obj fields => exact Picture.edgeOf_of_ids hnodup hids hsource htarget hfrom hto hline
    | _ => cases hfrom
  · obtain ⟨c, behind, hcode, hc, hport⟩ := code_eq_of_ends hengine hsplit
    exact ⟨c, behind, hcode, readNode?_quoteEnd_iff ⟨rfl, by decide⟩
      ((hasPort_cons_of_isSpace rfl).trans (hasPort_cons_of_not rfl (by decide))),
      readNode?_quoteEnd_iff hc hport⟩
  · have hkey : node.key = Picture.numberKey n := by
      rw [KeyedNode.key, hn]
      rfl
    rw [hkey]
    exact ⟨isLegible_numberKey n, Picture.notMem_numberKey rfl n⟩

end Dot

namespace Document

open Dot (NamesRead)

/-- **How the names of nodes are read**, in the code of every document of which the nodes are told
apart by their ids.  The names are the keys of the nodes; a declared key is read as it was exactly if
it is legible, and one at the end of an edge if it has no colon either. -/
theorem namesRead_of_dot_eq_ok [Dot.Library] [Dot.Lawful] {document : Document}
    {layout : Option Text} {code : Text} {nodes : List KeyedNode} {items : List (OrderedMap Text Json)}
    (hitems : document.parts "nodes" = .ok (items.map .obj))
    (hnodes : List.Forall₂ KeyedNode.StandsFor nodes items) (hnodup : (nodes.map (·.id)).Nodup)
    (hids : ∀ node ∈ nodes, node.id ≠ []) (hcode : document.dot layout = .ok code) :
    ∃ picture engine edges, Picture.ofDocument document = .ok picture ∧
      Picture.engine document layout = .ok engine ∧ document.parts "edges" = .ok edges ∧
        NamesRead nodes edges picture engine code := by
  obtain ⟨engine, picture, hengine, hpicture, rfl⟩ := dot_eq_ok hcode
  obtain ⟨edges, hedges, hread⟩ := Dot.namesRead_code hpicture hitems hnodes hnodup hids
    (Dot.mem_engines hengine)
  exact ⟨picture, engine, edges, hpicture, hengine, hedges, hread⟩

/-- A node with a number and one without, and an edge between them. -/
theorem namesRead_of_dot_eq_ok_of_mixed :
    let items : List (OrderedMap Text Json) :=
      [[("id", .str "A b"), ("numericId", .int 1)], [("id", .str "x\\y"), ("label", .str "X")]]
    let edges : List Json := [.obj [("source", .str "A b"), ("target", .str "x\\y")]]
    let nodes : List KeyedNode := [⟨"A b", some (.int 1)⟩, ⟨"x\\y", none⟩]
    let document : Document := [("nodes", .arr (items.map .obj)), ("edges", .arr edges)]
    let code : Text := "digraph sketch \x7b\n\tlayout=dot rankdir=TB\n" ++
      "\tn1 [label=\"A b\" shape=box]\n\t\"x\\y\" [label=X shape=box]\n\tn1 -> \"x\\y\"\n\x7d\n"
    document.dot none = .ok code ∧ ∃ picture engine edges,
      Picture.ofDocument document = .ok picture ∧ Picture.engine document none = .ok engine ∧
        document.parts "edges" = .ok edges ∧ NamesRead nodes edges picture engine code := by
  intro items edges nodes document code
  have hnodes : List.Forall₂ KeyedNode.StandsFor nodes items :=
    .cons ⟨rfl, rfl⟩ (.cons ⟨rfl, rfl⟩ .nil)
  have hcode : document.dot none = .ok code := by decide +kernel
  exact ⟨hcode, namesRead_of_dot_eq_ok rfl hnodes (by decide) (by decide) hcode⟩

/-- The first end of the edge is read as the other node, with a port. -/
theorem dot_of_colon :
    let document : Document :=
      [("nodes", .arr [.obj [("id", .str "a:b")], .obj [("id", .str "a")]]),
        ("edges", .arr [.obj [("source", .str "a:b"), ("target", .str "a")]])]
    let declared : Text := "\"a:b\" [label=\"a:b\" shape=box]\n\ta [label=a shape=box]\n\t"
    let ends : Text := "a:b -> a\n\x7d\n"
    document.dot none = .ok ("digraph sketch \x7b\n\tlayout=dot rankdir=TB\n\t" ++ declared ++ ends) ∧
      (Dot.readNode? (declared ++ ends)).map Prod.fst = some "a:b".toList ∧
      Dot.readString? ends = some ("a".toList, ":b -> a\n\x7d\n".toList) ∧
      Dot.readNode? ends = none := by
  decide +kernel

end Document

end GraphSketch
