import GraphSketch.Picture.Graphviz
import GraphSketch.Proofs.Text.Order
import GraphSketch.Proofs.Text.Split
import Mathlib.Data.List.Sort
import Mathlib.Data.List.TakeWhile

/-!
# Libraries that write DOT code

What is proved about DOT code holds with every library that keeps to the documentation of the
`graphviz` package.  The laws are stated here once: how values are quoted, that the end of an edge is
the value of what comes before its first colon, that attributes are written in the order of their
names, and which statement stands on which line.  They leave open how a library comes to its code.

* `Dot.writtenNode`, `Dot.writtenEdge`, `Dot.written` — the statements of a graph.
* `Dot.Lawful` — the laws.
* `Dot.order_eq` — attributes with different names can be written in one order only.
* `Graphviz.lawful` — the library of the programs keeps to the laws.
-/

set_option autoImplicit false

namespace GraphSketch

namespace Dot

section Laws

variable [Library]

/-- An attribute with its value. -/
def pair (name value : Text) : Text := name ++ "=" ++ quote value

/-- A label and other attributes with their values. -/
def pairs (label : Option Text) (attributes : List Attribute) : List Text :=
  (label.map (pair "label")).toList ++ (order attributes).map fun a => pair a.1 a.2

/-- What stands in brackets behind a node or an edge, unless it is nothing. -/
def bracketed : List Text → Text
  | [] => []
  | parts => " [" ++ Text.join " " parts ++ "]"

/-- The statement of a node. -/
def writtenNode (node : Node) : Text :=
  "\t" ++ quote node.name ++ bracketed (pairs node.label node.attributes)

/-- The statement of an edge. -/
def writtenEdge (e : Edge) : Text :=
  "\t" ++ quoteEnd e.tail ++ " -> " ++ quoteEnd e.head ++ bracketed (pairs e.label e.attributes)

/-- The statements of a graph. -/
def written (graph : Digraph) : List Text :=
  ["digraph " ++ quote graph.name ++ " \x7b",
      "\t" ++ Text.join " " (pairs none graph.attributes)] ++
    graph.nodes.map writtenNode ++ graph.edges.map writtenEdge ++ [("\x7d" : Text)]

end Laws

/-- Texts with a line feed behind each. -/
def ended (ts : List Text) : Text := ts.flatMap fun t => t ++ ("\n" : Text)

theorem ended_append (ts us : List Text) : ended (ts ++ us) = ended ts ++ ended us :=
  List.flatMap_append

theorem ended_cons (t : Text) (ts : List Text) :
    ended (t :: ts) = t ++ ("\n" : Text) ++ ended ts := rfl

/-- The laws of a library that writes DOT. -/
class Lawful [Library] : Prop where
  /-- What is in angle brackets is written as it is. -/
  quote_of_isMarkup {t : Text} : isMarkup t = true → quote t = t
  /-- So is what may stand without quotes. -/
  quote_of_isPlain {t : Text} : isPlain t = true → quote t = t
  /-- All else is written between quotes. -/
  quote_of_not {t : Text} : isMarkup t = false → isPlain t = false →
    quote t = '"' :: (escapeQuotes false t ++ ['"'])
  /-- Without a colon there is no port, and the end of an edge is written as the node is. -/
  quoteEnd_of_notMem {t : Text} : ':' ∉ t → quoteEnd t = quote t
  /-- What comes before the first colon is written as a node, and a port may follow it. -/
  exists_quoteEnd_append {node : Text} (port : Text) : ':' ∉ node →
    ∃ tail, quoteEnd (node ++ ':' :: port) = quote node ++ tail ∧
      (tail = [] ∨ ∃ rest, tail = ':' :: rest)
  /-- All attributes are written. -/
  perm_order (attributes : List Attribute) : (order attributes).Perm attributes
  /-- They are written in the order of their names. -/
  pairwise_order (attributes : List Attribute) :
    (order attributes).Pairwise fun a b => Text.before b.1 a.1 = false
  /-- The code is the comment, and the statements, one a line. -/
  source_eq (graph : Digraph) : source graph = titleLine graph.comment ++ ended (written graph)

export Lawful (quote_of_isMarkup quote_of_isPlain quote_of_not quoteEnd_of_notMem
  exists_quoteEnd_append perm_order pairwise_order source_eq)

/-- **Attributes with different names can be written in one order only.** -/
theorem order_eq [Library] [Lawful] {attributes sorted : List Attribute}
    (hperm : attributes.Perm sorted)
    (hsorted : sorted.Pairwise fun a b => Text.before a.1 b.1 = true) :
    order attributes = sorted := by
  have hle : sorted.Pairwise fun a b => Text.before b.1 a.1 = false :=
    hsorted.imp fun h => Text.before_eq_false_iff_le.mpr (Text.before_iff_lt.mp h).le
  have hnames : (sorted.map (·.1)).Nodup :=
    List.pairwise_map.mpr (hsorted.imp fun h => (Text.before_iff_lt.mp h).ne)
  have hsame := (perm_order attributes).trans hperm
  refine hsame.eq_of_pairwise (fun a b ha hb hab hba => ?_) (pairwise_order attributes) hle
  have hname : a.1 = b.1 :=
    le_antisymm (Text.before_eq_false_iff_le.mp hab) (Text.before_eq_false_iff_le.mp hba)
  exact List.inj_on_of_nodup_map hnames (hsame.mem_iff.mp ha) hb hname

end Dot

namespace Graphviz

open Dot (Attribute titleLine)

/-! ## The order of attributes -/

/-- The order in which attributes are sorted. -/
def InOrder (a b : Attribute) : Prop := (!Text.before b.1 a.1) = true

instance : DecidableRel InOrder := fun _ _ => inferInstanceAs (Decidable (_ = true))

theorem inOrder_iff_le {a b : Attribute} : InOrder a b ↔ a.1 ≤ b.1 := by
  rw [InOrder, Bool.not_eq_true', Text.before_eq_false_iff_le]

theorem insert_eq_orderedInsert (a : Attribute) : ∀ attributes : List Attribute,
    insert a attributes = attributes.orderedInsert InOrder a
  | [] => rfl
  | b :: bs => by
    rw [insert, List.orderedInsert_cons, insert_eq_orderedInsert a bs]
    rfl

theorem order_eq_insertionSort : ∀ attributes : List Attribute,
    order attributes = attributes.insertionSort InOrder
  | [] => rfl
  | a :: attributes => by
    rw [order, insert_eq_orderedInsert, order_eq_insertionSort attributes, List.insertionSort_cons]

theorem perm_order (attributes : List Attribute) : (order attributes).Perm attributes := by
  rw [order_eq_insertionSort]
  exact List.perm_insertionSort InOrder attributes

theorem pairwise_order (attributes : List Attribute) : (order attributes).Pairwise InOrder := by
  have : Std.Total InOrder := ⟨fun a b => by
    rw [inOrder_iff_le, inOrder_iff_le]
    exact le_total a.1 b.1⟩
  have : IsTrans Attribute InOrder := ⟨fun a b c => by
    rw [inOrder_iff_le, inOrder_iff_le, inOrder_iff_le]
    exact le_trans⟩
  rw [order_eq_insertionSort]
  exact List.pairwise_insertionSort InOrder attributes

/-! ## Ends of edges -/

theorem ne_colon_of_notMem {t : Text} (h : ':' ∉ t) : ∀ c ∈ t, decide (c ≠ ':') = true :=
  fun _ hc => decide_eq_true fun heq => h (heq ▸ hc)

theorem partColon_of_notMem {t : Text} (h : ':' ∉ t) : partColon t = (t, []) := by
  rw [partColon, List.takeWhile_eq_self_iff.mpr (ne_colon_of_notMem h),
    List.dropWhile_eq_nil_iff.mpr (ne_colon_of_notMem h), List.drop_nil]

theorem partColon_append {t : Text} (rest : Text) (h : ':' ∉ t) :
    partColon (t ++ ':' :: rest) = (t, rest) := by
  rw [partColon, Text.takeWhile_append_cons (ne_colon_of_notMem h) (by decide),
    Text.dropWhile_append_cons (ne_colon_of_notMem h) (by decide)]
  rfl

theorem quoteEnd_of_notMem {t : Text} (h : ':' ∉ t) : quoteEnd t = quote t := by
  rw [quoteEnd, partColon_of_notMem h]
  rfl

theorem exists_quoteEnd_append {node : Text} (port : Text) (h : ':' ∉ node) :
    ∃ tail, quoteEnd (node ++ ':' :: port) = quote node ++ tail ∧
      (tail = [] ∨ ∃ rest, tail = ':' :: rest) := by
  have hassoc : ∀ name colon port compass : Text,
      name ++ colon ++ port ++ compass = name ++ (colon ++ (port ++ compass)) := by
    intros
    simp only [List.append_assoc]
  rw [quoteEnd, partColon_append port h]
  cases port with
  | nil => exact ⟨[], (List.append_nil _).symm, Or.inl rfl⟩
  | cons c port => exact ⟨_, hassoc _ _ _ _, Or.inr ⟨_, rfl⟩⟩

/-! ## Statements -/

theorem bracketed_eq (label : Option Text) (attributes : List Attribute) :
    bracketed label attributes = Dot.bracketed (Dot.pairs label attributes) := by
  show bracketed label attributes =
    Dot.bracketed ((label.map fun t => pair ("label", t)).toList ++ (order attributes).map pair)
  unfold bracketed
  cases (label.map fun t => pair ("label", t)).toList ++ (order attributes).map pair <;> rfl

theorem nodeLine_eq (node : Dot.Node) : nodeLine node = Dot.writtenNode node ++ "\n" := by
  rw [nodeLine, bracketed_eq]
  rfl

theorem edgeLine_eq (e : Dot.Edge) : edgeLine e = Dot.writtenEdge e ++ "\n" := by
  rw [edgeLine, bracketed_eq]
  rfl

theorem source_eq (graph : Dot.Digraph) :
    source graph = titleLine graph.comment ++ Dot.ended (Dot.written graph) := by
  have hnodes : Dot.ended (graph.nodes.map Dot.writtenNode) = graph.nodes.flatMap nodeLine := by
    rw [Dot.ended, List.flatMap_map]
    exact List.flatMap_congr fun node _ => (nodeLine_eq node).symm
  have hedges : Dot.ended (graph.edges.map Dot.writtenEdge) = graph.edges.flatMap edgeLine := by
    rw [Dot.ended, List.flatMap_map]
    exact List.flatMap_congr fun e _ => (edgeLine_eq e).symm
  have hassoc : ∀ title word name brace tab attributes feed nodes edges last : Text,
      title ++ word ++ name ++ (brace ++ feed) ++ tab ++ attributes ++ feed ++ nodes ++ edges ++
          (last ++ feed) =
        title ++ (((word ++ name ++ brace ++ feed) ++ ((tab ++ attributes ++ feed) ++ [])) ++
          nodes ++ edges ++ ((last ++ feed) ++ [])) := by
    intros
    simp only [List.append_assoc, List.append_nil]
  rw [Dot.written, Dot.ended_append, Dot.ended_append, Dot.ended_append, hnodes, hedges]
  exact hassoc _ "digraph " (quote graph.name) " \x7b" "\t" _ "\n" _ _ "\x7d"

/-- **The library of the programs keeps to the laws.** -/
instance lawful : Dot.Lawful where
  quote_of_isMarkup h := if_pos (by rw [h, Bool.true_or])
  quote_of_isPlain h := if_pos (by rw [h, Bool.or_true])
  quote_of_not hmarkup hplain := if_neg (by rw [hmarkup, hplain]; decide)
  quoteEnd_of_notMem := quoteEnd_of_notMem
  exists_quoteEnd_append := exists_quoteEnd_append
  perm_order := perm_order
  pairwise_order attributes := (pairwise_order attributes).imp fun h => Bool.not_eq_true' _ ▸ h
  source_eq := source_eq

end Graphviz

end GraphSketch
