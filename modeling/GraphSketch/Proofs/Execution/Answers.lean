import GraphSketch.Proofs.Document.Execution
import GraphSketch.Proofs.Sketch.Returning

/-!
# Requests that are answered

A request that cannot be carried out is answered too: it fails with a message, and the run goes on.
Only numbers with too many digits are in the way, one that refers to a node or one that is the width
in its style.

* `Style.read_eq_error_iff`, `findNode_eq_error_iff` — which numbers these are.
* `Request.Overlong`, `Request.Refused` — the requests that are not answered, and those that are
  answered in the negative.
* `execute_answers` — what requests come to, for every sink, and for documents in particular.
-/

set_option autoImplicit false

namespace GraphSketch

/-! ## Numbers with too many digits -/

theorem mem_settingAt? {name : Text} {accept : Char → Bool} {t value : Text}
    (h : settingAt? name accept t = some value) : ∀ c ∈ value, accept c = true := by
  simp only [settingAt?, Option.bind_eq_bind, Option.bind_eq_some_iff] at h
  obtain ⟨rest, -, h⟩ := h
  split at h
  · cases h
  · cases h
    exact fun c hc => List.mem_takeWhile_imp hc

theorem mem_setting? {name : Text} {accept : Char → Bool} {value : Text} : ∀ {t : Text},
    setting? name accept t = some value → ∀ c ∈ value, accept c = true
  | [], h => by cases h
  | c :: cs, h => by
    rw [setting?, Option.orElse_eq_orElse, Option.orElse_eq_or, Option.or_eq_some_iff] at h
    rcases h with h | ⟨-, h⟩
    · exact mem_settingAt? h
    · exact mem_setting? h

namespace Style

/-- The width in a text is oversized if it has more digits than are read. -/
def IsOversized (params digits : Text) : Prop :=
  setting? "width" isDecimalDigit params = some digits ∧ Numeral.limit < digits.length

theorem read_eq_error_iff {params : Text} {fault : OversizedNumeral} :
    read params = .error fault ↔ ∃ digits, IsOversized params digits ∧ fault = ⟨digits.length⟩ := by
  unfold read IsOversized
  cases hwidth : setting? "width" isDecimalDigit params with
  | none => simp
  | some digits =>
    have hlength : (digits.filterMap digitValue?).length = digits.length := by
      rw [List.length_filterMap_eq_countP, List.countP_eq_length]
      exact mem_setting? hwidth
    simp only [Numeral.ofDigits, hlength, Option.some.injEq]
    split
    · constructor
      · intro h
        cases h
      · rintro ⟨_, ⟨rfl, hlong⟩, -⟩
        omega
    · constructor
      · intro h
        cases h
        exact ⟨digits, ⟨rfl, by omega⟩, rfl⟩
      · rintro ⟨_, ⟨rfl, -⟩, rfl⟩
        rfl

end Style

theorem findNode_eq_error_iff {ref : Text} {nodes : List Node} {fault : OversizedNumeral} :
    findNode ref nodes = .error fault ↔
      Reference.IsOversized (Text.trim ref) ∧ fault = ⟨(Text.trim ref).length - 1⟩ := by
  rw [← Reference.number_eq_error_iff, findNode]
  cases Reference.number (Text.trim ref) <;> simp [Except.map]

/-! ## Requests that fail -/

namespace Request

variable {nodes : List Node} {request : Request}

/-- A request comes to a number with too many digits, having performed some actions. -/
inductive Overlong (nodes : List Node) : Request → List Action → OversizedNumeral → Prop
  /-- The number that refers to the node. -/
  | ref {request : Request} {ref : Text} (href : request.ref? = some ref)
      (hover : Reference.IsOversized (Text.trim ref)) :
      Overlong nodes request [] ⟨(Text.trim ref).length - 1⟩
  /-- The width that the node is to have. -/
  | width {ref params digits : Text} {node : Node} (hfind : findNode ref nodes = .ok (some node))
      (hover : Style.IsOversized params digits) :
      Overlong nodes (.select ref params) [.select node.label] ⟨digits.length⟩

/-- A request comes to no number with too many digits. -/
def Legible (nodes : List Node) (request : Request) : Prop :=
  ∀ actions fault, ¬ request.Overlong nodes actions fault

/-- A request cannot be carried out, and why. -/
inductive Refused (nodes : List Node) : Request → CommandFault → Prop
  | notFound {request : Request} {ref : Text} (href : request.ref? = some ref)
      (hfind : findNode ref nodes = .ok none) : Refused nodes request (.notFound ref)
  | unnamed {ref : Text} {node : Node} (hfind : findNode ref nodes = .ok (some node)) :
      Refused nodes (.rename ref []) .missingLabel

theorem Overlong.does {actions : List Action} {fault : OversizedNumeral}
    (h : request.Overlong nodes actions fault) : request.Does nodes actions (.error fault) := by
  cases h with
  | ref href hover => exact .unread href (findNode_eq_error_iff.mpr ⟨hover, rfl⟩)
  | width hfind hover => exact .unstyled hfind (Style.read_eq_error_iff.mpr ⟨_, hover, rfl⟩)

theorem Overlong.isError_eq_false {actions : List Action} {fault : OversizedNumeral}
    (h : request.Overlong nodes actions fault) : ∀ action ∈ actions, action.isError = false := by
  cases h with
  | ref => exact List.forall_mem_nil _
  | width => exact List.forall_mem_singleton.mpr rfl

theorem Refused.does {fault : CommandFault} (h : request.Refused nodes fault) :
    request.Does nodes [.error fault] (.ok false) := by
  cases h with
  | notFound href hfind => exact .notFound href hfind
  | unnamed hfind => exact .unnamed hfind

/-- **The three ways of a request**: it is not answered, it fails, or it is carried out. -/
theorem Does.cases {actions : List Action} {answer : Except OversizedNumeral Bool}
    (h : request.Does nodes actions answer) :
    (∃ fault, request.Overlong nodes actions fault ∧ answer = .error fault) ∨
      (∃ fault, request.Refused nodes fault ∧ actions = [.error fault] ∧ answer = .ok false) ∨
      (actions ≠ [] ∧ (∀ action ∈ actions, action.isError = false) ∧ answer = .ok true) := by
  cases h with
  | unread href hfind =>
    obtain ⟨hover, rfl⟩ := findNode_eq_error_iff.mp hfind
    exact Or.inl ⟨_, .ref href hover, rfl⟩
  | unstyled hfind hread =>
    obtain ⟨digits, hover, rfl⟩ := Style.read_eq_error_iff.mp hread
    exact Or.inl ⟨_, .width hfind hover, rfl⟩
  | notFound href hfind => exact Or.inr (Or.inl ⟨_, .notFound href hfind, rfl, rfl⟩)
  | unnamed hfind => exact Or.inr (Or.inl ⟨_, .unnamed hfind, rfl, rfl⟩)
  | renamed | shown | styled | laidOut =>
    exact Or.inr (Or.inr ⟨List.cons_ne_nil _ _, by simp [Action.isError], rfl⟩)

theorem answer_eq_error_iff {fault : OversizedNumeral} :
    request.answer nodes = .error fault ↔ request.Overlong nodes (request.actions nodes) fault := by
  refine ⟨fun h => ?_, fun h => h.does.unique.2⟩
  rcases (request.does nodes).cases with ⟨found, hover, hanswer⟩ | ⟨_, -, -, hanswer⟩ |
    ⟨-, -, hanswer⟩
  · rw [h, Except.error.injEq] at hanswer
    exact hanswer ▸ hover
  · rw [h] at hanswer
    cases hanswer
  · rw [h] at hanswer
    cases hanswer

theorem legible_iff : request.Legible nodes ↔ ∃ done, request.answer nodes = .ok done := by
  constructor
  · intro hlegible
    cases h : request.answer nodes with
    | ok done => exact ⟨done, rfl⟩
    | error fault => exact absurd (answer_eq_error_iff.mp h) (hlegible _ _)
  · rintro ⟨done, hdone⟩ actions fault hover
    rw [hover.does.unique.2] at hdone
    cases hdone

theorem answer_eq_false_iff :
    request.answer nodes = .ok false ↔ ∃ fault, request.Refused nodes fault := by
  refine ⟨fun h => ?_, fun ⟨fault, h⟩ => h.does.unique.2⟩
  rcases (request.does nodes).cases with ⟨_, -, hanswer⟩ | ⟨fault, hrefused, -⟩ | ⟨-, -, hanswer⟩
  · rw [h] at hanswer
    cases hanswer
  · exact ⟨fault, hrefused⟩
  · rw [h] at hanswer
    cases hanswer

theorem exists_isError_iff :
    (∃ action ∈ request.actions nodes, action.isError = true) ↔
      ∃ fault, request.Refused nodes fault := by
  constructor
  · rintro ⟨action, hmem, herror⟩
    rcases (request.does nodes).cases with ⟨_, hover, -⟩ | ⟨fault, hrefused, -⟩ | ⟨-, hnone, -⟩
    · rw [hover.isError_eq_false action hmem] at herror
      cases herror
    · exact ⟨fault, hrefused⟩
    · rw [hnone action hmem] at herror
      cases herror
  · rintro ⟨fault, h⟩
    rw [h.does.unique.1]
    exact ⟨.error fault, List.mem_singleton_self _, rfl⟩

end Request

/-! ## What requests come to -/

/-- What requests come to: those that come to no number with too many digits are answered, all
others end the run. -/
structure Answering (nodes : List Node) : Prop where
  /-- A request is answered exactly if it comes to no number with too many digits. -/
  answered_iff : ∀ {σ : Type} (sink : Sink σ) (state : σ) (request : Request),
    (∃ after done, sink.execute nodes state request = (after, .ok done)) ↔ request.Legible nodes
  /-- In particular it is answered if there is none in its texts. -/
  answered : ∀ {σ : Type} (sink : Sink σ) (state : σ) (request : Request),
    (∀ ref, request.ref? = some ref → ¬ Reference.IsOversized (Text.trim ref)) →
    (∀ ref params digits, request = .select ref params → ¬ Style.IsOversized params digits) →
      ∃ after done, sink.execute nodes state request = (after, .ok done)
  /-- It fails exactly if it cannot be carried out, and the sink is told so once and is told nothing
  else. -/
  refused_iff : ∀ {σ : Type} (sink : Sink σ) (state after : σ) (request : Request),
    sink.execute nodes state request = (after, .ok false) ↔
      ∃ fault, request.Refused nodes fault ∧ after = sink.accept state (.error fault)
  /-- A request that is carried out tells the sink what it does, and of no failure. -/
  carried : ∀ {σ : Type} (sink : Sink σ) (state after : σ) (request : Request),
    sink.execute nodes state request = (after, .ok true) →
      ∃ actions, actions ≠ [] ∧ (∀ action ∈ actions, action.isError = false) ∧
        after = sink.acceptAll state actions
  /-- A request that is not answered has come to such a number, and is broken off there. -/
  unanswered_iff : ∀ {σ : Type} (sink : Sink σ) (state after : σ) (request : Request)
      (fault : OversizedNumeral),
    sink.execute nodes state request = (after, .error fault) ↔
      ∃ actions, request.Overlong nodes actions fault ∧ after = sink.acceptAll state actions
  /-- A run goes to its end exactly if no request comes to such a number. -/
  all_iff : ∀ {σ : Type} (sink : Sink σ) (state : σ) (requests : List Request),
    (∃ after results, sink.executeAll nodes state requests = (after, .ok results)) ↔
      ∀ request ∈ requests, request.Legible nodes
  /-- Each request in it is answered as it would be anywhere else. -/
  each : ∀ {σ : Type} (sink : Sink σ) (state after : σ) (requests : List Request)
      (results : List Bool),
    sink.executeAll nodes state requests = (after, .ok results) →
      List.Forall₂ (fun request done => ∀ state, (sink.execute nodes state request).2 = .ok done)
        requests results
  /-- A run that does not has ended at the first such request, and nothing behind it is done. -/
  ended : ∀ {σ : Type} (sink : Sink σ) (state after : σ) (requests : List Request)
      (fault : OversizedNumeral),
    sink.executeAll nodes state requests = (after, .error fault) →
      ∃ pre request post actions before results, requests = pre ++ request :: post ∧
        sink.executeAll nodes state pre = (before, .ok results) ∧
        request.Overlong nodes actions fault ∧ after = sink.acceptAll before actions
  /-- On a document a run goes to its end exactly if, besides, failures can be noted or there are
  none. -/
  document_iff : ∀ (document : Document) (requests : List Request), document.HasIds →
    ((∃ actions after results,
        document.execute nodes requests = .ok (actions, after, .ok results)) ↔
      (∀ request ∈ requests, request.Legible nodes) ∧
        (document.takesWarnings = true ∨
          ∀ request ∈ requests, ∀ fault, ¬ request.Refused nodes fault))

namespace Sink

variable {σ : Type} (sink : Sink σ) (nodes : List Node)

theorem executeAll_eq_ok_iff_legible (state : σ) (requests : List Request) :
    (∃ after results, sink.executeAll nodes state requests = (after, .ok results)) ↔
      ∀ request ∈ requests, request.Legible nodes := by
  simp only [executeAll_eq_ok_iff, Request.legible_iff]
  constructor
  · rintro ⟨_, results, hanswers, -⟩ request hmem
    have hin : request.answer nodes ∈ results.map Except.ok :=
      hanswers ▸ List.mem_map_of_mem hmem
    obtain ⟨done, -, hdone⟩ := List.mem_map.mp hin
    exact ⟨done, hdone.symm⟩
  · intro h
    obtain ⟨results, hresults⟩ :
        ∃ results : List Bool, requests.map (·.answer nodes) = results.map .ok := by
      refine ⟨requests.map fun request => (request.answer nodes).toOption.getD false, ?_⟩
      rw [List.map_map, List.map_inj_left]
      intro request hmem
      obtain ⟨done, hdone⟩ := h request hmem
      show request.answer nodes = .ok ((request.answer nodes).toOption.getD false)
      rw [hdone]
      rfl
    exact ⟨_, results, hresults, rfl⟩

theorem executeAll_ended {state after : σ} {requests : List Request} {fault : OversizedNumeral}
    (h : sink.executeAll nodes state requests = (after, .error fault)) :
    ∃ pre request post actions before results, requests = pre ++ request :: post ∧
      sink.executeAll nodes state pre = (before, .ok results) ∧
      request.Overlong nodes actions fault ∧ after = sink.acceptAll before actions := by
  obtain ⟨pre, request, post, results, rfl, hpre, hrequest, rfl⟩ :=
    (executeAll_eq_error_iff sink nodes).mp h
  refine ⟨pre, request, post, _, _, results, rfl,
    (executeAll_eq_ok_iff sink nodes).mpr ⟨hpre, rfl⟩, Request.answer_eq_error_iff.mp hrequest, ?_⟩
  rw [← acceptAll_append, List.flatMap_append, List.flatMap_singleton]

end Sink

/-- A run on a document fails where a request does and the failure cannot be noted. -/
theorem Document.execute_eq_ok_iff_legible {document : Document} (hids : document.HasIds)
    (nodes : List Node) (requests : List Request) :
    (∃ actions after results, document.execute nodes requests = .ok (actions, after, .ok results)) ↔
      (∀ request ∈ requests, request.Legible nodes) ∧
        (document.takesWarnings = true ∨
          ∀ request ∈ requests, ∀ fault, ¬ request.Refused nodes fault) := by
  have herrors : (∀ action ∈ requests.flatMap (·.actions nodes), action.isError = false) ↔
      ∀ request ∈ requests, ∀ fault, ¬ request.Refused nodes fault := by
    have hone : ∀ request : Request, (∀ action ∈ request.actions nodes, action.isError = false) ↔
        ∀ fault, ¬ request.Refused nodes fault := by
      intro request
      rw [← not_exists, ← Request.exists_isError_iff]
      simp only [not_exists, not_and, Bool.not_eq_true]
    simp only [List.forall_mem_flatMap, hone]
  rw [← Sink.executeAll_eq_ok_iff_legible journal nodes []]
  simp only [execute_eq_ok_iff, hids, true_and]
  constructor
  · rintro ⟨actions, _, results, hrun, -, hnoted⟩
    obtain ⟨-, rfl⟩ := (Sink.executeAll_eq_ok_iff journal nodes).mp hrun
    rw [Sink.acceptAll_journal, List.nil_append, herrors] at hnoted
    exact ⟨⟨_, results, hrun⟩, hnoted⟩
  · rintro ⟨⟨actions, results, hrun⟩, hnoted⟩
    obtain ⟨-, rfl⟩ := (Sink.executeAll_eq_ok_iff journal nodes).mp hrun
    rw [← herrors, ← List.nil_append (requests.flatMap _), ← Sink.acceptAll_journal] at hnoted
    exact ⟨_, _, results, hrun, rfl, hnoted⟩

/-- **Every request is answered** unless it comes to a number with too many digits, and so are all
requests of a run. -/
theorem execute_answers (nodes : List Node) : Answering nodes where
  answered_iff sink state request := by
    simp only [Sink.execute_eq, Request.legible_iff, Prod.mk.injEq, exists_and_left,
      exists_eq_left']
  answered sink state request href hwidth := by
    obtain ⟨done, hdone⟩ : ∃ done, request.answer nodes = .ok done := by
      rw [← Request.legible_iff]
      rintro actions fault (⟨hname, hover⟩ | ⟨-, hover⟩)
      · exact href _ hname hover
      · exact hwidth _ _ _ rfl hover
    exact ⟨_, done, by rw [Sink.execute_eq, hdone]⟩
  refused_iff sink state after request := by
    rw [Sink.execute_eq, Prod.mk.injEq, Request.answer_eq_false_iff]
    constructor
    · rintro ⟨rfl, fault, h⟩
      exact ⟨fault, h, by rw [h.does.unique.1]; rfl⟩
    · rintro ⟨fault, h, rfl⟩
      exact ⟨by rw [h.does.unique.1]; rfl, fault, h⟩
  carried sink state after request h := by
    rw [Sink.execute_eq, Prod.mk.injEq] at h
    obtain ⟨rfl, hanswer⟩ := h
    rcases (request.does nodes).cases with ⟨_, -, hfault⟩ | ⟨_, -, -, hfails⟩ | ⟨hne, hnone, -⟩
    · rw [hanswer] at hfault
      cases hfault
    · rw [hanswer] at hfails
      cases hfails
    · exact ⟨_, hne, hnone, rfl⟩
  unanswered_iff sink state after request fault := by
    rw [Sink.execute_eq, Prod.mk.injEq]
    constructor
    · rintro ⟨rfl, hanswer⟩
      exact ⟨_, Request.answer_eq_error_iff.mp hanswer, rfl⟩
    · rintro ⟨actions, hover, rfl⟩
      obtain ⟨rfl, hanswer⟩ := hover.does.unique
      exact ⟨rfl, hanswer⟩
  all_iff sink := sink.executeAll_eq_ok_iff_legible nodes
  each sink state after requests results h := by
    obtain ⟨hanswers, -⟩ := (Sink.executeAll_eq_ok_iff sink nodes).mp h
    have hall : List.Forall₂ (· = ·) (requests.map (·.answer nodes)) (results.map .ok) := by
      rw [hanswers, List.forall₂_eq_eq_eq]
    rw [List.forall₂_map_left_iff, List.forall₂_map_right_iff] at hall
    exact hall.imp fun request done h state => by rw [Sink.execute_eq, h]
  ended sink state after requests fault := sink.executeAll_ended nodes
  document_iff document requests hids := Document.execute_eq_ok_iff_legible hids nodes requests

/-! ## Numbers that end a run -/

/-- **Nothing is done behind a request that is not answered**, whatever it is. -/
theorem Sink.executeAll_of_overlong {σ : Type} (sink : Sink σ) (state : σ) {nodes : List Node}
    {request : Request} {actions : List Action} {fault : OversizedNumeral}
    (h : request.Overlong nodes actions fault) (requests : List Request) :
    sink.executeAll nodes state (request :: requests) =
      (sink.acceptAll state actions, .error fault) := by
  obtain ⟨rfl, hanswer⟩ := h.does.unique
  rw [executeAll_cons, hanswer]

theorem Style.isOversized_zeros {n : Nat} (h : Numeral.limit < n) :
    IsOversized ("width:" ++ List.replicate n '0') (List.replicate n '0') := by
  obtain ⟨m, rfl⟩ : ∃ m, n = m + 1 := ⟨n - 1, by omega⟩
  have hdigits : (List.replicate (m + 1) '0').takeWhile isDecimalDigit =
      List.replicate (m + 1) '0' :=
    List.takeWhile_eq_self_iff.mpr fun c hc => by
      rw [List.eq_of_mem_replicate hc]
      decide
  have hat : settingAt? "width" isDecimalDigit ("width:" ++ List.replicate (m + 1) '0') =
      some (List.replicate (m + 1) '0') := by
    have htrim : Text.trimStart (List.replicate (m + 1) '0') = List.replicate (m + 1) '0' := rfl
    have hne : List.isEmpty (List.replicate (m + 1) '0') = false := rfl
    have hafter : Text.after? ("width" ++ ":") ("width:" ++ List.replicate (m + 1) '0') =
        some (List.replicate (m + 1) '0') := Text.after?_append ("width" ++ ":") _
    simp only [settingAt?, Option.bind_eq_bind, hafter, Option.bind_some, htrim, hdigits, hne,
      Bool.false_eq_true, if_false]
  refine ⟨?_, by rwa [List.length_replicate]⟩
  show (settingAt? "width" isDecimalDigit ("width:" ++ List.replicate (m + 1) '0') <|> _) = _
  rw [hat]
  rfl

theorem Reference.trim_of_isOversized {ref : Text} (h : IsOversized ref) :
    Text.trim ref = ref := by
  obtain ⟨digits, rfl, hdigits, -⟩ := h
  exact Sketch.Reference.trim_eq hdigits

/-- A number that is long enough ends a run, and the request behind it is not carried out. -/
theorem executeAll_zeros {n : Nat} (h : Numeral.limit < n) :
    let nodes : List Node := [⟨"A", 1, .rectangle, 0⟩]
    journal.executeAll nodes [] [.rename (':' :: List.replicate n '0') "B", .layout "tree"] =
        ([], .error ⟨n⟩) ∧
      journal.executeAll nodes [] [.select "A" ("width:" ++ List.replicate n '0'), .layout "tree"] =
        ([.select "A"], .error ⟨n⟩) := by
  intro nodes
  have hover := Sketch.Reference.isOversized_zeros h
  have hfind : findNode "A" nodes = .ok (some ⟨"A", 1, .rectangle, 0⟩) := rfl
  have href : Request.Overlong nodes (.rename (':' :: List.replicate n '0') "B") []
      ⟨(Text.trim (':' :: List.replicate n '0')).length - 1⟩ :=
    .ref rfl ((Reference.trim_of_isOversized hover).symm ▸ hover)
  have hrename := journal.executeAll_of_overlong [] href [.layout "tree"]
  have hselect := journal.executeAll_of_overlong []
    (.width hfind (Style.isOversized_zeros h)) [.layout "tree"]
  rw [Reference.trim_of_isOversized hover, List.length_cons, Nat.add_sub_cancel,
    List.length_replicate] at hrename
  rw [List.length_replicate] at hselect
  exact ⟨hrename, hselect⟩

/-- The shortest numbers that are long enough, with a request behind each. -/
theorem execute_oversized_digits :
    let zeros : Text := List.replicate 4301 '0'
    let nodes : List Node := [⟨"A", 1, .rectangle, 0⟩]
    journal.executeAll nodes [] [.rename (':' :: zeros) "B", .layout "tree"] =
        ([], .error ⟨4301⟩) ∧
      journal.executeAll nodes [] [.select "A" ("width:" ++ zeros), .layout "tree"] =
        ([.select "A"], .error ⟨4301⟩) :=
  executeAll_zeros (by decide)

end GraphSketch
