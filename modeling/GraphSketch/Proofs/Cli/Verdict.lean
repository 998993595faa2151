import GraphSketch.Proofs.Cli.SideFile
import GraphSketch.Proofs.Document.Again
import GraphSketch.Proofs.Json.Writable

/-!
# What a sketch comes to by itself

Each sketch of a directory is converted with a numbering of its own.  What comes of it is told by
its text, by whether a reference to nothing is a fault, and by whether commands are run
(`Convert.verdict`).  Its title does not matter (`document_eq_title`), and code can always be
written next to it (`exists_emit_document`).

* `Convert.entitle` — the document with another title.  Actions leave the title as it is, so
  running commands and giving a title can be done in either order (`foldl_apply_cons`,
  `ranDocument_cons`).
* `exists_emit_document` — the document of a sketch depicts a diagram, so it has a picture; if its
  layout is unknown, the warning that says so can be written, as the rest of the document can.
* `verdict_of_blank`, `verdict_of_document` — the two ways in which a file is no failure.

Nothing here is about files; what may go wrong with those is in `Proofs.Cli.BatchFile`.
-/

set_option autoImplicit false

namespace GraphSketch

namespace Json

/-- A value may take the place of another one, or of none, if it can be written as well. -/
theorem exists_mark_put {lvl : Nat} {key : Text} {v : Json} : ∀ {fields : OrderedMap Text Json},
    (mark ∈ prettyAt lvl v ↔ ∃ old, fields.get? key = some old ∧ mark ∈ prettyAt lvl old) →
      ((∃ e ∈ OrderedMap.put fields key v, mark ∈ prettyAt lvl e.2) ↔
        ∃ e ∈ fields, mark ∈ prettyAt lvl e.2)
  | [], h => by
    simpa [OrderedMap.put, OrderedMap.get?] using h
  | e :: fields, h => by
    by_cases hkey : e.1 = key
    · simp only [OrderedMap.get?, if_pos hkey, Option.some.injEq, exists_eq_left'] at h
      simp only [OrderedMap.put, if_pos hkey, List.mem_cons, exists_eq_or_imp, h]
    · simp only [OrderedMap.get?, if_neg hkey] at h
      simp only [OrderedMap.put, if_neg hkey, List.mem_cons, exists_eq_or_imp, exists_mark_put h]

end Json

namespace Document

theorem isWritable_addWarning (document : Document) (message : Text) :
    Json.isWritable (.obj (document.addWarning message)) = Json.isWritable (.obj document) := by
  rw [Bool.eq_iff_iff, ← not_iff_not, Bool.not_eq_true, Bool.not_eq_true,
    Json.isWritable_eq_false_iff, Json.isWritable_eq_false_iff, Json.mark_mem_prettyAt_obj,
    Json.mark_mem_prettyAt_obj]
  unfold addWarning
  split
  · rename_i hnone
    refine Json.exists_mark_put ?_
    simp only [hnone, reduceCtorEq, false_and, exists_false, iff_false, Json.mark_mem_prettyAt_arr,
      List.mem_singleton, exists_eq_left]
    exact Json.mark_notMem_quote message
  · rename_i warnings hsome
    refine Json.exists_mark_put ?_
    simp only [hsome, Option.some.injEq, exists_eq_left', Json.mark_mem_prettyAt_arr,
      List.mem_append, List.mem_singleton, or_and_right, exists_or, exists_eq_left,
      Json.prettyAt, Json.mark_notMem_quote, or_false]
  · exact Iff.rfl

/-- If the layout is unknown, the default engine draws the document. -/
theorem emit_of_unknown {document : Document} {picture : Picture} {kind : Text}
    (hpicture : Picture.ofDocument document = .ok picture)
    (hrender : document.render .dot none = .error (.unknownLayout kind))
    (htakes : document.takesWarnings = true) :
    document.emit .dot =
      (.ok (Dot.code picture Layout.defaultEngine), document.addWarning (rejection kind)) := by
  have hsame : Picture.ofDocument (OrderedMap.put (document.addWarning (rejection kind)) "layout"
      .null) = .ok picture := by
    rw [← hpicture]
    refine Picture.ofDocument_congr fun key hkey => ?_
    obtain ⟨hlayout, hwarning⟩ : "layout".toList ≠ key ∧ "warnings".toList ≠ key := by
      revert key
      decide
    rw [OrderedMap.get?_put_of_ne _ _ hlayout, get?_addWarning_of_ne hwarning]
  have hdot : Document.dot (OrderedMap.put (document.addWarning (rejection kind)) "layout" .null)
      none = .ok (Dot.code picture Layout.defaultEngine) := by
    have hengine : Picture.engine (OrderedMap.put (document.addWarning (rejection kind)) "layout"
        .null) none = .ok Layout.defaultEngine := by
      rw [Picture.engine, OrderedMap.get?_put_self]
      rfl
    rw [Document.dot, hengine, hsame]
    rfl
  simp only [emit, hrender, htakes, if_true]
  exact congrArg (·, document.addWarning (rejection kind)) hdot

/-- A field that actions do not change may stand before the others. -/
theorem apply_cons {e : Text × Json} (hkey : e.1 ∉ effectNames) (document : Document)
    (action : Action) : apply (e :: document) action = e :: document.apply action := by
  obtain ⟨hnodes, hlayout, hwarnings⟩ : e.1 ≠ "nodes".toList ∧ e.1 ≠ "layout".toList ∧
      e.1 ≠ "warnings".toList := by
    simpa only [effectNames, List.mem_cons, List.not_mem_nil, or_false, not_or] using hkey
  have hset : ∀ label fields, setNode (e :: document) label fields =
      e :: document.setNode label fields := by
    intro label fields
    simp only [setNode, OrderedMap.get?, if_neg hnodes, OrderedMap.put]
    cases OrderedMap.get? document "nodes" with
    | none => rfl
    | some v => cases v <;> rfl
  have hwarn : ∀ message, addWarning (e :: document) message = e :: document.addWarning message := by
    intro message
    simp only [addWarning, OrderedMap.get?, if_neg hwarnings, OrderedMap.put]
    cases OrderedMap.get? document "warnings" with
    | none => rfl
    | some v => cases v <;> rfl
  cases action with
  | select _ => rfl
  | inspect _ => rfl
  | style label given => exact hset label given.fields
  | rename label newLabel => exact hset label _
  | layout kind labels => simp only [apply, OrderedMap.put, if_neg hlayout]
  | error fault => exact hwarn _

theorem foldl_apply_cons {e : Text × Json} (hkey : e.1 ∉ effectNames) (actions : List Action) :
    ∀ document : Document, actions.foldl apply (e :: document) = e :: actions.foldl apply document := by
  induction actions with
  | nil => exact fun _ => rfl
  | cons action actions ih =>
    intro document
    rw [List.foldl_cons, apply_cons hkey, ih, List.foldl_cons]

end Document

namespace Convert

variable {options : ConvertOptions} {numbering later : Numbering} {title text : Text}
  {diagram : Diagram} {built : Document}

/-! ## The title -/

/-- A field that commands do not change may stand before the others. -/
theorem ranDocument_cons {e : Text × Json} (hkey : e.1 ∉ Document.effectNames)
    (hactions : e.1 ≠ "actions".toList) (nodes : List Node) (requests : List Request)
    (document : Document) :
    ranDocument nodes requests (e :: document) =
      (ranDocument nodes requests document).map (e :: ·) := by
  unfold ranDocument
  rw [Document.sink.executeAll_eq_journal nodes ([], e :: document),
    Document.sink.executeAll_eq_journal nodes ([], document), Document.acceptAll_sink,
    Document.acceptAll_sink, Document.foldl_apply_cons hkey]
  cases (journal.executeAll nodes [] requests).2 with
  | error fault => rfl
  | ok results => simp only [OrderedMap.put, if_neg hactions, Except.map]

/-- The field of a title. -/
def titleField (title : Text) : Text × Json :=
  Json.textField "title" (Document.textOr Document.defaultTitle title)

/-- The document with another title. -/
def entitle (title : Text) (document : Document) : Document := titleField title :: document.tail

/-- **The title of a document stands by itself.** -/
theorem document_eq_title (options : ConvertOptions) (numbering : Numbering) (title text : Text) :
    document options numbering title text =
      (document options numbering [] text).map fun (diagram, built, later) =>
        (diagram, entitle title built, later) := by
  have hran : ∀ (title : Text) (diagram : Diagram) (requests : List Request),
      ranDocument diagram.nodes requests (Document.ofDiagram title none diagram) =
        (ranDocument diagram.nodes requests (Document.ofDiagram [] none diagram).tail).map
          (titleField title :: ·) :=
    fun title diagram requests =>
      ranDocument_cons (e := titleField title) (show "title".toList ∉ _ by decide)
        (show "title".toList ≠ _ by decide) _ _ _
  unfold document
  split
  · rfl
  · rename_i diagram later _
    split
    · dsimp only
      rw [hran title, hran []]
      cases ranDocument diagram.nodes (diagram.commands.map (·.request)) _ <;> rfl
    · rfl

/-- Nor does it matter to whether the document can be written. -/
theorem isWritable_of_document_title {written : Document}
    (h : document options numbering [] text = .ok (diagram, built, later))
    (h' : document options numbering title text = .ok (diagram, written, later)) :
    Json.isWritable (.obj written) = Json.isWritable (.obj built) := by
  have hwritten := document_eq_title options numbering title text
  have hbuilt := document_eq_title options numbering [] text
  rw [h, h'] at hwritten
  rw [h] at hbuilt
  obtain rfl : written = entitle title built :=
    (Prod.mk.inj (Prod.mk.inj (Except.ok.inj hwritten)).2).1
  rw [(Prod.mk.inj (Prod.mk.inj (Except.ok.inj hbuilt)).2).1]
  simp only [entitle, titleField, Json.textField, List.tail_cons, Json.isWritable_obj_text]

/-! ## The code -/

theorem depicts_document (h : document options numbering title text = .ok (diagram, built, later)) :
    Document.Depicts diagram built := by
  have hplain := Document.depicts_ofDiagram title none diagram
  obtain ⟨-, ⟨-, rfl⟩ | ⟨-, hran⟩⟩ := document_cases h
  · exact hplain
  · obtain ⟨actions, executed, results, hexecute, rfl⟩ := ranDocument_eq_ok hran
    obtain ⟨-, hstate⟩ := (Sink.executeAll_eq_ok_iff Document.sink _).mp hexecute
    rw [Document.acceptAll_sink] at hstate
    rw [(Prod.mk.inj hstate).2]
    refine (hplain.foldl_apply fun action haction => ?_).put (by decide) _
    obtain ⟨request, -, hmem⟩ := List.mem_flatMap.mp haction
    exact request.proper_actions diagram.nodes action hmem

/-- **Code can always be written next to the document of a sketch**, and the warning that it may
leave there can be written as well. -/
theorem exists_emit_document (h : document options numbering title text = .ok (diagram, built, later))
    (format : Format) : ∃ code written, built.emit format = (.ok code, written) ∧
      Json.isWritable (.obj written) = Json.isWritable (.obj built) := by
  obtain ⟨hcompile, -⟩ := document_cases h
  have hdepicts := depicts_document h
  obtain ⟨picture, hshows⟩ := Picture.exists_shows (Sketch.drawable_of_compile hcompile) hdepicts
  cases hrender : built.render format none with
  | ok code => exact ⟨code, built, by rw [Document.emit, hrender], rfl⟩
  | error fault =>
    -- only an unknown layout is in the way of the code
    obtain ⟨rfl, hengine⟩ := Document.render_of_picture hshows.made hrender
    obtain ⟨kind, hasked⟩ := Picture.exists_askedLayout hdepicts none
    obtain rfl : fault = .unknownLayout kind := by
      cases hfor : Layout.engineFor (some kind) with
      | ok engine =>
        rw [Picture.engine_eq_ok_iff.mpr ⟨kind, hasked, hfor⟩] at hengine
        cases hengine
      | error other =>
        obtain ⟨rfl, hunknown⟩ := Layout.engineFor_eq_error_iff.mp hfor
        rw [Picture.engine_eq_unknown_iff.mpr ⟨hasked, hunknown⟩] at hengine
        exact (Except.error.inj hengine).symm
    obtain ⟨warnings, hwarnings, -⟩ := exists_warningList?_document h
    have htakes : built.takesWarnings = true :=
      Document.takesWarnings_iff.mpr (by rw [hwarnings]; exact Option.some_ne_none _)
    exact ⟨_, _, Document.emit_of_unknown hshows.made hrender htakes,
      Document.isWritable_addWarning built _⟩

/-! ## The verdict -/

/-- Options of which only the ones given matter to a document. -/
def plainOptions (strict runCommands : Bool) : ConvertOptions where
  input := Path.here
  output := none
  batch := true
  emit := none
  runCommands := runCommands
  ids := .none
  clearIds := false
  strict := strict

/-- What becomes of a text that is converted with a numbering of its own, wherever the document
goes.  It is not told why it fails. -/
def verdict (strict runCommands : Bool) (raw : Text) : Report :=
  let text := Sketch.unifyLineEnds raw
  if Text.isBlankText text then .blank
  else
    match document (plainOptions strict runCommands) Numbering.empty [] text with
    | .error _ => .failed []
    | .ok (diagram, built, _) =>
      if Json.isWritable (.obj built) then .converted (Counts.ofDiagram diagram) else .failed []

theorem verdict_of_blank {strict runCommands : Bool} {raw : Text}
    (h : Text.isBlankText (Sketch.unifyLineEnds raw) = true) :
    verdict strict runCommands raw = .blank := by
  simp only [verdict, h, if_true]

/-- The verdict is that on the document which the text is made into. -/
theorem verdict_of_document {raw : Text}
    (hblank : Text.isBlankText (Sketch.unifyLineEnds raw) = false) (title : Text) :
    verdict options.strict options.runCommands raw =
      match document options Numbering.empty title (Sketch.unifyLineEnds raw) with
      | .error _ => .failed []
      | .ok (diagram, built, _) =>
        if Json.isWritable (.obj built) then .converted (Counts.ofDiagram diagram)
        else .failed [] := by
  have hsame : document (plainOptions options.strict options.runCommands) Numbering.empty []
      (Sketch.unifyLineEnds raw) =
        document options Numbering.empty [] (Sketch.unifyLineEnds raw) := rfl
  have htitle := document_eq_title options Numbering.empty title (Sketch.unifyLineEnds raw)
  simp only [verdict, hblank, Bool.false_eq_true, if_false, hsame]
  rcases hplain : document options Numbering.empty [] (Sketch.unifyLineEnds raw) with
    fault | ⟨diagram, built, later⟩
  · rw [htitle, hplain]
    rfl
  · rw [hplain] at htitle
    rw [htitle]
    simp only [Except.map, isWritable_of_document_title hplain htitle]

end Convert

end GraphSketch
