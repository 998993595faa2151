import GraphSketch.Cli.Render
import GraphSketch.Proofs.Cli.Convert
import GraphSketch.Proofs.Document.LastWrite
import GraphSketch.Proofs.Picture.Graph

/-!
# The code beside a document

A conversion may write code next to the document of a sketch.  `ir2code` makes code of that document
later on, and the two programs agree, although they do not treat an unknown layout alike: where a
conversion falls back and leaves a warning in the document, `ir2code` reports the layout.

* `Document.Rejects` — the layout of a document is unknown to a language.
* `Convert.get?_document` — what is in a document before its code is written.
* `Convert.EmittingRun` is a run that writes code and ends well, and `EmittingRun.Rendering` a run
  of `ir2code` on the document that it has written.
* `EmittingRun.exists_agrees` — the code beside the document is the code that is printed.
-/

set_option autoImplicit false

namespace GraphSketch

/-! ## Layouts that are rejected -/

namespace Document

variable {document : Document} {format : Format} {kind : Text}

/-- The layout of a document is unknown.  This matters to DOT code only. -/
structure Rejects (document : Document) (format : Format) (kind : Text) : Prop where
  isDot : format = .dot
  layout : document.get? "layout" = some (.str kind)
  nonempty : kind ≠ []
  unknown : Layout.ofName? kind = none

theorem rejects_dot_iff :
    document.Rejects .dot kind ↔ Picture.engine document none = .error (.unknownLayout kind) := by
  rw [Picture.engine_eq_unknown_iff]
  change _ ↔ textOf (document.get? "layout") = .ok kind ∧ kind ≠ [] ∧ Layout.ofName? kind = none
  constructor
  · intro h
    rw [h.layout]
    exact ⟨rfl, h.nonempty, h.unknown⟩
  · rintro ⟨hasked, hne, hunknown⟩
    refine ⟨rfl, ?_, hne, hunknown⟩
    unfold textOf at hasked
    split at hasked
    · rename_i hlayout
      rw [hlayout, Except.ok.inj hasked]
    · split at hasked
      · exact absurd (Except.ok.inj hasked).symm hne
      · cases hasked
    · exact absurd (Except.ok.inj hasked).symm hne

theorem Rejects.render (h : document.Rejects format kind) :
    document.render format none = .error (.unknownLayout kind) := by
  obtain rfl := h.isDot
  rw [Document.render, dot, rejects_dot_iff.mp h]
  rfl

/-- A warning that does not tell that a layout is rejected. -/
def IsNoRejection (w : Json) : Prop := ∀ t : Text, w ≠ .str ("layout_rejected: " ++ t)

theorem isNoRejection_of_take {t start : Text} (h : t.take 2 = start) (hne : start ≠ ['l', 'a']) :
    IsNoRejection (.str t) := by
  intro rest hsame
  rw [Json.str.inj hsame] at h
  exact hne h.symm

theorem isNoRejection_message (w : Warning) : IsNoRejection (.str w.message) := by
  have hline : w.message.take 2 = ['l', 'i'] := by cases w <;> rfl
  exact isNoRejection_of_take hline (by decide)

theorem isNoRejection_warning {action : Action} {t : Text} (h : action.warning? = some t) :
    IsNoRejection (.str t) := by
  cases action with
  | error fault =>
    have hfailed : t.take 2 = ['c', 'o'] := by rw [← Option.some.inj h]; rfl
    exact isNoRejection_of_take hfailed (by decide)
  | _ => cases h

theorem warningList?_ofDiagram (title : Text) (orientation : Option Text) (diagram : Diagram) :
    (ofDiagram title orientation diagram).warningList? =
      some (diagram.warnings.map (.str ·.message)) := by
  unfold warningList?
  have hget : (ofDiagram title orientation diagram).get? "warnings" =
      OrderedMap.get? (optionalList "warnings" (diagram.warnings.map (.str ·.message)) ++
        optionalList "errors" (diagram.errors.map LineError.toJson)) "warnings" := rfl
  rw [hget]
  cases diagram.warnings with
  | nil => cases diagram.errors <;> rfl
  | cons w ws => rfl

end Document

namespace Convert

/-! ## What is in a document -/

section Documents

variable {options : ConvertOptions} {numbering later : Numbering} {title text : Text}
  {diagram : Diagram} {built : Document}

/-- The actions of the commands that are run. -/
def actionsOf (options : ConvertOptions) (diagram : Diagram) : List Action :=
  (options.requests diagram).flatMap (·.actions diagram.nodes)

/-- **A document before its code is written** is that of the diagram, changed by the actions of the
commands that are run. -/
theorem get?_document (h : document options numbering title text = .ok (diagram, built, later))
    {key : Text} (hkey : "actions".toList ≠ key) :
    built.get? key = ((actionsOf options diagram).foldl Document.apply
      (Document.ofDiagram title none diagram)).get? key := by
  obtain ⟨-, ⟨hnone, rfl⟩ | ⟨-, hran⟩⟩ := document_cases h
  · rw [actionsOf, hnone]
    rfl
  · obtain ⟨actions, executed, results, hexecute, rfl⟩ := ranDocument_eq_ok hran
    obtain ⟨-, hstate⟩ := (Sink.executeAll_eq_ok_iff Document.sink _).mp hexecute
    rw [Document.acceptAll_sink] at hstate
    rw [OrderedMap.get?_put_of_ne _ _ hkey, (Prod.mk.inj hstate).2, actionsOf]

/-- The layout is that of the last command for a layout that is run. -/
theorem get?_layout_document
    (h : document options numbering title text = .ok (diagram, built, later)) :
    built.get? "layout" =
      ((options.requests diagram).filterMap Request.kind?).getLast?.map Json.str := by
  rw [get?_document h (by decide), Document.get?_layout_foldl_apply,
    Document.get?_layout_ofDiagram, Option.or_none, actionsOf,
    Request.filterMap_layout?_flatMap]

theorem exists_warningList?_document
    (h : document options numbering title text = .ok (diagram, built, later)) :
    ∃ warnings, built.warningList? = some warnings ∧ ∀ w ∈ warnings, Document.IsNoRejection w := by
  refine ⟨diagram.warnings.map (.str ·.message) ++
    ((actionsOf options diagram).filterMap Action.warning?).map .str, ?_, ?_⟩
  · rw [Document.warningList?, get?_document h (by decide), ← Document.warningList?,
      Document.warningList?_foldl_apply, Document.warningList?_ofDiagram, Option.map_some]
  · intro w hw
    rcases List.mem_append.mp hw with hw | hw
    · obtain ⟨warning, -, rfl⟩ := List.mem_map.mp hw
      exact Document.isNoRejection_message warning
    · obtain ⟨t, ht, rfl⟩ := List.mem_map.mp hw
      obtain ⟨action, -, haction⟩ := List.mem_filterMap.mp ht
      exact Document.isNoRejection_warning haction

end Documents

/-! ## The two runs -/

/-- A run of the program on one sketch that writes code next to the document and ends well. -/
structure EmittingRun where
  commandLine : List Text
  arguments : Arguments
  format : Format
  /-- The file of the document. -/
  output : Path
  /-- The file of the code. -/
  side : Path
  /-- The files before the run. -/
  before : FileTree
  reads : grammar.read commandLine = .ok arguments
  isSingle : (optionsOf arguments).batch = false
  emits : (optionsOf arguments).emit = some format
  hasOutput : (optionsOf arguments).outputPath? = some output
  hasSide : output.withSuffix? format.suffix = some side
  /-- The files that are written are different ones, that of the numbering too if it has one. -/
  areApart : ((output :: side :: (optionsOf arguments).ids.path?.toList).map Path.location).Nodup
  endsWell : (run commandLine before).exit = 0

namespace EmittingRun

/-- The options of a run. -/
def options (r : EmittingRun) : ConvertOptions := optionsOf r.arguments

/-- The files after a run. -/
def after (r : EmittingRun) : FileTree := (run r.commandLine r.before).tree

/-- A run of `ir2code` on the document that a run has written, from its file or from standard input,
in the same language and with nothing else asked for.  Other files may have changed. -/
structure Rendering (r : EmittingRun) where
  commandLine : List Text
  arguments : Arguments
  stdin : Text
  before : FileTree
  reads : Render.grammar.read commandLine = .ok arguments
  sameFormat : (Render.optionsOf arguments).format = r.format
  noLayout : (Render.optionsOf arguments).layout = none
  noOrientation : (Render.optionsOf arguments).orientation = none
  prints : (Render.optionsOf arguments).output = none
  source :
    (∃ t, (Render.optionsOf arguments).input = some t ∧ t ≠ ['-'] ∧
        before.read (Path.ofText t) = r.after.read r.output) ∨
      (Render.optionsOf arguments).input = some ['-'] ∧ r.after.read r.output = .ok stdin

/-- How the run of `ir2code` on the document ends. -/
def Rendering.ending {r : EmittingRun} (s : r.Rendering) : Except RenderFault Ending :=
  Render.run s.commandLine s.stdin s.before

/-- The document that a run makes of its sketch, with the commands carried out if they are run, but
before its code is written. -/
def Made (r : EmittingRun) (built : Document) : Prop :=
  ∃ text numbering diagram later, r.before.read r.options.input = .ok text ∧
    Returns (loadNumbering r.options) r.before numbering r.before ∧
    document r.options numbering r.options.input.stem (Sketch.unifyLineEnds text) =
      .ok (diagram, built, later) ∧
    built.get? "layout" =
      ((r.options.requests diagram).filterMap Request.kind?).getLast?.map Json.str

/-- The code beside the document is what `ir2code` makes of the document. -/
structure Agrees (r : EmittingRun) (s : r.Rendering) (built : Document) (code : Text) :
    Prop where
  /-- The code is beside the document. -/
  beside : r.after.read r.side = .ok code
  /-- It is that of the document and is printed, unless the layout is unknown. -/
  printed : (∀ kind, ¬ built.Rejects r.format kind) →
    built.render r.format none = .ok code ∧ Holds r.after r.output (.obj built) ∧
      s.ending = .ok (.done code s.before)
  /-- If it is, `ir2code` tells so.  The code is that of the document without a layout, and the last
  warning of the document, and no other one, tells so too. -/
  rejected : ∀ kind, built.Rejects r.format kind →
    s.ending = .ok (.failed [] (Layout.unknownMessage kind) s.before) ∧
    Document.dot (OrderedMap.erase built "layout") none = .ok code ∧
    ∃ (written : Document) (warnings : List Json), Holds r.after r.output (.obj written) ∧
      (∀ key ≠ "warnings".toList, written.get? key = built.get? key) ∧
      written.warningList? = some (warnings ++ [.str (Document.rejection kind)]) ∧
      ∀ w ∈ warnings, Document.IsNoRejection w

variable (r : EmittingRun)

theorem side_ne_output : r.side.location ≠ r.output.location := by
  have h := r.areApart
  simp only [List.map_cons, List.nodup_cons, List.mem_cons, not_or] at h
  exact Ne.symm h.1.1

theorem ne_ids {ids : Path} (hids : r.options.ids.path? = some ids) :
    r.output.location ≠ ids.location ∧ r.side.location ≠ ids.location := by
  have h := r.areApart
  rw [show (optionsOf r.arguments).ids.path? = some ids from hids] at h
  simp only [Option.toList_some, List.map_cons, List.map_nil, List.nodup_cons, List.mem_cons,
    List.not_mem_nil, or_false, not_or] at h
  exact ⟨h.1.2, h.2.1⟩

/-- **A run has written** its document, with the warning if there is one, and the code. -/
theorem exists_written : ∃ built code written, r.Made built ∧ built.Fits ∧
    built.emit r.format = (.ok code, written) ∧ Json.isWritable (.obj written) = true ∧
    r.after.read r.side = .ok code ∧ r.after.read r.output = .ok (Json.pretty (.obj written)) := by
  obtain ⟨diagram, hsingle⟩ := exists_returns_single r.reads r.isSingle r.endsWell
  unfold single at hsingle
  obtain ⟨numbering, loaded, hload, hrest⟩ := returns_bind_iff.mp hsingle
  obtain rfl := of_returns_loadNumbering hload
  obtain ⟨⟨d, later⟩, middle, hfile, hlast⟩ := returns_bind_iff.mp hrest
  obtain ⟨_, _, hsave, hpure⟩ := returns_bind_iff.mp hlast
  obtain ⟨-, hafter⟩ := returns_pure_iff.mp hpure
  obtain ⟨text, output, built, hread, houtput, hdocument, hstore⟩ := of_returns_file_store hfile
  obtain rfl : r.output = output := Option.some.inj (r.hasOutput.symm.trans houtput)
  rw [r.emits] at hstore
  obtain ⟨code, written, hemit, hside, hwritable, hpretty⟩ :=
    of_returns_store_emit r.hasSide r.side_ne_output hstore
  rw [after, hafter]
  exact ⟨built, code, written,
    ⟨text, numbering, d, later, hread, hload, hdocument, get?_layout_document hdocument⟩,
    (document_eq_ok hdocument).2.2, hemit, hwritable,
    read_of_returns_saveNumbering hsave hside fun ids hids => (r.ne_ids hids).2,
    read_of_returns_saveNumbering hsave hpretty fun ids hids => (r.ne_ids hids).1⟩

variable {r}

theorem Rendering.source_eq (s : r.Rendering) {t : Text} (h : r.after.read r.output = .ok t)
    (ht : '\r' ∉ t) :
    Render.source (Render.optionsOf s.arguments) s.stdin s.before = .ok t := by
  rcases s.source with ⟨path, hinput, hne, hsame⟩ | ⟨hinput, hstdin⟩
  · rw [Render.source, hinput]
    split
    · rename_i hnone
      cases hnone
    · rename_i hdash
      exact absurd (Option.some.inj hdash) hne
    · rename_i hpath
      rw [← Option.some.inj hpath, hsame, h]
      exact congrArg Except.ok (Sketch.unifyLineEnds_of_notMem ht)
  · rw [Render.source, hinput]
    split
    · rename_i hnone
      cases hnone
    · exact congrArg Except.ok (Except.ok.inj (hstdin.symm.trans h))
    · rename_i hnot hpath
      exact absurd (Option.some.inj hpath).symm hnot

/-- How `ir2code` ends depends on what becomes of the document alone. -/
theorem Rendering.ending_of_render (s : r.Rendering) {written : Document} {t : Text}
    (h : r.after.read r.output = .ok t) (ht : '\r' ∉ t) (hvalue : Json.read t = .ok (.obj written)) :
    (∀ code, written.render r.format none = .ok code → s.ending = .ok (.done code s.before)) ∧
      ∀ kind, written.render r.format none = .error (.unknownLayout kind) →
        s.ending = .ok (.failed [] (Layout.unknownMessage kind) s.before) := by
  refine ⟨fun code hrender => ?_, fun kind hrender => ?_⟩
  all_goals
    rw [ending, Render.run, s.reads]
    simp only [Render.runWith, s.source_eq h ht, Render.documentOf, hvalue, Render.orient,
      s.noOrientation, s.sameFormat, s.noLayout, hrender, Render.deliver, s.prints, bind,
      Except.bind, pure, Except.pure]

/-- **The code beside the document is the code that `ir2code` prints**, unless the layout is unknown
and the language is DOT. -/
theorem exists_agrees (r : EmittingRun) (s : r.Rendering) :
    ∃ built code, r.Made built ∧ r.Agrees s built code := by
  obtain ⟨built, code, written, hmade, hfits, hemit, hwritable, hside, hpretty⟩ := r.exists_written
  have hwritten : written.Fits := Document.fits_emit hfits hemit
  have hreturn : '\r' ∉ Json.pretty (.obj written) := Json.return_notMem_pretty hwritten
  have hvalue : Json.read (Json.pretty (.obj written)) = .ok (.obj written) :=
    Json.read_pretty (hwritten.mono (by decide)) hwritable
  have hholds : Holds r.after r.output (.obj written) :=
    ⟨_, hpretty, by rw [Sketch.unifyLineEnds_of_notMem hreturn, hvalue]⟩
  obtain ⟨hdone, hfailed⟩ := s.ending_of_render hpretty hreturn hvalue
  refine ⟨built, code, hmade, hside, fun haccepts => ?_, fun kind hrejects => ?_⟩
  · rcases Document.emit_eq_ok hemit with ⟨hrender, rfl⟩ | ⟨kind, hdot, hengine, -, -⟩
    · exact ⟨hrender, hholds, hdone code hrender⟩
    · rw [hdot] at haccepts
      exact absurd (Document.rejects_dot_iff.mpr hengine) (haccepts kind)
  · rcases Document.emit_eq_ok hemit with ⟨hrender, -⟩ | ⟨other, -, hengine, rfl, hcode⟩
    · rw [hrejects.render] at hrender
      cases hrender
    · obtain rfl : kind = other :=
        Json.str.inj (Option.some.inj
          (hrejects.layout.symm.trans (Document.rejects_dot_iff.mpr hengine).layout))
      -- the warning leaves the layout, so that the written document is rejected as well
      have hagain : Document.Rejects (built.addWarning (Document.rejection kind)) r.format kind :=
        ⟨hrejects.isDot, (Document.get?_addWarning_of_ne (by decide) _).trans hrejects.layout,
          hrejects.nonempty, hrejects.unknown⟩
      obtain ⟨text, numbering, diagram, later, -, -, hdocument, -⟩ := hmade
      obtain ⟨warnings, hwarnings, hother⟩ := exists_warningList?_document hdocument
      refine ⟨hfailed kind hagain.render, hcode, _, warnings, hholds,
        fun key hkey => Document.get?_addWarning_of_ne (Ne.symm hkey) _, ?_, hother⟩
      rw [Document.warningList?_addWarning, hwarnings]
      rfl

/-- A run on a sketch that chooses a layout which does not exist. -/
def spiralRun : EmittingRun where
  commandLine := ["odd.sketch", "--emit=dot", "--ids", "ids.json", "--run-commands"]
  arguments := ⟨[(.choice ["--emit"] ["dot", "mermaid"], some "dot"),
    (.value ["--ids"], some "ids.json"), (.flag ["--run-commands"], none)], ["odd.sketch"]⟩
  format := .dot
  output := ⟨[], ["odd.json"]⟩
  side := ⟨[], ["odd.dot"]⟩
  before := ⟨[], [(["odd.sketch"], "A -> B\n=layout(grid)\n=layout(spiral)")]⟩
  reads := rfl
  isSingle := by decide +kernel
  emits := by decide +kernel
  hasOutput := by decide +kernel
  hasSide := by decide +kernel
  areApart := by decide +kernel
  endsWell := by decide +kernel

/-- A run of `ir2code` on the document of that sketch. -/
def spiralRendering : spiralRun.Rendering where
  commandLine := ["--in", "odd.json", "--fmt", "dot"]
  arguments := ⟨[((CommandOption.value ["--in"]).mandatory, some "odd.json"),
    ((CommandOption.choice ["--fmt"] ["dot", "mermaid"]).mandatory, some "dot")], []⟩
  stdin := []
  before := spiralRun.after
  reads := rfl
  sameFormat := by decide +kernel
  noLayout := by decide +kernel
  noOrientation := by decide +kernel
  prints := by decide +kernel
  source := Or.inl ⟨"odd.json", by decide +kernel, by decide +kernel, by decide +kernel⟩

/-- The layout of the code beside the document is the default one, and `ir2code` does not fall
back. -/
theorem exists_agrees_of_spiral :
    let code : Text := "// odd\ndigraph sketch \x7b\n" ++
      "\tlayout=dot rankdir=TB\n\tn1 [label=A shape=box]\n\tn2 [label=B shape=box]\n" ++
      "\tn1 -> n2\n\x7d\n"
    let err : Text := "Error: Unknown layout 'spiral' (expected one of: " ++
      "circle, decision, grid, list, tree)\n"
    spiralRun.after.read spiralRun.side = .ok code ∧
      (spiralRendering.ending.toOption.map fun ending => (ending.exit, ending.out, ending.err)) =
        some (1, [], err) ∧
      ∃ built code, spiralRun.Made built ∧ spiralRun.Agrees spiralRendering built code :=
  ⟨by decide +kernel, by decide +kernel, exists_agrees spiralRun spiralRendering⟩

end EmittingRun

end Convert

end GraphSketch
