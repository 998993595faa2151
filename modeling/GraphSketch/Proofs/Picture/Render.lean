import GraphSketch.Picture.Render
import GraphSketch.Proofs.Document.Fits

/-!
# Documents that are rendered on the way

When code is written next to a document, it is the code of the document, which stays as it is,
unless its layout is unknown (`emit_eq_ok`).  The code is then that of the document without a
layout.  Only the layout of a document can be unknown, and only commands give it one.

* `Picture.sourceNames` — the fields from which a picture is made.  Documents that have the same
  values under these have the same picture (`Picture.ofDocument_congr`), and with the same layout
  the same code (`dot_congr`); so a warning in a document does not matter to its code.
* `dot_eq_ok` — the two parts of DOT code, its engine and its picture.
* `changed_emit`, `fits_emit` — a document with the warning is a document of the same diagram, and
  can be read back from a file as before.
-/

set_option autoImplicit false

namespace GraphSketch

/-- A computation that goes on with a result comes to its end exactly if both its parts do. -/
theorem bind_eq_ok_iff {α β ε : Type} {x : Except ε α} {f : α → Except ε β} {b : β} :
    (x >>= f) = .ok b ↔ ∃ a, x = .ok a ∧ f a = .ok b := by
  cases x <;> simp [bind, Except.bind]

/-- The fields from which a picture is made. -/
def Picture.sourceNames : List Text := ["title", "orientation", "nodes", "edges"]

theorem Picture.ofDocument_congr {document other : Document}
    (h : ∀ key ∈ sourceNames, other.get? key = document.get? key) :
    ofDocument other = ofDocument document := by
  have htitle := h "title" (by decide)
  have horientation := h "orientation" (by decide)
  have hnodes := h "nodes" (by decide)
  have hedges := h "edges" (by decide)
  simp only [ofDocument, Document.parts, htitle, horientation, hnodes, hedges]

namespace Document

variable {document after : Document} {format : Format} {code : Text}

theorem dot_eq_ok [Dot.Library] {layout : Option Text} (h : document.dot layout = .ok code) :
    ∃ engine picture, Picture.engine document layout = .ok engine ∧
      Picture.ofDocument document = .ok picture ∧ code = Dot.code picture engine := by
  obtain ⟨engine, hengine, hrest⟩ := bind_eq_ok_iff.mp h
  obtain ⟨picture, hpicture, hcode⟩ := bind_eq_ok_iff.mp hrest
  exact ⟨engine, picture, hengine, hpicture, (Except.ok.inj hcode).symm⟩

/-- A document whose picture can be made is rendered, if only its layout is known. -/
theorem render_of_picture {picture : Picture} (hpicture : Picture.ofDocument document = .ok picture)
    {fault : DocumentFault} (h : document.render format none = .error fault) :
    format = .dot ∧ Picture.engine document none = .error fault := by
  cases format with
  | mermaid =>
    rw [render, mermaid, hpicture] at h
    cases h
  | dot =>
    refine ⟨rfl, ?_⟩
    rw [render, dot, hpicture] at h
    cases hengine : Picture.engine document none with
    | error cause =>
      rw [hengine] at h
      exact h
    | ok engine =>
      rw [hengine] at h
      cases h

/-- DOT code without a layout depends on the fields of the picture only. -/
theorem dot_congr [Dot.Library] {other : Document}
    (hsame : ∀ key ∈ Picture.sourceNames, other.get? key = document.get? key)
    (hengine : Picture.engine other none = Picture.engine document none) :
    other.dot none = document.dot none := by
  rw [dot, dot, hengine, Picture.ofDocument_congr hsame]

/-- The warning that a layout is unknown. -/
def rejection (kind : Text) : Text := "layout_rejected: " ++ Layout.unknownMessage kind

/-- **What becomes of a document when code is written**: nothing, and the code is its own; or its
layout is unknown, of which it then tells, and the code is that of the document without it. -/
theorem emit_eq_ok (h : document.emit format = (.ok code, after)) :
    (document.render format none = .ok code ∧ after = document) ∨
      ∃ kind, format = .dot ∧ Picture.engine document none = .error (.unknownLayout kind) ∧
        after = document.addWarning (rejection kind) ∧
        Document.dot (OrderedMap.erase document "layout") none = .ok code := by
  unfold emit at h
  split at h
  · rename_i kind hrender
    split at h
    · obtain ⟨hdot, hafter⟩ := Prod.mk.inj h
      change Document.dot (OrderedMap.put (document.addWarning (rejection kind)) "layout" .null)
        none = _ at hdot
      -- neither the warning nor the layout is part of the picture
      have hne : ∀ key ∈ Picture.sourceNames,
          "layout".toList ≠ key ∧ "warnings".toList ≠ key := by decide
      have hsame : ∀ key ∈ Picture.sourceNames,
          OrderedMap.get? (OrderedMap.put (document.addWarning (rejection kind)) "layout" .null) key =
            document.get? key := by
        intro key hkey
        rw [OrderedMap.get?_put_of_ne _ _ (hne key hkey).1, get?_addWarning_of_ne (hne key hkey).2]
      have herased : ∀ key ∈ Picture.sourceNames,
          OrderedMap.get? (OrderedMap.erase document "layout") key = document.get? key := by
        intro key hkey
        rw [OrderedMap.get?_erase, if_neg (hne key hkey).1]
      obtain ⟨engine, picture, -, hpicture, -⟩ := dot_eq_ok hdot
      rw [Picture.ofDocument_congr hsame] at hpicture
      obtain ⟨hformat, hengine⟩ := render_of_picture hpicture hrender
      refine Or.inr ⟨kind, hformat, hengine, hafter.symm, ?_⟩
      rw [← hdot]
      refine dot_congr (fun key hkey => (herased key hkey).trans (hsame key hkey).symm) ?_
      rw [Picture.engine, Picture.engine, OrderedMap.get?_put_self, OrderedMap.get?_erase,
        if_pos rfl]
      rfl
    · cases h
  · obtain ⟨hrender, rfl⟩ := Prod.mk.inj h
    exact Or.inl ⟨hrender, rfl⟩

theorem emit_of_no_layout (hlayout : document.get? "layout" = none)
    (h : document.emit format = (.ok code, after)) : after = document := by
  rcases emit_eq_ok h with ⟨-, hsame⟩ | ⟨kind, -, hengine, -, -⟩
  · exact hsame
  · rw [Picture.engine, hlayout] at hengine
    cases hengine

theorem changed_emit (h : document.emit format = (.ok code, after)) : Changed document after := by
  rcases emit_eq_ok h with ⟨-, rfl⟩ | ⟨kind, -, -, rfl, -⟩
  · exact Changed.refl after
  · exact changed_addWarning document _

theorem fits_emit (hfits : document.Fits) (h : document.emit format = (.ok code, after)) :
    after.Fits := by
  rcases emit_eq_ok h with ⟨-, rfl⟩ | ⟨kind, -, -, rfl, -⟩
  · exact hfits
  · exact fits_addWarning hfits _

end Document

end GraphSketch
