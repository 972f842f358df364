-- Breaking the lines of a document the way the Google style wraps them.
import Docstring.Google.Printer
import Docstring.Proofs.Document.Wrapped

namespace Docstring.Google

open Text Layout

def valueBreaking (width : Nat) (type : Option Text) : Breaking :=
  .entry bodyIndent ((type.map (· ++ [':'])).getD []) width bodyIndent

/-- How the Google style breaks texts. -/
def wrapping (width : Nat) : Wrapping where
  head := .prose width
  param p := .entry bodyIndent (paramLead p) width continuationIndent
  param_congr hdisplay htype := by simp only [paramLead, hdisplay, htype]
  returns := valueBreaking width
  yields := valueBreaking width
  raise exception := .entry bodyIndent (exception ++ [':']) width continuationIndent
  free := .prose (width - bodyIndent)

section Broken

variable {width wider : Nat} (h : width ≤ wider)
include h

theorem entryLines_broken (lead : Text) (description : Option Text) :
    entryLines wider lead (description.map
        (Breaking.entry bodyIndent lead width continuationIndent).apply) =
      entryLines width lead description := by
  rw [entryLines, Breaking.getD_map]
  exact hanging_entry _ _ _ _ _ h

theorem returnLines_broken (doc : ReturnDoc) :
    returnLines wider (doc.broken (valueBreaking width)) = returnLines width doc := by
  simp only [returnLines, ReturnDoc.broken, Breaking.getD_map, Breaking.blank]
  cases doc.type with
  | none =>
    have hentry := hanging_entry bodyIndent [] (doc.description.getD []) width bodyIndent h
    exact congrArg (fun lines => if isBlank (doc.description.getD []) then [] else lines) hentry
  | some type => exact hanging_entry _ _ _ _ _ h

/-- A section of a document with broken lines is written at every greater width as the section
was. -/
theorem sectionLines_broken (d : Document) (kind : SectionKind) :
    sectionLines (d.broken (wrapping width)) kind wider = sectionLines d kind width := by
  have hparam : ∀ p : Parameter, entryLines wider (paramLead (p.broken (wrapping width)))
      (p.broken (wrapping width)).description = entryLines width (paramLead p) p.description :=
    fun p => entryLines_broken h (paramLead p) p.description
  have hraise : ∀ r : RaiseEntry, entryLines wider (r.exception ++ [':'])
      (r.broken (wrapping width).raise).description =
        entryLines width (r.exception ++ [':']) r.description :=
    fun r => entryLines_broken h (r.exception ++ [':']) r.description
  have hfree : eachUnderHeader kind ((Layout.freeTexts (d.broken (wrapping width)) kind).map
      fun text => indent bodyIndent (wrapProse (wider - bodyIndent) text)) =
      eachUnderHeader kind ((Layout.freeTexts d kind).map
        fun text => indent bodyIndent (wrapProse (width - bodyIndent) text)) := by
    have hprose : ∀ t, wrapProse (wider - bodyIndent) ((wrapping width).free.apply t) =
        wrapProse (width - bodyIndent) t := fun t => wrapProse_joinLines t (by omega)
    rw [Document.freeTexts_broken, List.map_map]
    simp only [Function.comp_def, hprose]
  cases kind with
  | params => simp [sectionLines, Document.broken, Function.comp_def, hparam]
  | returns =>
    cases hr : d.returns <;>
      simp [sectionLines, Document.broken, hr, wrapping, returnLines_broken h]
  | yields =>
    cases hy : d.yields <;>
      simp [sectionLines, Document.broken, hy, wrapping, returnLines_broken h]
  | raises =>
    have hname : ∀ r : RaiseEntry, (r.broken (wrapping width).raise).exception = r.exception :=
      fun _ => rfl
    simp [sectionLines, Document.broken, Function.comp_def, hname, hraise]
  | examples => rfl
  | notes => exact hfree
  | warnings => exact hfree
  | seeAlso => exact hfree
  | references => exact hfree

/-- A document with broken lines is written at every greater width as the document was. -/
theorem render_broken (d : Document) :
    render (d.broken (wrapping width)) wider = render d width := by
  simp only [render, Document.headBlocks_broken (wrapping width) d rfl h, sectionLines_broken h]

end Broken

end Docstring.Google
