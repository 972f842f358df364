-- Breaking the lines of a document the way the NumPy style wraps them.
import Docstring.Numpy.Printer
import Docstring.Proofs.Document.Wrapped

namespace Docstring.Numpy

open Text Layout

def descriptionBreaking (width : Nat) : Breaking := .prose (width - descriptionIndent)

/-- How the NumPy style breaks texts. -/
def wrapping (width : Nat) : Wrapping where
  head := .prose width
  param _ := descriptionBreaking width
  param_congr _ _ := rfl
  returns _ := descriptionBreaking width
  yields _ := descriptionBreaking width
  raise _ := descriptionBreaking width
  free := .prose width

section Broken

variable {width wider : Nat} (h : width ≤ wider)
include h

theorem descriptionLines_broken (description : Option Text) :
    descriptionLines wider (description.map (descriptionBreaking width).apply) =
      descriptionLines width description := by
  have hwider : width - descriptionIndent ≤ wider - descriptionIndent := by omega
  have hprose : ∀ t, wrapProse (wider - descriptionIndent) ((descriptionBreaking width).apply t) =
      wrapProse (width - descriptionIndent) t := fun t => wrapProse_joinLines t hwider
  simp only [descriptionLines, Breaking.getD_map, Breaking.blank, hprose]

/-- A section of a document with broken lines is written at every greater width as the section
was. -/
theorem sectionLines_broken (d : Document) (kind : SectionKind) :
    sectionLines (d.broken (wrapping width)) kind wider = sectionLines d kind width := by
  have hparam : ∀ p : Parameter,
      paramLines wider (p.broken (wrapping width)) = paramLines width p := fun p =>
    congrArg (List.cons (paramHead p)) (descriptionLines_broken h p.description)
  have hvalue : ∀ doc : ReturnDoc,
      returnLines wider (doc.broken (wrapping width).returns) = returnLines width doc := fun doc =>
    congrArg (List.append doc.type.toList) (descriptionLines_broken h doc.description)
  have hraise : ∀ r : RaiseEntry,
      raiseLines wider (r.broken (wrapping width).raise) = raiseLines width r := fun r =>
    congrArg (List.cons r.exception) (descriptionLines_broken h r.description)
  have hfree : eachUnderHeader kind
      ((Layout.freeTexts (d.broken (wrapping width)) kind).map (wrapProse wider)) =
      eachUnderHeader kind ((Layout.freeTexts d kind).map (wrapProse width)) := by
    have hprose : ∀ t, wrapProse wider ((wrapping width).free.apply t) = wrapProse width t :=
      fun t => wrapProse_joinLines t h
    rw [Document.freeTexts_broken, List.map_map]
    simp only [Function.comp_def, hprose]
  cases kind with
  | params => simp [sectionLines, Document.broken, Function.comp_def, hparam]
  | returns => cases hr : d.returns <;> simp [sectionLines, Document.broken, hr, hvalue]
  | yields =>
    have hyield : (wrapping width).yields = (wrapping width).returns := rfl
    cases hy : d.yields <;> simp [sectionLines, Document.broken, hy, hyield, hvalue]
  | raises => simp [sectionLines, Document.broken, Function.comp_def, hraise]
  | examples => rfl
  | notes => exact hfree
  | warnings => exact hfree
  | seeAlso => exact hfree
  | references => exact hfree

/-- A document with broken lines is written at every greater width as the document was. -/
theorem render_broken (d : Document) :
    render (d.broken (wrapping width)) wider = render d width := by
  simp only [render, Document.headBlocks_broken (wrapping width) d rfl h, sectionLines_broken h]

end Broken

end Docstring.Numpy
