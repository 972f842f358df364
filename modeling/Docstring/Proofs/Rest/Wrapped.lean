-- Breaking the lines of a document the way a field list wraps them.
import Docstring.Rest.Printer
import Docstring.Proofs.Document.Wrapped

namespace Docstring.Rest

open Text Layout

def fieldBreaking (width : Nat) (lead : Text) : Breaking := .entry 0 lead width continuationIndent

/-- How a field list breaks texts. -/
def wrapping (width : Nat) : Wrapping where
  head := .prose width
  param p := fieldBreaking width (":param ".toList ++ p.display ++ [':'])
  param_congr hdisplay _ := by simp only [hdisplay]
  returns _ := fieldBreaking width ":returns:".toList
  yields _ := fieldBreaking width ":yields:".toList
  raise exception := fieldBreaking width (":raises ".toList ++ exception ++ [':'])
  free := .prose (width - continuationIndent)

section Broken

variable {width wider : Nat} (h : width ≤ wider)
include h

theorem fieldLines_broken (lead : Text) (description : Option Text) :
    fieldLines wider lead (description.map (fieldBreaking width lead).apply) =
      fieldLines width lead description := by
  rw [fieldLines, Breaking.getD_map]
  exact hanging_entry _ _ _ _ _ h

theorem returnLines_broken (name typeName : Text) (doc : ReturnDoc) :
    returnLines wider name typeName
        (doc.broken fun _ => fieldBreaking width (':' :: name ++ [':'])) =
      returnLines width name typeName doc := by
  simp only [returnLines, ReturnDoc.broken, fieldLines_broken h, Option.isSome_map]

/-- A section of a document with broken lines is written at every greater width as the section
was. -/
theorem sectionLines_broken (d : Document) {kind : SectionKind} (hkind : kind ∈ fieldSections) :
    sectionLines (d.broken (wrapping width)) kind wider = sectionLines d kind width := by
  have hparam : ∀ p : Parameter,
      paramLines wider (p.broken (wrapping width)) = paramLines width p := fun p =>
    congrArg (List.append · (p.type.toList.map (typeLine ("type ".toList ++ p.display))))
      (fieldLines_broken h (":param ".toList ++ p.display ++ [':']) p.description)
  have hraise : ∀ r : RaiseEntry,
      raiseLines wider (r.broken (wrapping width).raise) = raiseLines width r := fun r =>
    fieldLines_broken h (":raises ".toList ++ r.exception ++ [':']) r.description
  have hreturn : ∀ doc : ReturnDoc, returnLines wider "returns".toList "rtype".toList
      (doc.broken (wrapping width).returns) =
        returnLines width "returns".toList "rtype".toList doc := fun doc =>
    returnLines_broken h "returns".toList "rtype".toList doc
  have hyield : ∀ doc : ReturnDoc, returnLines wider "yields".toList "ytype".toList
      (doc.broken (wrapping width).yields) =
        returnLines width "yields".toList "ytype".toList doc := fun doc =>
    returnLines_broken h "yields".toList "ytype".toList doc
  simp only [fieldSections, List.mem_cons, List.not_mem_nil, or_false] at hkind
  rcases hkind with rfl | rfl | rfl | rfl
  · simp only [sectionLines, Document.broken, List.flatMap_map, hparam]
  · cases hr : d.returns with
    | none => simp only [sectionLines, Document.broken, hr]; rfl
    | some doc => simpa [sectionLines, Document.broken, hr] using hreturn doc
  · cases hy : d.yields with
    | none => simp only [sectionLines, Document.broken, hy]; rfl
    | some doc => simpa [sectionLines, Document.broken, hy] using hyield doc
  · simp only [sectionLines, Document.broken, List.flatMap_map, hraise]

theorem blocks_broken (d : Document) (kind : SectionKind) :
    blocks (d.broken (wrapping width)) kind wider = blocks d kind width := by
  have hprose : ∀ t, wrapProse (wider - continuationIndent) ((wrapping width).free.apply t) =
      wrapProse (width - continuationIndent) t := fun t => wrapProse_joinLines t (by omega)
  simp only [blocks, Document.freeTexts_broken, List.map_map, Function.comp_def, hprose]
  rfl

/-- A document with broken lines is written at every greater width as the document was. -/
theorem render_broken (d : Document) :
    render (d.broken (wrapping width)) wider = render d width := by
  have hlisted : (fieldSections.flatMap fun kind =>
      sectionLines (d.broken (wrapping width)) kind wider) =
      fieldSections.flatMap fun kind => sectionLines d kind width :=
    List.flatMap_congr fun kind hkind => sectionLines_broken h d hkind
  simp only [render, Document.headBlocks_broken (wrapping width) d rfl h, hlisted, blocks_broken h]

end Broken

end Docstring.Rest
