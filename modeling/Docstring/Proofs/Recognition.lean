-- The detector recognises what the printers write. Each style has lines that none of its signatures
-- can do without; where the texts of a document hold none of these, the written document holds only
-- those of the style it is written in.
import Docstring.Proofs.Conversion
import Docstring.Proofs.Google.Mark
import Docstring.Proofs.NormalForm
import Docstring.Proofs.Numpy.Mark
import Docstring.Proofs.Rest.Mark

namespace Docstring

open Text

namespace Detection

variable {style : Style} {d : Document} {blocks : List (List Line)} {width : Nat}

/-- Whole blocks under a head are detected as they stand. -/
theorem recognises_whole (hstyle : style ≠ .plain) (hd : d.Tidy)
    (hblocks : ∀ block ∈ blocks, IsBlock block)
    (hnative : ∀ block ∈ Layout.wholeHead d ++ blocks, ∀ line ∈ block, IsNative style line)
    (hmatched : 0 < countSignatures style (Layout.separate (Layout.wholeHead d ++ blocks)))
    (hrender : ∀ w, Layout.Fits (Layout.wholeHead d ++ blocks) w →
      style.render d w = Layout.assemble (Layout.wholeHead d ++ blocks))
    (hwidth : style.Unwrapped d width) :
    (ofText (style.render d width)).style = style ∧
      (ofText (style.render d width)).hasConflicts = false := by
  have hlines := Layout.normalLines_wholeHead_append hd hblocks
  rw [Style.render_of_unwrapped style hrender hwidth]
  refine recognises hstyle (hlines ▸ hmatched) fun other hother => ?_
  refine countSignatures_eq_zero (isNormal_normalLines _).clean fun line hline => ?_
  rw [hlines] at hline
  rcases Layout.mem_separate hline with rfl | ⟨block, hblock, hline⟩
  · exact isQuiet_nil.native style other hother
  · exact hnative block hblock line hline other hother

/-- A document of which no line of a text is a mark is found to be in the style that it is written
in, and in no other. -/
theorem a_written_document_is_recognised (hcarries : style.Carries d)
    (hstructured : d.IsStructured) (hquiet : d.IsQuiet) (hwidth : style.Unwrapped d width) :
    (ofText (style.render d width)).style = style ∧
      (ofText (style.render d width)).hasConflicts = false := by
  cases style with
  | rest =>
    have htidy : Rest.Tidy d := hcarries
    exact recognises_whole (by decide) htidy.document
      (fun _ => Rest.isBlock_of_mem_wholeBlocks htidy.all_items)
      (fun _ => Rest.isNative_whole htidy hquiet) (Rest.countSignatures_whole htidy hstructured)
      (fun _ => Rest.render_of_fits htidy) hwidth
  | google =>
    have htidy : Google.Tidy d := hcarries
    exact recognises_whole (by decide) htidy.document (fun _ => htidy.isBlock_of_mem_blocks)
      (fun _ => Google.isNative_whole htidy hquiet) (Google.countSignatures_whole htidy hstructured)
      (fun _ => Google.render_of_fits htidy) hwidth
  | numpy =>
    have htidy : Numpy.Tidy d := hcarries
    exact recognises_whole (by decide) htidy.document (fun _ => htidy.isBlock_of_mem_blocks)
      (fun _ => Numpy.isNative_whole htidy hquiet) (Numpy.countSignatures_whole hstructured)
      (fun _ => Numpy.render_of_fits htidy) hwidth
  | plain => exact hcarries.elim

/-- Texts that come close to the marks of every style, in a value of which nothing else is said. -/
theorem an_almost_marked_document_is_recognised :
    let d : Document :=
      { summary := "Args: none.".toList
        extended := some "Returns\n--\n\n  :param: x".toList
        parameters := [{ name := "Notes".toList, default := some ":".toList }]
        returns := some { type := some "Yields".toList, description := some ":returns x: y".toList }
        examples := ["Raises: x\n--- -\n    Examples :".toList] }
    let text := Style.numpy.render d 88
    Style.numpy.Carries d ∧ d.IsStructured ∧ d.IsQuiet ∧ Style.numpy.Unwrapped d 88 ∧
      (ofText text).style = .numpy ∧ (ofText text).hasConflicts = false := by
  intro d text
  have htidy : Numpy.Tidy d := by decide +kernel
  have hstructured : d.IsStructured := .inl (by decide)
  have hquiet : d.IsQuiet := by decide +kernel
  have hwidth : Style.numpy.Unwrapped d 88 :=
    Style.unwrapped_of_fits .numpy (fun _ => Numpy.render_of_fits htidy) (by decide +kernel)
  exact ⟨htidy, hstructured, hquiet, hwidth,
    a_written_document_is_recognised htidy hstructured hquiet hwidth⟩

end Detection

end Docstring
