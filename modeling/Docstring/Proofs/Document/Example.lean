-- Documents that have examples and nothing else to say, and what every style needs of an example in
-- order to write it as it stands.
import Docstring.Proofs.Document.Sectioned
import Docstring.Proofs.Text.Verbatim

namespace Docstring

open Text

/-- A document of some examples below a summary that no style takes for anything else. -/
def Document.ofExamples (texts : List Text) : Document where
  summary := "S.".toList
  examples := texts

variable {texts : List Text}

theorem Document.tidy_ofExamples : (ofExamples texts).headOnly.Tidy := by
  change (ofExamples []).Tidy
  decide

theorem Document.headLines_ofExamples : (ofExamples texts).headLines = ["S.".toList] := rfl

/-- The summary is too short to be wrapped. -/
theorem Layout.headBlocks_ofExamples (width : Nat) :
    headBlocks (.ofExamples texts) width = wholeHead (.ofExamples texts) := by
  have hshort : "S.".toList.length ≤ max width minWrapWidth :=
    le_trans (by decide) (le_max_right width minWrapWidth)
  have hwrap : wrapLine "S.".toList width width = ["S.".toList] := by
    rw [wrapLine, if_pos hshort]
  have hprose : wrapProse width "S.".toList = ["S.".toList] := by
    change wrapProseLine width "S.".toList ++ [] = _
    rw [List.append_nil]
    exact hwrap
  change [wrapProse width "S.".toList] ++ [] = [["S.".toList]]
  rw [hprose]
  rfl

theorem Sectioning.sections_ofExamples (style : Sectioning) :
    style.sections (.ofExamples texts) = texts.map fun t => (.examples, splitLines t) := by
  simp [sections, SectionKind.order, bodies, Document.ofExamples, Layout.freeTexts,
    Document.freeTexts]

/-- Sections that add an example each add up to the examples. -/
theorem Reader.reads_examples {State Item Shape Error : Type} {r : Reader State Item Shape Error}
    {shape : Text → Shape} (h : ∀ t ∈ texts, ∀ c,
      r.Reads [shape t] c { c with examples := c.examples ++ [t] }) :
    r.Reads (texts.map shape) (Document.ofExamples texts).headOnly (.ofExamples texts) := by
  have hreads := reads_map h (Document.ofExamples texts).headOnly
  rwa [foldl_examples] at hreads

end Docstring
