-- Reading a docstring discards no prose silently, with one exception: where two parts of the
-- docstring are about the same thing and there is one place for it, the later part takes the place
-- of the earlier one.
import Docstring.Codec
import Docstring.Proofs.Google.Kept
import Docstring.Proofs.Numpy.Kept
import Docstring.Proofs.Rest.Kept

namespace Docstring

open Text

namespace Style

/-- Does a line of a section name what the section documents, so that it is read and not kept? -/
def IsHead (style : Style) (lines : List Line) (span : SectionSpan) (i : Nat) : Prop :=
  match style with
  | .rest => Rest.IsHead lines span i
  | .google => span.IsHead 1 (dedentBy Google.bodyIndent) lines i
  | .numpy => span.IsHead 2 id lines i
  | .plain => False

/-- Does a later section or field write the place of the text in a line of a section? -/
def IsOverwritten (style : Style) (lines : List Line) (sections : List SectionSpan)
    (span : SectionSpan) (i : Nat) : Prop :=
  match style with
  | .rest => Rest.IsOverwritten lines i
  | .google | .numpy => span.IsOverwritten sections
  | .plain => False

/-- Every line of ink in a section of a docstring that is read without a warning is a line of some
text in the document, if it names nothing and is not overwritten. -/
theorem prose_in_sections_is_kept {style : Style} {text : Text} {d : Document}
    (h : style.parse text = .ok d) (hw : d.metadata.warnings = []) :
    ∀ span ∈ d.metadata.sections, ∀ i, span.first ≤ i → i < span.last →
      ∀ line ∈ (normalLines text)[i]?, isBlank line = false →
        ¬style.IsHead (normalLines text) span i →
        ¬style.IsOverwritten (normalLines text) d.metadata.sections span i →
        ∃ t ∈ d.textFields, t.Says line := by
  intro span hspan i hfirst hlast line hline hink hhead hover
  cases style <;> simp only [parse, IsHead, IsOverwritten] at h hhead hover
  case rest =>
    obtain ⟨place, hplace⟩ := Rest.holdsAt_parse h hw hspan hfirst hlast hline hink hhead hover
    exact hplace.exists_textFields
  case google =>
    exact (Google.holdsAt_parse h hw hspan hlast hline hink hhead hover).exists_textFields
  case numpy =>
    exact (Numpy.holdsAt_parse h hw hspan hlast hline hink hhead hover).exists_textFields
  case plain =>
    cases h
    exact absurd hspan List.not_mem_nil

/-- A line below the head of an entry, and one below a marker line that another field follows. -/
theorem prose_below_heads_is_kept :
    let entries := "S.\n\nArgs:\n    x: One.\n        Two.".toList
    let d : Document :=
      { summary := "S.".toList
        parameters := [{ name := "x".toList, description := some "One.\nTwo.".toList }]
        metadata := { style := some .google, sections := [⟨.params, 2, 5⟩] } }
    let fields := "S.\n\n:returns: One.\n    Two.\n:rtype: int".toList
    let d' : Document :=
      { summary := "S.".toList
        returns := some { type := some "int".toList, description := some "One.\nTwo.".toList }
        metadata := { style := some .rest, sections := [⟨.returns, 2, 5⟩] } }
    (google.parse entries = .ok d ∧ ∃ t ∈ d.textFields, t.Says "        Two.".toList) ∧
      rest.parse fields = .ok d' ∧ ∃ t ∈ d'.textFields, t.Says "    Two.".toList := by
  intro entries d fields d'
  have hd : google.parse entries = .ok d := by decide +kernel
  have hd' : rest.parse fields = .ok d' := by decide +kernel
  refine ⟨⟨hd, ?_⟩, hd', ?_⟩
  · refine prose_in_sections_is_kept hd rfl ⟨.params, 2, 5⟩ (by decide) 4 (by decide) (by decide) _
      (by decide +kernel) (by decide) ?_ ?_
    · simp only [IsHead, SectionSpan.IsHead]
      decide +kernel
    · simp only [IsOverwritten, SectionSpan.IsOverwritten]
      decide
  · refine prose_in_sections_is_kept hd' rfl ⟨.returns, 2, 5⟩ (by decide) 3 (by decide)
      (by decide) _ (by decide +kernel) (by decide) ?_ ?_
    · simp only [IsHead, Rest.IsHead]
      decide +kernel
    · simp only [IsOverwritten, Rest.IsOverwritten]
      decide +kernel

/-- A line of ink in a section of a docstring that is read without a warning is in no text of the
document, although it names nothing. -/
def Loses (style : Style) (text : Text) (d : Document) (span : SectionSpan) (i : Nat)
    (line : Line) : Prop :=
  style.parse text = .ok d ∧ d.metadata.warnings = [] ∧ span ∈ d.metadata.sections ∧
    span.first ≤ i ∧ i < span.last ∧ (normalLines text)[i]? = some line ∧ isBlank line = false ∧
    ¬style.IsHead (normalLines text) span i ∧ ∀ t ∈ d.textFields, ¬t.Says line

/-- A second section or field on the returned value takes the place of the first one, with all of
its lines and without a warning. -/
theorem what_is_returned_twice_is_kept_once :
    Loses .google "S.\n\nReturns:\n    int: A.\n    Lost.\n\nReturns:\n    str: B.".toList
        { summary := "S.".toList
          returns := some { type := some "str".toList, description := some "B.".toList }
          metadata := { style := some .google, sections := [⟨.returns, 2, 5⟩, ⟨.returns, 6, 8⟩] } }
        ⟨.returns, 2, 5⟩ 4 "    Lost.".toList ∧
      Loses .numpy
        ("S.\n\nReturns\n-------\nint\n    Lost.\n\n" ++ "Returns\n-------\nstr\n    B.").toList
        { summary := "S.".toList
          returns := some { type := some "str".toList, description := some "B.".toList }
          metadata := { style := some .numpy, sections := [⟨.returns, 2, 6⟩, ⟨.returns, 7, 11⟩] } }
        ⟨.returns, 2, 6⟩ 5 "    Lost.".toList ∧
      Loses .rest "S.\n\n:returns: A.\n    Lost.\n:returns: B.".toList
        { summary := "S.".toList
          returns := some { description := some "B.".toList }
          metadata := { style := some .rest, sections := [⟨.returns, 2, 5⟩] } }
        ⟨.returns, 2, 5⟩ 3 "    Lost.".toList := by
  simp only [Loses, IsHead, SectionSpan.IsHead, Rest.IsHead]
  decide +kernel

end Style

end Docstring
