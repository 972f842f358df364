-- What a failed reading leaves. The line where it fails divides the lines: those above it are read
-- without it as they are with it, and what they say is the document that comes with the failure.
import Docstring.Proofs.Google.Failure
import Docstring.Proofs.Numpy.Failure
import Docstring.Proofs.Rest.Failure

namespace Docstring

open Text

namespace Style

/-- The line at which the reading of some lines fails. -/
def stopLine (style : Style) (lines : List Line) : Nat :=
  match style with
  | .rest => Rest.stopLine lines
  | .google => Google.stopLine lines
  | .numpy => Numpy.stopLine lines
  | .plain => 0

/-- Line `i`, which stands above the lines `below`, is what the error is about. -/
def Blames (style : Style) (i : Nat) (below : List Line) (error : ParseError) : Prop :=
  match style with
  | .rest => Rest.Blames i below error
  | .google => Google.Blames i below error
  | .numpy => Numpy.Blames below error
  | .plain => False

/-- The reasons of errors about a line that no section or field can take. -/
def lineReasons : List Reason := [.unsupportedSection, .unknownSection, .trailingProse]

/-- A failed reading blames one line, and its document is what the lines above that one say when
they stand alone, up to the record of sections, provided that normalizing does not change them. -/
theorem a_failed_reading_leaves_the_lines_above {style : Style} {text : Text}
    {failure : ParseFailure} (hparse : style.parse text = .error failure)
    (hreason : failure.error.reason ∈ lineReasons) :
    let lines := normalLines text
    let i := style.stopLine lines
    style.Blames i (lines.drop i) failure.error ∧
      (normalLines (joinLines (lines.take i)) = dropBlankEnd (lines.take i) →
        ∃ d, style.parse (joinLines (lines.take i)) = .ok d ∧
          d.unrecorded = failure.document.unrecorded) := by
  have hentry : failure.error.reason ≠ .malformedEntry := by
    intro hmalformed
    rw [hmalformed] at hreason
    exact absurd hreason (by decide)
  have hreturns : failure.error.reason ≠ .multipleReturns := by
    intro hseveral
    rw [hseveral] at hreason
    exact absurd hreason (by decide)
  cases style with
  | rest =>
    rw [parse_rest] at hparse
    exact Rest.parse_take_stopLine hparse hentry
  | google =>
    rw [parse_google] at hparse
    obtain ⟨hblames, htake⟩ := Google.parse_take_stopLine hparse hentry
    exact ⟨hblames, fun hnormal => ⟨_, htake hnormal, rfl⟩⟩
  | numpy =>
    rw [parse_numpy] at hparse
    obtain ⟨hblames, htake⟩ := Numpy.parse_take_stopLine hparse hentry hreturns
    exact ⟨hblames, fun hnormal => ⟨_, htake hnormal, rfl⟩⟩
  | plain =>
    change Except.ok (Plain.parse text) = Except.error failure at hparse
    cases hparse

/-- The fields above a field that no document has a place for: they are read, those below are not. -/
theorem fields_above_an_unknown_one_are_read :
    let text := "Fit.\n\n:param a: first\n    and more\n\n:frob: no\n:param b: second".toList
    let above := "Fit.\n\n:param a: first\n    and more\n".toList
    let failure : ParseFailure :=
      { error := .unknownField "frob".toList
        document :=
          { summary := "Fit.".toList
            parameters := [{ name := "a".toList, description := some "first\nand more".toList }]
            metadata := { style := some .rest, sections := [⟨.params, 2, 4⟩] } } }
    rest.parse text = .error failure ∧ rest.stopLine (normalLines text) = 5 ∧
      joinLines ((normalLines text).take 5) = above ∧
      rest.Blames 5 [":frob: no".toList, ":param b: second".toList] failure.error ∧
      ∃ d, rest.parse above = .ok d ∧ d.unrecorded = failure.document.unrecorded := by
  intro text above failure
  have hparse : rest.parse text = .error failure := by decide +kernel
  have hstop : rest.stopLine (normalLines text) = 5 := by decide +kernel
  have hbelow : (normalLines text).drop 5 = [":frob: no".toList, ":param b: second".toList] := by
    decide +kernel
  have habove : joinLines ((normalLines text).take 5) = above := by decide +kernel
  have hnormal : normalLines above = dropBlankEnd ((normalLines text).take 5) := by decide +kernel
  have hleaves := a_failed_reading_leaves_the_lines_above hparse (by decide)
  simp only [hstop, hbelow, habove] at hleaves
  obtain ⟨hblames, hread⟩ := hleaves
  exact ⟨hparse, hstop, habove, hblames, hread hnormal⟩

end Style

end Docstring
