-- Examples are kept as they stand in every style and at every width. Where they are indented below
-- their header, nothing in them can be taken for anything else; in the NumPy style, which does not
-- indent them, an example must not hold a header.
import Docstring.Codec
import Docstring.Proofs.Google.Example
import Docstring.Proofs.Numpy.Example
import Docstring.Proofs.Rest.Example

namespace Docstring.Style

open Text

variable {source target style : Style} {text : Text} {d : Document} {texts : List Text}

/-- What every style makes sure of when it reads an example. -/
theorem example_of_parse (h : style.parse text = .ok d) {t : Text} (ht : t ∈ d.examples) :
    IsVerbatim (splitLines t) ∧ (style = .numpy → Numpy.HasNoHeader (splitLines t)) := by
  cases style with
  | rest =>
    rw [parse_rest] at h
    exact ⟨Rest.isVerbatim_of_parse h ht, nofun⟩
  | google =>
    rw [parse_google] at h
    exact ⟨Google.isVerbatim_of_parse h ht, nofun⟩
  | numpy =>
    rw [parse_numpy] at h
    obtain ⟨hverbatim, hheaderless⟩ := Numpy.example_of_parse h ht
    exact ⟨hverbatim, fun _ => hheaderless⟩
  | plain =>
    cases h
    exact absurd ht List.not_mem_nil

/-- What every style needs of examples in order to give them back. -/
theorem examples_read_back (htarget : target ≠ .plain)
    (h : ∀ t ∈ texts, IsVerbatim (splitLines t))
    (hheaderless : target = .numpy → ∀ t ∈ texts, Numpy.HasNoHeader (splitLines t))
    (width : Nat) :
    ∃ e, target.parse (target.render (.ofExamples texts) width) = .ok e ∧
      e.content = .ofExamples texts := by
  cases target with
  | rest => exact Rest.examples_read_back h width
  | google => exact Google.examples_read_back h width
  | numpy => exact Numpy.examples_read_back h (hheaderless rfl) width
  | plain => exact absurd rfl htarget

/-- The examples of a docstring survive a change of style, unless one of them holds a header and the
new style is that of NumPy. None that comes from there does. -/
theorem examples_survive_without_headers (h : source.parse text = .ok d) (htarget : target ≠ .plain)
    (width : Nat) :
    ((∃ e, target.parse (target.render (.ofExamples d.examples) width) = .ok e ∧
        e.examples = d.examples) ↔
      (target = .numpy → ∀ t ∈ d.examples, Numpy.HasNoHeader (splitLines t))) ∧
      (source = .numpy → ∀ t ∈ d.examples, Numpy.HasNoHeader (splitLines t)) := by
  refine ⟨⟨?_, ?_⟩, fun hsource t ht => (example_of_parse h ht).2 hsource⟩
  · rintro ⟨e, hparse, hsame⟩ hnumpy t ht
    rw [← hsame] at ht
    exact (example_of_parse hparse ht).2 hnumpy
  · intro hheaderless
    have hverbatim : ∀ t ∈ d.examples, IsVerbatim (splitLines t) :=
      fun t ht => (example_of_parse h ht).1
    obtain ⟨e, hparse, hcontent⟩ := examples_read_back htarget hverbatim hheaderless width
    have hsame : e.content.examples = d.examples := by rw [hcontent]; rfl
    exact ⟨e, hparse, hsame⟩

/-- An example that looks like sections of all styles, written as a field at no width at all, and an
indented one, written below a NumPy header. -/
theorem sections_in_examples_survive :
    let sections := "S.\n\nExamples:\n    Notes\n    -----\n\n    :returns: x\n    Args:".toList
    let d : Document :=
      { summary := "S.".toList
        examples := ["Notes\n-----\n\n:returns: x\nArgs:".toList]
        metadata := { style := some .google, sections := [⟨.examples, 2, 8⟩] } }
    let indented := "S.\n\n:Examples:\n        x\n    y\n:Examples:\n    Notes:\n    ---".toList
    let d' : Document :=
      { summary := "S.".toList
        examples := ["    x\ny".toList, "Notes:\n---".toList]
        metadata := { style := some .rest, sections := [⟨.examples, 2, 8⟩] } }
    (google.parse sections = .ok d ∧
      ∃ e, rest.parse (rest.render (.ofExamples d.examples) 0) = .ok e ∧
        e.examples = d.examples) ∧
      rest.parse indented = .ok d' ∧
        ∃ e, numpy.parse (numpy.render (.ofExamples d'.examples) 88) = .ok e ∧
          e.examples = d'.examples := by
  intro sections d indented d'
  have hd : google.parse sections = .ok d := by decide +kernel
  have hd' : rest.parse indented = .ok d' := by decide +kernel
  refine ⟨⟨hd, ?_⟩, hd', ?_⟩
  · exact (examples_survive_without_headers hd (by decide) 0).1.mpr nofun
  · exact (examples_survive_without_headers hd' (by decide) 88).1.mpr fun _ => by decide +kernel

/-- A header in an example ends the example in the NumPy style. What stands below it is read as a
section, or not at all where documents have no such section. -/
theorem headers_in_examples_do_not_survive :
    let known := "S.\n\nExamples:\n    Notes\n    -----\n    x".toList
    let d : Document :=
      { summary := "S.".toList
        examples := ["Notes\n-----\nx".toList]
        metadata := { style := some .google, sections := [⟨.examples, 2, 6⟩] } }
    let unknown := "S.\n\nExamples:\n    Methods\n    -------\n    x".toList
    let d' : Document :=
      { summary := "S.".toList
        examples := ["Methods\n-------\nx".toList]
        metadata := { style := some .google, sections := [⟨.examples, 2, 6⟩] } }
    (google.parse known = .ok d ∧
      ¬∃ e, numpy.parse (numpy.render (.ofExamples d.examples) 88) = .ok e ∧
        e.examples = d.examples) ∧
      google.parse unknown = .ok d' ∧
        ¬∃ e, numpy.parse (numpy.render (.ofExamples d'.examples) 88) = .ok e ∧
          e.examples = d'.examples := by
  intro known d unknown d'
  have hd : google.parse known = .ok d := by decide +kernel
  have hd' : google.parse unknown = .ok d' := by decide +kernel
  have hread : numpy.parse (numpy.render (.ofExamples d.examples) 88) =
      .ok
        { summary := "S.".toList
          notes := ["x".toList]
          metadata :=
            { style := some .numpy, sections := [⟨.examples, 2, 4⟩, ⟨.notes, 4, 7⟩] } } := by
    decide +kernel
  have hfailed : numpy.parse (numpy.render (.ofExamples d'.examples) 88) =
      .error ⟨.unsupportedSection "Methods".toList,
        { summary := "S.".toList
          metadata := { style := some .numpy, sections := [⟨.examples, 2, 4⟩] } }⟩ := by
    decide +kernel
  refine ⟨⟨hd, ?_⟩, hd', ?_⟩
  · rintro ⟨e, hparse, hsame⟩
    rw [hread] at hparse
    cases hparse
    exact absurd hsame (by decide)
  · rintro ⟨e, hparse, _⟩
    rw [hfailed] at hparse
    cases hparse

end Docstring.Style
