-- The sections that reading a docstring records tile its lines: from the first of them to the end
-- of the text, each line that is not blank is in one section and no other.
import Docstring.Codec
import Docstring.Proofs.Google.Kept
import Docstring.Proofs.Numpy.Kept
import Docstring.Proofs.Rest.Tiled

namespace Docstring

open Text

namespace Style

/-- The section that a style opens at the start of some lines. -/
def openedAt? : Style → List Line → Option SectionKind
  | .rest => Rest.openedAt?
  | .google => Google.openedAt?
  | .numpy => Numpy.openedAt?
  | .plain => fun _ => none

/-- Does a header stand at the start of some lines? Field lists have none. -/
def atHeader : Style → List Line → Bool
  | .google => Google.atHeader
  | .numpy => Numpy.atHeader
  | .rest | .plain => fun _ => false

/-- Spans that tile some lines as the sections of a style. -/
structure Tiles (style : Style) (lines : List Line) (spans : List SectionSpan) : Prop where
  nonempty : ∀ s ∈ spans, s.first < s.last
  inside : ∀ s ∈ spans, s.last ≤ lines.length
  apart : spans.Pairwise fun a b => a.last ≤ b.first
  opened : ∀ s ∈ spans, style.openedAt? (lines.drop s.first) = some s.kind
  ends : ∀ s ∈ spans, ∃ line ∈ lines[s.last - 1]?, isBlank line = false
  /-- From the first section on, a line that is not blank is in exactly one. -/
  covers : ∀ s ∈ spans, ∀ i, s.first ≤ i → ∀ line ∈ lines[i]?, isBlank line = false →
    ∃! t, t ∈ spans ∧ t.first ≤ i ∧ i < t.last
  headers : ∀ i, style.atHeader (lines.drop i) = true → ∃ s ∈ spans, s.first = i
  differ : style = .rest → spans.IsChain fun a b => a.kind ≠ b.kind

theorem tiles_of_tiled {style : Style} {lines : List Line} {lo : Nat} {spans : List SectionSpan}
    (h : Tiled style.openedAt? lines lo lines.length spans)
    (hheaders : ∀ i, style.atHeader (lines.drop i) = true → ∃ s ∈ spans, s.first = i)
    (hdiffer : style = .rest → spans.IsChain fun a b => a.kind ≠ b.kind) :
    style.Tiles lines spans where
  nonempty := h.nonempty
  inside := h.last
  apart := h.apart
  opened := h.opened
  ends := h.ends
  covers s hs i hi line hline hink := by
    have hlt := (List.getElem?_eq_some_iff.mp hline).1
    obtain ⟨t, ht, hti⟩ := h.covers i line ((h.first s hs).trans hi) hlt hline hink
    exact ⟨t, ⟨ht, hti⟩, fun x hx => h.eq_of_mem hx.1 ht hx.2 hti⟩
  headers := hheaders
  differ := hdiffer

/-- The recorded sections of a docstring that is read tile its lines: each one starts at a header
or marker of its kind and ends with ink, they are in order and do not overlap, and every line of
ink from the first one on is in exactly one. A header always starts a section of its own; in a field
list, fields of one kind that follow each other are one section. -/
theorem recorded_sections_tile_the_lines {style : Style} {text : Text} {d : Document}
    (h : style.parse text = .ok d) : style.Tiles (normalLines text) d.metadata.sections := by
  cases style <;> simp only [parse] at h
  case rest =>
    obtain ⟨⟨lo, htiled⟩, hdiffer⟩ := Rest.tiled_parse h
    exact tiles_of_tiled htiled (fun i hheader => Bool.noConfusion hheader) fun _ => hdiffer
  case google =>
    obtain ⟨lo, htiled⟩ := Google.tiled_parse h
    exact tiles_of_tiled htiled (fun i => Google.exists_section_of_header h)
      fun hrest => Style.noConfusion hrest
  case numpy =>
    obtain ⟨lo, htiled⟩ := Numpy.tiled_parse h
    exact tiles_of_tiled htiled (fun i => Numpy.exists_section_of_header h)
      fun hrest => Style.noConfusion hrest
  case plain =>
    cases h
    exact tiles_of_tiled (tiled_nil (isGap_self _ _)) (fun i hheader => Bool.noConfusion hheader)
      fun hrest => Style.noConfusion hrest

/-- An example that holds a blank line is one section, and two runs of parameter fields with a field
on the returned value between them are two. -/
theorem sections_with_blank_lines_and_runs_tile :
    let headed := "S.\n\nExamples:\n    a\n\n    b\n\n\nReturns:\n    int: A.".toList
    let fields := "S.\n\n:param x: v\n:type x: int\n\n:returns: A.\n:param y: w\n    w".toList
    let d : Document :=
      { summary := "S.".toList
        examples := ["a\n\nb".toList]
        returns := some { type := some "int".toList, description := some "A.".toList }
        metadata := { style := some .google, sections := [⟨.examples, 2, 6⟩, ⟨.returns, 8, 10⟩] } }
    let d' : Document :=
      { summary := "S.".toList
        parameters :=
          [{ name := ['x'], type := some "int".toList, description := some ['v'] },
            { name := ['y'], description := some "w\nw".toList }]
        returns := some { description := some "A.".toList }
        metadata :=
          { style := some .rest
            sections := [⟨.params, 2, 4⟩, ⟨.returns, 5, 6⟩, ⟨.params, 6, 8⟩] } }
    (google.parse headed = .ok d ∧ google.Tiles (normalLines headed) d.metadata.sections) ∧
      rest.parse fields = .ok d' ∧ rest.Tiles (normalLines fields) d'.metadata.sections := by
  intro headed fields d d'
  have hd : google.parse headed = .ok d := by decide +kernel
  have hd' : rest.parse fields = .ok d' := by decide +kernel
  exact ⟨⟨hd, recorded_sections_tile_the_lines hd⟩, hd', recorded_sections_tile_the_lines hd'⟩

end Style

end Docstring
