-- Examples in NumPy-style docstrings. They stand below their header as they are, so a title with
-- its underline in an example ends it. Every example that is read is free of headers, and those
-- that are free of headers are read back.
import Docstring.Proofs.Document.Example
import Docstring.Proofs.Numpy.Kept
import Docstring.Proofs.Numpy.RoundTrip

namespace Docstring.Numpy

open Text

/-! ## What is read -/

/-- No section has a header inside. -/
theorem hasNoHeader_of_divides {lines : List Line} {n : Nat} {sections : List HeadedSection}
    {s : HeadedSection} (h : headers.Divides lines n sections) (hs : s ∈ sections) :
    HasNoHeader s.body := by
  refine List.isChain_iff_getElem.mpr fun i hi => ?_
  obtain ⟨rest, hrest⟩ : s.body <+: lines.drop (s.first + 2) := h.stands s hs
  have hat : atHeader (lines.drop (s.first + 2 + i)) = false := by
    have hsize : headers.size = 2 := rfl
    exact h.atHeader_eq_false hs (by omega) (by omega)
  have hdrop : s.body.drop i = s.body[i] :: s.body[i + 1] :: s.body.drop (i + 1 + 1) := by
    rw [List.drop_eq_getElem_cons (by omega), List.drop_eq_getElem_cons hi]
  rw [← List.drop_drop, ← hrest, List.drop_append_of_le_length (by omega), hdrop] at hat
  have hnone : (header? s.body[i] s.body[i + 1]).isSome = false := hat
  simpa using hnone

/-- The example that a section holds. -/
def Block.example? (b : Block) : Option Text :=
  if b.kind = .examples then joinProse? (trimBlankLines b.body) else none

theorem examples_addParams {d d' : Document} {e : Entry} (h : addParams d e = .ok d') :
    d'.examples = d.examples := by
  obtain ⟨head, type, default, names, _, hfold⟩ := addParams_cases h
  refine foldlM_unchanged Document.examples (fun s raw s' hs => ?_) hfold
  obtain ⟨p, rfl, _⟩ := addParam_cases hs
  exact s.examples_addParameter p

theorem examples_addRaise {d d' : Document} {e : Entry} (h : addRaise d e = .ok d') :
    d'.examples = d.examples := by
  obtain ⟨_, rfl⟩ := addRaise_cases h
  rfl

theorem examples_addReturn {kind : SectionKind} {d d' : Document} {body : List Line}
    (h : addReturn kind d body = .ok d') : d'.examples = d.examples := by
  obtain ⟨doc, ws, rfl, _⟩ := addReturn_cases h
  unfold setReturn
  split <;> rfl

theorem examples_addBlock {d d' : Document} {b : Block} (h : addBlock d b = .ok d') :
    d'.examples = d.examples ++ b.example?.toList := by
  unfold addBlock at h
  unfold Block.example?
  cases hkind : b.kind <;> simp only [hkind] at h
  case params =>
    simpa using foldlM_unchanged Document.examples (fun _ _ _ he => examples_addParams he) h
  case raises =>
    simpa using foldlM_unchanged Document.examples (fun _ _ _ he => examples_addRaise he) h
  case returns | yields =>
    rw [examples_addReturn h]
    simp
  all_goals
    cases h
    simp [Document.addExample]

/-- Examples are read so that they can be kept as they stand, and they have no header. -/
theorem example_of_parse {text t : Text} {d : Document} (h : parse text = .ok d)
    (ht : t ∈ d.examples) : IsVerbatim (splitLines t) ∧ HasNoHeader (splitLines t) := by
  obtain ⟨n, blocks, hfold, hdivides⟩ := exists_divides h
  have hall := foldlM_flatMap Document.examples (fun _ _ _ hb => examples_addBlock hb) hfold
  rw [hall] at ht
  obtain ⟨b, hb, ht⟩ := List.mem_flatMap.mp ht
  have hclean : ∀ line ∈ trimBlankLines b.body, IsClean line := by
    intro line hl
    apply (isNormal_normalLines text).clean
    apply List.mem_of_mem_drop
    have hstands : StandsAt _ (b.first + 2) b.body := hdivides.stands _ (List.mem_map_of_mem hb)
    exact hstands.subset ((isInfix_trimBlankLines b.body).subset hl)
  have hheaderless : HasNoHeader b.body := hasNoHeader_of_divides hdivides (List.mem_map_of_mem hb)
  unfold Block.example? at ht
  split at ht
  · obtain ⟨hverbatim, hinside⟩ := isVerbatim_of_joinProse? hclean (Option.mem_toList.mp ht)
    exact ⟨hverbatim, hheaderless.infix (hinside.trans (isInfix_trimBlankLines b.body))⟩
  · simp at ht

/-! ## What is written -/

section Written

variable {texts : List Text}

theorem render_ofExamples (h : ∀ t ∈ texts, IsVerbatim (splitLines t)) (width : Nat) :
    render (.ofExamples texts) width = sectioning.text (.ofExamples texts) := by
  rw [render, Layout.headBlocks_ofExamples]
  refine Sectioning.assemble_eq_text fun kind => ?_
  cases kind with
  | examples =>
    apply eachUnderHeader_eq
    intro t ht
    rw [Layout.verbatim_of_clean 0 (h t ht).clean, indent_zero]
  | _ => rfl

/-- Examples without headers are read back from where they were written. -/
theorem examples_read_back (h : ∀ t ∈ texts, IsVerbatim (splitLines t))
    (hheaderless : ∀ t ∈ texts, HasNoHeader (splitLines t)) (width : Nat) :
    ∃ d, parse (render (.ofExamples texts) width) = .ok d ∧ d.content = .ofExamples texts := by
  rw [render_ofExamples h]
  apply parse_of_reads Document.tidy_ofExamples
  · exact List.isChain_singleton _
  · simp [Document.ofExamples]
  · rw [Sectioning.sections_ofExamples]
    intro s hs
    obtain ⟨t, ht, rfl⟩ := List.mem_map.mp hs
    exact ⟨(h t ht).ends, (h t ht).clean, (h t ht).trimBlankLines, hheaderless t ht⟩
  · rw [Sectioning.sections_ofExamples]
    refine Reader.reads_examples fun t ht c => reads_body ?_
    rintro d ⟨kind, first, body⟩ rfl hbody hd
    refine ⟨_, rfl, ?_⟩
    rw [← hd]
    simp [Document.content, Document.recordSection, Document.addExample, hbody,
      (h t ht).joinProse?_splitLines]

end Written

end Docstring.Numpy
