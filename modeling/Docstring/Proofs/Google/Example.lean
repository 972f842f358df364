-- Examples in Google-style docstrings. Below their header they are indented, so whatever stands in
-- one of them is no header, and taking the indentation off gives it back.
import Docstring.Proofs.Document.Example
import Docstring.Proofs.Google.Kept
import Docstring.Proofs.Google.RoundTrip

namespace Docstring.Google

open Text

/-! ## What is read -/

/-- The example that a section holds. -/
def Block.example? (b : Block) : Option Text :=
  if b.kind = .examples then joinProse? (dedentBy bodyIndent b.body) else none

theorem examples_addEntries {add : Document → Entry → ParseResult} {d d' : Document}
    {body : List Line} (hadd : ∀ d e d', add d e = .ok d' → d'.examples = d.examples)
    (h : addEntries add d body = .ok d') : d'.examples = d.examples := by
  obtain ⟨found, _, hfold⟩ := addEntries_cases h
  exact foldlM_unchanged Document.examples hadd hfold

theorem examples_addBlock {d d' : Document} {b : Block} (h : addBlock d b = .ok d') :
    d'.examples = d.examples ++ b.example?.toList := by
  unfold addBlock at h
  unfold Block.example?
  cases hkind : b.kind <;> simp only [hkind] at h
  case params =>
    refine (examples_addEntries (fun d e d' he => ?_) h).trans (by simp)
    obtain ⟨p, _, rfl, _⟩ := addParam_cases he
    exact d.examples_addParameter p
  case raises =>
    refine (examples_addEntries (fun d e d' he => ?_) h).trans (by simp)
    obtain ⟨_, _, rfl⟩ := addRaise_cases he
    rfl
  all_goals
    cases h
    simp [Document.addExample]

/-- Examples are read so that they can be kept as they stand. -/
theorem isVerbatim_of_parse {text t : Text} {d : Document} (h : parse text = .ok d)
    (ht : t ∈ d.examples) : IsVerbatim (splitLines t) := by
  obtain ⟨n, blocks, hfold, hdivides⟩ := exists_divides h
  have hall := foldlM_flatMap Document.examples (fun _ _ _ hb => examples_addBlock hb) hfold
  rw [hall] at ht
  obtain ⟨b, hb, ht⟩ := List.mem_flatMap.mp ht
  have hclean : ∀ line ∈ b.body, IsClean line := by
    intro line hl
    apply (isNormal_normalLines text).clean
    exact List.mem_of_mem_drop ((hdivides.stands _ (List.mem_map_of_mem hb)).subset hl)
  unfold Block.example? at ht
  split at ht
  · exact (isVerbatim_of_joinProse? (fun _ => isClean_of_mem_dedentBy hclean)
      (Option.mem_toList.mp ht)).1
  · simp at ht

/-! ## What is written -/

section Written

variable {texts : List Text}

theorem render_ofExamples (h : ∀ t ∈ texts, IsVerbatim (splitLines t)) (width : Nat) :
    render (.ofExamples texts) width = sectioning.text (.ofExamples texts) := by
  rw [render, Layout.headBlocks_ofExamples]
  refine Sectioning.assemble_eq_text fun kind => ?_
  cases kind with
  | examples =>
    apply eachUnderHeader_eq
    exact fun t ht => Layout.verbatim_of_clean bodyIndent (h t ht).clean
  | _ => rfl

/-- Examples that can be kept as they stand are read back from where they were written. -/
theorem examples_read_back (h : ∀ t ∈ texts, IsVerbatim (splitLines t)) (width : Nat) :
    ∃ d, parse (render (.ofExamples texts) width) = .ok d ∧ d.content = .ofExamples texts := by
  rw [render_ofExamples h]
  apply parse_of_reads Document.tidy_ofExamples
  · rw [Document.headLines_ofExamples]
    decide
  · rw [Sectioning.sections_ofExamples]
    intro s hs
    obtain ⟨t, ht, rfl⟩ := List.mem_map.mp hs
    exact ⟨(h t ht).ends, (h t ht).clean⟩
  · rw [Sectioning.sections_ofExamples, List.map_map]
    refine Reader.reads_examples fun t ht c => reads_body (h t ht).clean ?_
    rintro d ⟨kind, keywordOnly, first, body⟩ rfl hbody hd
    refine ⟨_, rfl, ?_⟩
    rw [← hd]
    simp [Document.content, Document.recordSection, Document.addExample, hbody,
      (h t ht).joinProse?_splitLines]

end Written

end Docstring.Google
