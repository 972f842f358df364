-- Examples in field lists. Below their field they are indented, so whatever stands in one of them
-- is no field, and taking the indentation off gives it back.
import Docstring.Proofs.Document.Example
import Docstring.Proofs.Rest.Kept
import Docstring.Proofs.Rest.RoundTrip

namespace Docstring.Rest

open Text

/-! ## What is read -/

theorem suffix_of_cutAt? {p : Char → Bool} {t left right : Text}
    (h : cutAt? p t = some (left, right)) : right <:+ t := by
  induction t generalizing left with
  | nil => cases h
  | cons c t ih =>
    unfold cutAt? at h
    split at h
    · cases h
      exact List.suffix_cons _ _
    · obtain ⟨⟨_, _⟩, hrest, hpair⟩ := Option.map_eq_some_iff.mp h
      cases hpair
      exact (ih hrest).trans (List.suffix_cons c t)

theorem suffix_of_markerBody? {after body : Text} (h : markerBody? after = some body) :
    body <:+ after := by
  unfold markerBody? at h
  split at h
  · cases h
    exact List.suffix_refl []
  · split at h
    · cases h
      exact (List.dropWhile_suffix _).trans (List.suffix_cons _ _)
    · cases h

/-- The text beside a field stands in its line. -/
theorem suffix_of_field? {line : Line} {name text : Text} (h : field? line = some (name, text)) :
    text <:+ line := by
  unfold field? at h
  split at h
  · split at h
    · cases h
    · split at h
      · rename_i hcut
        obtain ⟨body, hbody, hpair⟩ := Option.map_eq_some_iff.mp h
        cases hpair
        exact ((suffix_of_markerBody? hbody).trans (suffix_of_cutAt? hcut)).trans
          (List.suffix_cons _ _)
      · cases h
  · cases h

/-- The text beside the field of an example is on one line. -/
theorem Field.At.newline_notMem_text {lines : List Line} {f : Field} (h : f.At lines)
    (hclean : ∀ line ∈ lines, IsClean line) (hexamples : f.marker = .block .examples) :
    '\n' ∉ f.text := by
  obtain ⟨line, hline, hmarker⟩ := Option.bind_eq_some_iff.mp h.marker
  have hfield := field?_of_examples hmarker (by rw [hexamples]; rfl)
  obtain ⟨⟨name, text⟩, hfound⟩ := Option.isSome_iff_exists.mp hfield
  have hsame : text = f.text := by
    simp only [classify, hfound, Option.some.injEq, Prod.mk.injEq] at hmarker
    exact hmarker.2
  rw [← hsame]
  intro hmem
  have hn := (hclean line (List.mem_of_getElem? hline)).newline
  exact hn ((suffix_of_field? hfound).subset hmem)

/-- The example that a field holds. -/
def Field.example? (f : Field) : Option Text :=
  if f.marker = .block .examples then description? f.text (dedentBy bodyIndent f.body) else none

theorem examples_addField {d d' : Document} {f : Field} (h : addField d f = .ok d') :
    d'.examples = d.examples ++ f.example?.toList := by
  unfold Field.example?
  cases hmarker : f.marker <;> simp only [addField, hmarker] at h
  case param kind argument =>
    obtain ⟨p, rfl, _⟩ := addParam_cases h
    simp
  case paramType raw =>
    cases h
    unfold setParamType
    simp only
    split <;> simp [Document.modifyParameter]
  case raises exception =>
    cases exception <;> simp only at h
    · split at h <;> cases h
      simp
    · cases h
      simp
  case block kind => cases kind <;> cases h <;> simp [Document.addExample]
  case unknownField | unknownDirective => cases h
  all_goals
    cases h
    simp

theorem examples_finish (p : Progress) : p.finish.examples = p.document.examples := by
  unfold Progress.finish
  split <;> rfl

theorem examples_add {p p' : Progress} {f : Field} (h : p.add f = .ok p') :
    p'.document.examples = p.document.examples ++ f.example?.toList := by
  obtain ⟨d, hadd, ⟨rfl, _⟩ | ⟨rfl, _⟩⟩ := add_cases h
  · exact examples_addField hadd
  · rw [examples_addField hadd, examples_finish]

/-- Examples are read so that they can be kept as they stand. -/
theorem isVerbatim_of_parse {text t : Text} {d : Document} (h : parse text = .ok d)
    (ht : t ∈ d.examples) : IsVerbatim (splitLines t) := by
  obtain ⟨n, p, hstop, hfold, rfl⟩ := parse_cases h
  have hall := foldlM_flatMap (fun p : Progress => p.document.examples)
    (fun _ _ _ hf => examples_add hf) hfold
  rw [examples_finish, hall] at ht
  obtain ⟨f, hf, ht⟩ := List.mem_flatMap.mp ht
  have hclean := (isNormal_normalLines text).clean
  have hat := (laid_outline hstop).stands f hf
  have hbody : ∀ line ∈ f.body, IsClean line :=
    fun line hl => hclean line (List.mem_of_mem_drop (hat.body.subset hl))
  unfold Field.example? at ht
  split at ht
  · rename_i hexamples
    exact isVerbatim_of_description? (hat.newline_notMem_text hclean hexamples)
      (fun _ => isClean_of_mem_dedentBy hbody) (Option.mem_toList.mp ht)
  · simp at ht

/-! ## What is written -/

section Written

variable {texts : List Text}

theorem listed_ofExamples : listed (.ofExamples texts) = [] := by
  simp [listed, fieldSections, items, Document.ofExamples]

theorem apart_ofExamples :
    apart (.ofExamples texts) = texts.map (.holding (blockName .examples)) := by
  simp [apart, blockSections, items, Document.ofExamples, Layout.freeTexts, Document.freeTexts]

theorem render_ofExamples (h : ∀ t ∈ texts, IsVerbatim (splitLines t)) (width : Nat) :
    render (.ofExamples texts) width = Layout.assemble (whole (.ofExamples texts)) := by
  have hfields : (fieldSections.flatMap fun kind =>
      sectionLines (.ofExamples texts) kind width) = [] := by
    simp [fieldSections, sectionLines, Document.ofExamples]
  have hothers : ((SectionKind.order.drop fieldSections.length).flatMap fun kind =>
      blocks (.ofExamples texts) kind width) =
        texts.map fun t => blockHeader .examples :: Layout.verbatim continuationIndent t := by
    simp [SectionKind.order, fieldSections, blocks, Document.ofExamples, Layout.freeTexts,
      Document.freeTexts]
  have hlines : (texts.map fun t => blockHeader .examples ::
      Layout.verbatim continuationIndent t) = (apart (.ofExamples texts)).map Item.lines := by
    rw [apart_ofExamples, List.map_map]
    refine List.map_congr_left fun t ht => ?_
    rw [Layout.verbatim_of_clean continuationIndent (h t ht).clean]
    rfl
  simp only [render, Layout.headBlocks_ofExamples, hfields, hothers, hlines, Layout.assemble,
    whole, wholeBlocks, listed_ofExamples, List.isEmpty_nil, if_true, List.nil_append]
  rw [List.append_assoc, Layout.separate_append, Layout.separate_append (Layout.wholeHead _)]
  rfl

/-- Examples that can be kept as they stand are read back from where they were written. -/
theorem examples_read_back (h : ∀ t ∈ texts, IsVerbatim (splitLines t)) (width : Nat) :
    ∃ d, parse (render (.ofExamples texts) width) = .ok d ∧ d.content = .ofExamples texts := by
  rw [render_ofExamples h]
  apply parse_of_reads Document.tidy_ofExamples
  · rw [Document.headLines_ofExamples]
    decide
  · rw [listed_ofExamples, apart_ofExamples, List.nil_append]
    intro i hi
    obtain ⟨t, ht, rfl⟩ := List.mem_map.mp hi
    exact Item.tidy_holding (by decide) (by decide) (h t ht)
  · rw [listed_ofExamples, apart_ofExamples, List.nil_append, List.map_map]
    refine Reader.reads_examples fun t ht c => reads_holding (by decide) (h t ht) ?_
    intro d f hmarker htext hd
    refine ⟨d.addExample (some t), ?_, ?_⟩
    · simp only [addField, hmarker, htext]
    · rw [← hd]
      rfl

end Written

end Docstring.Rest
