-- The sections of a field list are runs: fields of one kind that follow each other make up one
-- section, which goes from the first of them to the last. The runs tile the field list, and two
-- that follow each other are of different kinds.
import Docstring.Proofs.Document.Tiled
import Docstring.Proofs.Rest.Kept
import Mathlib.Data.List.Chain

namespace Docstring.Rest

open Text

/-- The section that a marker at the start of some lines opens. -/
def openedAt? (lines : List Line) : Option SectionKind :=
  (lines.head?.bind classify).bind fun found => found.1.sectionKind?

/-! ## Fields -/

theorem Laid.nil_isGap {lines : List Line} {lo : Nat} (h : Laid lines lo []) :
    IsGap lines lo lines.length := by
  intro i line hle _ hline
  by_contra hink
  obtain ⟨f, hf, _⟩ := h.covers i line hle hline (Bool.eq_false_iff.mpr hink)
  cases hf

/-- Above the first field are only blank lines. -/
theorem Laid.head_isGap {lines : List Line} {lo : Nat} {f : Field} {fields : List Field}
    (h : Laid lines lo (f :: fields)) : IsGap lines lo f.first := by
  intro i line hle hlt hline
  by_contra hink
  obtain ⟨g, hg, hfirst, _⟩ := h.covers i line hle hline (Bool.eq_false_iff.mpr hink)
  rcases List.mem_cons.mp hg with rfl | hg
  · omega
  · have hbelow := (List.pairwise_cons.mp h.sorted).1 g hg
    have hf := f.first_lt_last
    omega

theorem Laid.tail {lines : List Line} {lo : Nat} {f : Field} {fields : List Field}
    (h : Laid lines lo (f :: fields)) : Laid lines f.last fields := by
  obtain ⟨hbelow, hsorted⟩ := List.pairwise_cons.mp h.sorted
  refine ⟨fun g hg => h.stands g (List.mem_cons_of_mem f hg), hbelow, hsorted, ?_⟩
  intro i line hle hline hink
  have hlo := h.first f List.mem_cons_self
  have hf := f.first_lt_last
  obtain ⟨g, hg, hi⟩ := h.covers i line (by omega) hline hink
  rcases List.mem_cons.mp hg with rfl | hg
  · omega
  · exact ⟨g, hg, hi⟩

/-- A field without blank lines at its end is a section of its own. -/
theorem Field.At.tiled {lines : List Line} {f : Field} {kind : SectionKind} (h : f.At lines)
    (hends : EndsInk f.body) (hkind : f.marker.sectionKind? = some kind) :
    Tiled openedAt? lines f.first f.last [⟨kind, f.first, f.last⟩] := by
  obtain ⟨line, hline, hmarker⟩ := Option.bind_eq_some_iff.mp h.marker
  have hopened : openedAt? (lines.drop f.first) = some kind := by
    rw [openedAt?, List.head?_drop, h.marker]
    exact hkind
  have hink : isBlank line = false := by
    by_contra hblank
    rw [Bool.not_eq_false] at hblank
    rw [classify_of_isBlank hblank] at hmarker
    cases hmarker
  have htiled := tiled_section hopened Nat.one_pos ⟨line, hline, hink⟩ h.body
  rwa [dropBlankEnd_of_endsInk hends] at htiled

theorem endsInk_of_mem_outline {n : Nat} {lines : List Line} {f : Field}
    (h : f ∈ (outline n lines).1) : EndsInk f.body := by
  obtain ⟨g, _, rfl⟩ := List.mem_map.mp h
  exact endsInk_dropBlankEnd g.body

/-! ## Runs -/

/-- The sections that are recorded once the open run is closed. -/
def Progress.sections (p : Progress) : List SectionSpan :=
  p.document.metadata.sections ++ p.group.toList

theorem sections_finish (p : Progress) : p.finish.metadata.sections = p.sections := by
  unfold Progress.finish Progress.sections
  cases p.group with
  | none => simp
  | some span => rfl

/-- A field goes on with the open run or, if it is of another kind, makes up a new one. -/
theorem sections_add {p p' : Progress} {f : Field} (h : p.add f = .ok p') :
    ∃ kind, f.marker.sectionKind? = some kind ∧
      ((∃ group, p.group = some group ∧ group.kind = kind ∧
          p'.document.metadata.sections = p.document.metadata.sections ∧
          p'.group = some { group with last := f.last }) ∨
        (∀ group ∈ p.group, group.kind ≠ kind) ∧
          p'.document.metadata.sections = p.sections ∧
          p'.group = some ⟨kind, f.first, f.last⟩) := by
  unfold Progress.add at h
  simp only at h
  split at h
  · rename_i d hadd
    cases h
    obtain ⟨kind, hkind⟩ := exists_sectionKind? hadd
    refine ⟨kind, hkind, ?_⟩
    have hsections := (keeps_addField hadd).2
    simp only [Progress.enter, hkind] at hsections ⊢
    split at hsections
    · rename_i hsame
      rw [if_pos hsame]
      cases hgroup : p.group with
      | none => simp [hgroup] at hsame
      | some group => exact .inl ⟨group, rfl, by simpa [hgroup] using hsame, hsections, rfl⟩
    · rename_i hother
      rw [if_neg hother]
      refine .inr ⟨?_, hsections.trans (sections_finish p), rfl⟩
      intro group hgroup hsame
      exact hother (by simp [Option.mem_def.mp hgroup, hsame])
  · cases h

/-- The runs tile the lines from `lo` up to `hi`, where the open one ends, and two that follow each
other are of different kinds. -/
structure Runs (lines : List Line) (lo hi : Nat) (p : Progress) : Prop where
  le : lo ≤ hi
  tiled : Tiled openedAt? lines lo hi p.sections
  differ : p.sections.IsChain fun a b => a.kind ≠ b.kind
  start : p.group = none → p.document.metadata.sections = []

/-- A field below the open run, with blank lines between them. -/
theorem Runs.add {lines : List Line} {lo hi : Nat} {p p' : Progress} {f : Field}
    (hp : Runs lines lo hi p) (h : p.add f = .ok p') (hat : f.At lines) (hends : EndsInk f.body)
    (hgap : IsGap lines hi f.first) (hle : hi ≤ f.first) : Runs lines lo f.last p' := by
  have hlast := f.first_lt_last
  have hlo := hp.le
  obtain ⟨kind, hkind, hsame | hother⟩ := sections_add h
  · obtain ⟨group, hgroup, rfl, hsections, hgroup'⟩ := hsame
    have hold : p.sections = p.document.metadata.sections ++ [group] := by
      rw [Progress.sections, hgroup, Option.toList_some]
    have hnew : p'.sections =
        p.document.metadata.sections ++ [{ group with last := f.last }] := by
      rw [Progress.sections, hsections, hgroup', Option.toList_some]
    have htiled := hp.tiled
    have hdiffer := hp.differ
    rw [hold] at htiled hdiffer
    refine ⟨by omega, ?_, ?_, by simp [hgroup']⟩
    · rw [hnew]
      exact htiled.join ((hat.tiled hends hkind).below_gap hgap hle hlast.le)
    · rw [hnew]
      rw [List.isChain_append] at hdiffer ⊢
      exact ⟨hdiffer.1, .singleton _, by simpa using hdiffer.2.2⟩
  · obtain ⟨hdiffer, hsections, hgroup'⟩ := hother
    have hnew : p'.sections = p.sections ++ [⟨kind, f.first, f.last⟩] := by
      rw [Progress.sections, hsections, hgroup', Option.toList_some]
    refine ⟨by omega, ?_, ?_, by simp [hgroup']⟩
    · rw [hnew]
      exact hp.tiled.append ((hat.tiled hends hkind).below_gap hgap hle hlast.le) hp.le (by omega)
    · rw [hnew, List.isChain_append]
      refine ⟨hp.differ, .singleton _, ?_⟩
      intro x hx y hy
      rw [List.head?_singleton, Option.mem_some_iff] at hy
      rw [← hy]
      cases hgroup : p.group with
      | none => simp [Progress.sections, hgroup, hp.start hgroup] at hx
      | some group =>
        rw [Progress.sections, hgroup, Option.toList_some, List.getLast?_concat,
          Option.mem_some_iff] at hx
        rw [← hx]
        exact hdiffer group hgroup

/-- All fields of a field list, to the end of the text. -/
theorem Runs.foldlM {lines : List Line} {lo hi : Nat} {fields : List Field} {p p' : Progress}
    (hp : Runs lines lo hi p) (h : fields.foldlM Progress.add p = .ok p')
    (hlaid : Laid lines hi fields) (hends : ∀ f ∈ fields, EndsInk f.body) :
    ∃ last, lines.length ≤ last ∧ Runs lines lo last p' := by
  induction fields generalizing hi p with
  | nil =>
    cases h
    rcases Nat.le_total lines.length hi with hle | hle
    · exact ⟨hi, hle, hp⟩
    · exact ⟨lines.length, Nat.le_refl _, hp.le.trans hle,
        hp.tiled.above_gap hlaid.nil_isGap hp.le hle, hp.differ, hp.start⟩
  | cons f fields ih =>
    rw [← List.nil_append (f :: fields)] at h
    obtain ⟨_, after, hnone, hadd, hrest⟩ := exists_of_foldlM h
    cases hnone
    have hrun := hp.add hadd (hlaid.stands f List.mem_cons_self) (hends f List.mem_cons_self)
      hlaid.head_isGap (hlaid.first f List.mem_cons_self)
    exact ih hrun hrest hlaid.tail fun g hg => hends g (List.mem_cons_of_mem f hg)

/-! ## Docstrings -/

/-- A field list that is read records its runs. -/
theorem tiled_parse {text : Text} {d : Document} (h : parse text = .ok d) :
    (∃ lo, Tiled openedAt? (normalLines text) lo (normalLines text).length
      d.metadata.sections) ∧
      d.metadata.sections.IsChain fun a b => a.kind ≠ b.kind := by
  obtain ⟨n, p, hstop, hfold, rfl⟩ := parse_cases h
  have hstart : Runs (normalLines text) n n
      ⟨(Head.cut atMarker atField (normalLines text)).document .rest, none⟩ :=
    ⟨Nat.le_refl n, tiled_nil (isGap_self _ n), .nil, fun _ => rfl⟩
  obtain ⟨last, hle, hruns⟩ :=
    hstart.foldlM hfold (laid_outline hstop) fun f => endsInk_of_mem_outline
  rw [sections_finish]
  exact ⟨⟨n, hruns.tiled.to_end hle⟩, hruns.differ⟩

end Docstring.Rest
