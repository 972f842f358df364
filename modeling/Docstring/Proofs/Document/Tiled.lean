-- The sections of a docstring tile its marked part: each one starts where it is opened and ends
-- with ink, one stands below the other, and between them are only blank lines.
import Docstring.Proofs.Document.Kept

namespace Docstring

open Text

/-- The lines from `lo` up to `hi` are blank. -/
def IsGap (lines : List Line) (lo hi : Nat) : Prop :=
  ∀ i line, lo ≤ i → i < hi → lines[i]? = some line → isBlank line = true

theorem isGap_self (lines : List Line) (n : Nat) : IsGap lines n n := by
  intro i line hle hlt
  omega

theorem isGap_succ {lines rest : List Line} {line : Line} {n : Nat}
    (hline : lines.drop n = line :: rest) (hblank : isBlank line = true) :
    IsGap lines n (n + 1) := by
  intro i l hle hlt hl
  obtain rfl : i = n := by omega
  rw [← List.head?_drop, hline, List.head?_cons, Option.some.injEq] at hl
  rw [← hl, hblank]

theorem lt_length_of_drop {lines rest : List Line} {line : Line} {n : Nat}
    (h : lines.drop n = line :: rest) : n < lines.length := by
  by_contra hge
  rw [List.drop_eq_nil_of_le (Nat.le_of_not_lt hge)] at h
  cases h

theorem drop_eq_nil_of_drop {lines : List Line} {n i : Nat} (h : lines.drop n = [])
    (hle : n ≤ i) : lines.drop i = [] := by
  rw [List.drop_eq_nil_iff] at h ⊢
  exact h.trans hle

/-- Spans that tile the lines from `lo` up to `hi`, where `opens` says which section is opened at
the start of some lines. -/
structure Tiled (opens : List Line → Option SectionKind) (lines : List Line) (lo hi : Nat)
    (spans : List SectionSpan) : Prop where
  opened : ∀ s ∈ spans, opens (lines.drop s.first) = some s.kind
  first : ∀ s ∈ spans, lo ≤ s.first
  nonempty : ∀ s ∈ spans, s.first < s.last
  last : ∀ s ∈ spans, s.last ≤ hi
  ends : ∀ s ∈ spans, ∃ line ∈ lines[s.last - 1]?, isBlank line = false
  apart : spans.Pairwise fun a b => a.last ≤ b.first
  covers : ∀ i line, lo ≤ i → i < hi → lines[i]? = some line → isBlank line = false →
    ∃ s ∈ spans, s.first ≤ i ∧ i < s.last

variable {opens : List Line → Option SectionKind} {lines : List Line} {lo mid hi : Nat}
  {spans spans' : List SectionSpan}

theorem Tiled.sorted (h : Tiled opens lines lo hi spans) :
    spans.Pairwise fun a b => a.first < b.first :=
  h.apart.imp_of_mem fun ha _ hle => (h.nonempty _ ha).trans_le hle

/-- Sections that tile the lines share none. -/
theorem Tiled.eq_of_mem (h : Tiled opens lines lo hi spans) {s t : SectionSpan} {i : Nat}
    (hs : s ∈ spans) (ht : t ∈ spans) (hsi : s.first ≤ i ∧ i < s.last)
    (hti : t.first ≤ i ∧ i < t.last) : s = t := by
  have hapart := h.apart
  obtain ⟨j, hj, rfl⟩ := List.getElem_of_mem hs
  obtain ⟨k, hk, rfl⟩ := List.getElem_of_mem ht
  rw [List.pairwise_iff_getElem] at hapart
  rcases Nat.lt_trichotomy j k with hlt | rfl | hgt
  · have hle := hapart j k hj hk hlt
    omega
  · rfl
  · have hle := hapart k j hk hj hgt
    omega

theorem tiled_nil (h : IsGap lines lo hi) : Tiled opens lines lo hi [] := by
  refine ⟨by simp, by simp, by simp, by simp, by simp, .nil, ?_⟩
  intro i line hle hlt hline hink
  exact absurd (h i line hle hlt hline) (by simp [hink])

theorem Tiled.append (h : Tiled opens lines lo mid spans) (h' : Tiled opens lines mid hi spans')
    (hlo : lo ≤ mid) (hhi : mid ≤ hi) : Tiled opens lines lo hi (spans ++ spans') where
  opened := List.forall_mem_append.mpr ⟨h.opened, h'.opened⟩
  first := List.forall_mem_append.mpr ⟨h.first, fun s hs => hlo.trans (h'.first s hs)⟩
  nonempty := List.forall_mem_append.mpr ⟨h.nonempty, h'.nonempty⟩
  last := List.forall_mem_append.mpr ⟨fun s hs => (h.last s hs).trans hhi, h'.last⟩
  ends := List.forall_mem_append.mpr ⟨h.ends, h'.ends⟩
  apart := List.pairwise_append.mpr
    ⟨h.apart, h'.apart, fun a ha b hb => (h.last a ha).trans (h'.first b hb)⟩
  covers i line hle hlt hline hink := by
    rcases Nat.lt_or_ge i mid with hbefore | hafter
    · obtain ⟨s, hs, hi⟩ := h.covers i line hle hbefore hline hink
      exact ⟨s, List.mem_append_left _ hs, hi⟩
    · obtain ⟨s, hs, hi⟩ := h'.covers i line hafter hlt hline hink
      exact ⟨s, List.mem_append_right _ hs, hi⟩

/-- A section that goes on over the one below it takes its lines. -/
theorem Tiled.join {s t : SectionSpan} (h : Tiled opens lines lo mid (spans ++ [s]))
    (h' : Tiled opens lines mid hi [t]) :
    Tiled opens lines lo hi (spans ++ [{ s with last := t.last }]) := by
  have hs : s ∈ spans ++ [s] := by simp
  have ht : t ∈ [t] := List.mem_singleton_self t
  have hrange : s.first < s.last ∧ s.last ≤ mid ∧ mid ≤ t.first ∧ t.first < t.last ∧ t.last ≤ hi :=
    ⟨h.nonempty s hs, h.last s hs, h'.first t ht, h'.nonempty t ht, h'.last t ht⟩
  have hkept : ∀ {P : SectionSpan → Prop}, (∀ x ∈ spans ++ [s], P x) →
      P { s with last := t.last } → ∀ x ∈ spans ++ [{ s with last := t.last }], P x := by
    intro P hall hlast
    exact List.forall_mem_append.mpr
      ⟨(List.forall_mem_append.mp hall).1, List.forall_mem_singleton.mpr hlast⟩
  refine ⟨hkept h.opened (h.opened s hs), hkept h.first (h.first s hs),
    hkept h.nonempty (by change s.first < t.last; omega), hkept ?_ hrange.2.2.2.2,
    hkept h.ends (h'.ends t ht), ?_, ?_⟩
  · intro x hx
    have hlast := h.last x hx
    omega
  · have hapart := List.pairwise_append.mp h.apart
    refine List.pairwise_append.mpr ⟨hapart.1, by simp, ?_⟩
    intro a ha b hb
    rw [List.mem_singleton.mp hb]
    exact hapart.2.2 a ha s (List.mem_singleton_self s)
  · intro i line hle hlt hline hink
    rcases Nat.lt_or_ge i mid with hbefore | hafter
    · obtain ⟨x, hx, hfirst, hlast⟩ := h.covers i line hle hbefore hline hink
      rcases List.mem_append.mp hx with hx | hx
      · exact ⟨x, List.mem_append_left _ hx, hfirst, hlast⟩
      · rw [List.mem_singleton.mp hx] at hfirst hlast
        exact ⟨{ s with last := t.last }, by simp, hfirst, by change i < t.last; omega⟩
    · obtain ⟨x, hx, hfirst, hlast⟩ := h'.covers i line hafter hlt hline hink
      rw [List.mem_singleton.mp hx] at hfirst hlast
      exact ⟨{ s with last := t.last }, by simp, by change s.first ≤ i; omega, hlast⟩

/-- Blank lines above the first section change nothing. -/
theorem Tiled.below_gap (h : Tiled opens lines mid hi spans) (hgap : IsGap lines lo mid)
    (hlo : lo ≤ mid) (hhi : mid ≤ hi) : Tiled opens lines lo hi spans :=
  (tiled_nil hgap).append h hlo hhi

/-- Blank lines below the last section change nothing. -/
theorem Tiled.above_gap (h : Tiled opens lines lo mid spans) (hgap : IsGap lines mid hi)
    (hlo : lo ≤ mid) (hhi : mid ≤ hi) : Tiled opens lines lo hi spans := by
  simpa using h.append (tiled_nil hgap) hlo hhi

/-- Where the text ends, the tiles end. -/
theorem Tiled.to_end (h : Tiled opens lines lo hi spans) (hend : lines.length ≤ hi) :
    Tiled opens lines lo lines.length spans where
  opened := h.opened
  first := h.first
  nonempty := h.nonempty
  last s hs := by
    obtain ⟨line, hline, _⟩ := h.ends s hs
    have hlt := (List.getElem?_eq_some_iff.mp hline).1
    omega
  ends := h.ends
  apart := h.apart
  covers i line hle hlt hline hink := h.covers i line hle (hlt.trans_le hend) hline hink

/-- A section below its head of `size` lines, without the blank lines at its end. -/
theorem tiled_section {kind : SectionKind} {first size : Nat} {body : List Line}
    (hopens : opens (lines.drop first) = some kind) (hsize : 0 < size)
    (hhead : ∃ line ∈ lines[first + size - 1]?, isBlank line = false)
    (hbody : StandsAt lines (first + size) body) :
    Tiled opens lines first (first + size + body.length)
      [⟨kind, first, first + size + (dropBlankEnd body).length⟩] := by
  have hle : (dropBlankEnd body).length ≤ body.length :=
    (List.rdropWhile_prefix isBlank body).length_le
  refine ⟨by simpa, by simp, ?_, ?_, ?_, by simp, ?_⟩
  · simp only [List.mem_singleton, forall_eq]
    omega
  · simp only [List.mem_singleton, forall_eq]
    omega
  · simp only [List.mem_singleton, forall_eq]
    cases hlast : (dropBlankEnd body).getLast? with
    | none =>
      rw [List.getLast?_eq_none_iff] at hlast
      simpa [hlast] using hhead
    | some line =>
      have hpart : StandsAt lines (first + size) (dropBlankEnd body) :=
        hbody.of_part (List.rdropWhile_prefix _ _)
      have hpos : 0 < (dropBlankEnd body).length :=
        List.length_pos_of_mem (List.mem_of_getLast? hlast)
      refine ⟨line, ?_, ?_⟩
      · rw [List.getLast?_eq_getElem?] at hlast
        rw [Option.mem_def, ← hlast, ← hpart.take_drop, List.getElem?_drop,
          List.getElem?_take_of_lt (by rw [hpart.take_drop]; omega), hpart.take_drop]
        congr 1
        omega
      · exact endsInk_dropBlankEnd body line hlast
  · intro i line hfirst hlast hline hink
    refine ⟨_, List.mem_singleton_self _, hfirst, ?_⟩
    change i < first + size + (dropBlankEnd body).length
    rcases Nat.lt_or_ge i (first + size) with hlt | hge
    · omega
    · obtain ⟨below, hsplit, hlength⟩ := hbody.split hge hlast hline
      have hclosed : (dropBlankEnd body).length =
          i - (first + size) + 1 + (dropBlankEnd below).length := by
        rw [hsplit, dropBlankEnd_append_ink _ _ hink, List.length_append, List.length_cons,
          hlength]
        omega
      omega

/-- The section that is open above line `mid`, if there is one: it starts there at the latest. -/
theorem tiled_toList {Block : Type} (start : Block → Nat) (span : Block → SectionSpan)
    {current : Option Block} (hle : ∀ b ∈ current, start b ≤ mid)
    (h : ∀ b ∈ current, Tiled opens lines (start b) mid [span b]) :
    current.elim mid start ≤ mid ∧
      Tiled opens lines (current.elim mid start) mid (current.toList.map span) := by
  cases current with
  | none => exact ⟨Nat.le_refl mid, tiled_nil (isGap_self lines mid)⟩
  | some b => exact ⟨hle b rfl, h b rfl⟩

/-! ## Heads -/

namespace Head

variable {mark : List Line → Bool}

theorem mark_spanUntil (mark : List Line → Bool) (lines : List Line) :
    (spanUntil mark lines).2 = [] ∨ mark (spanUntil mark lines).2 = true := by
  induction lines with
  | nil => exact .inl rfl
  | cons line rest ih =>
    rw [spanUntil]
    split
    · exact .inr ‹_›
    · exact ih

theorem mark_drop_of_lt_spanUntil {i : Nat} (h : i < (spanUntil mark lines).1.length) :
    mark (lines.drop i) = false := by
  induction lines generalizing i with
  | nil => exact absurd h (Nat.not_lt_zero i)
  | cons line rest ih =>
    rw [spanUntil] at h
    split at h
    · exact absurd h (Nat.not_lt_zero i)
    · rename_i hmark
      cases i with
      | zero => exact Bool.eq_false_iff.mpr hmark
      | succ i => exact ih (Nat.lt_of_succ_lt_succ h)

/-- The marked part is empty or starts with a mark. -/
theorem mark_cut (endsSummary mark : List Line → Bool) (lines : List Line) :
    (cut endsSummary mark lines).rest = [] ∨ mark (cut endsSummary mark lines).rest = true :=
  mark_spanUntil mark _

section Above

variable {endsSummary : List Line → Bool} (hends : ∀ tail, mark tail = true → endsSummary tail = true)

include hends

/-- Above the marked part there is no mark, if a mark ends the summary, too. -/
theorem mark_drop_of_lt_cut {i : Nat} (h : i < (cut endsSummary mark lines).length) :
    mark (lines.drop i) = false := by
  let blankOrMark := fun tail : List Line =>
    ((tail.head?.map isBlank).getD false) || endsSummary tail
  have hsummary := append_spanUntil blankOrMark lines
  change i < (spanUntil blankOrMark lines).1.length +
    (spanUntil mark (spanUntil blankOrMark lines).2).1.length at h
  rcases Nat.lt_or_ge i (spanUntil blankOrMark lines).1.length with hlt | hge
  · have hnone := (Bool.or_eq_false_iff.mp (mark_drop_of_lt_spanUntil hlt)).2
    exact Bool.eq_false_iff.mpr fun hmark => Bool.eq_false_iff.mp hnone (hends _ hmark)
  · have hprose : i - (spanUntil blankOrMark lines).1.length <
        (spanUntil mark (spanUntil blankOrMark lines).2).1.length := by omega
    have hdrop := @List.drop_append _ (spanUntil blankOrMark lines).1
      (spanUntil blankOrMark lines).2 i
    rw [hsummary, List.drop_eq_nil_of_le hge, List.nil_append] at hdrop
    rw [hdrop]
    exact mark_drop_of_lt_spanUntil hprose

theorem length_cut_le_of_mark {i : Nat} (h : mark (lines.drop i) = true) :
    (cut endsSummary mark lines).length ≤ i := by
  by_contra hlt
  rw [mark_drop_of_lt_cut hends (Nat.lt_of_not_le hlt)] at h
  cases h

end Above

end Head

end Docstring
