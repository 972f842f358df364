-- Spans that keep out of each other's way. Among spans sorted by their starts and ends it is enough
-- to look at neighbours: each one ends where the next one starts, or before.
import Docstring.Edit.Basic
import Docstring.Proofs.Text.Offset
import Mathlib.Data.List.Chain

namespace Docstring

/-! ## Overlaps -/

namespace Span

theorem overlaps_comm (a b : Span) : a.overlaps b = b.overlaps a := by
  unfold overlaps
  cases a.isEmpty <;> cases b.isEmpty <;>
    simp [eq_comm, Bool.and_comm]

theorem eq_point {s : Span} (h : s.first = s.last) : s = point s.last := by
  obtain ⟨first, last⟩ := s
  exact congrArg (Span.mk · last) h

/-- One span stands before another and does not get in its way. -/
@[mk_iff]
structure Apart (a b : Span) : Prop where
  ordered : a.first ≤ a.last
  last_le : a.last ≤ b.first
  ordered' : b.first ≤ b.last
  ne : a ≠ b

theorem Apart.trans {a b c : Span} (h : a.Apart b) (h' : b.Apart c) : a.Apart c := by
  have hab := h.last_le
  have hb := h'.ordered
  have hbc := h'.last_le
  refine ⟨h.ordered, by omega, h'.ordered', ?_⟩
  rintro rfl
  have ha := h.ordered
  apply h.ne
  obtain ⟨first, last⟩ := a
  obtain ⟨first', last'⟩ := b
  simp only [Span.mk.injEq] at *
  omega

instance : Trans Apart Apart Apart := ⟨Apart.trans⟩

/-- No two spans can each stand before the other. -/
theorem Apart.asymm {a b : Span} (h : a.Apart b) : ¬b.Apart a := fun h' => (h.trans h').ne rfl

/-- Of two spans in order, the first one keeps out of the way of the second one exactly when it
ends in time and they are not the same. An insertion at the start of a longer span comes first, so
in this order no span is left whose start and end lie on either side of an insertion. -/
theorem overlaps_eq_false_iff {a b : Span} (ha : a.first ≤ a.last) (hb : b.first ≤ b.last)
    (h : Edit.before a b = true) : a.overlaps b = false ↔ a.Apart b := by
  obtain ⟨first, last⟩ := a
  obtain ⟨first', last'⟩ := b
  have hne : (⟨first, last⟩ : Span) ≠ ⟨first', last'⟩ ↔ ¬(first = first' ∧ last = last') := by simp
  simp only [Edit.before, Bool.or_eq_true, Bool.and_eq_true, decide_eq_true_eq] at ha hb h
  rw [apart_iff, hne]
  unfold overlaps isEmpty
  simp only [Bool.and_eq_true, decide_eq_true_eq]
  split_ifs <;> simp only [Bool.and_eq_false_iff, decide_eq_false_iff_not] <;> omega

end Span

/-! ## Sorted spans -/

namespace Edit

/-- The spans of two edits in order keep apart. -/
def Follows (later earlier : Edit) : Prop := earlier.span.Apart later.span

instance : Trans Follows Follows Follows := ⟨fun h h' => h'.trans h⟩

theorem before_trans {a b c : Span} (h : before a b = true) (h' : before b c = true) :
    before a c = true := by
  simp only [before, Bool.or_eq_true, Bool.and_eq_true, decide_eq_true_eq] at *
  omega

theorem before_total (a b : Span) : (before a b || before b a) = true := by
  simp only [before, Bool.or_eq_true, Bool.and_eq_true, decide_eq_true_eq]
  omega

theorem before_antisymm {a b : Span} (h : before a b = true) (h' : before b a = true) : a = b := by
  obtain ⟨first, last⟩ := a
  obtain ⟨first', last'⟩ := b
  simp only [before, Bool.or_eq_true, Bool.and_eq_true, decide_eq_true_eq, Span.mk.injEq] at *
  omega

/-- Edits from the last to the first: the spans are sorted, and each one ends where it starts or
later. -/
structure IsDescending (edits : List Edit) : Prop where
  ordered : ∀ e ∈ edits, e.span.first ≤ e.span.last
  sorted : edits.Pairwise fun later earlier => before earlier.span later.span = true

theorem IsDescending.tail {e : Edit} {edits : List Edit} (h : IsDescending (e :: edits)) :
    IsDescending edits :=
  ⟨fun x hx => h.ordered x (by simp [hx]), (List.pairwise_cons.mp h.sorted).2⟩

theorem IsDescending.overlaps_eq_false_iff {edits : List Edit} (h : IsDescending edits)
    {later earlier : Edit} (hpair : [later, earlier].Sublist edits) :
    later.span.overlaps earlier.span = false ↔ Follows later earlier := by
  have hbefore : before earlier.span later.span = true := by
    simpa using h.sorted.sublist hpair
  rw [Span.overlaps_comm]
  exact Span.overlaps_eq_false_iff (h.ordered _ (hpair.subset (by simp)))
    (h.ordered _ (hpair.subset (by simp))) hbefore

/-- Looking at neighbours finds a clash if there is one between any two edits. -/
theorem IsDescending.clash?_eq_none_iff {edits : List Edit} (h : IsDescending edits) :
    clash? edits = none ↔ edits.Pairwise Follows := by
  rw [← List.isChain_iff_pairwise]
  induction edits with
  | nil => simp [clash?]
  | cons later rest ih =>
    cases rest with
    | nil => simp [clash?]
    | cons earlier rest =>
      have hpair : later.span.overlaps earlier.span = false ↔ Follows later earlier :=
        h.overlaps_eq_false_iff (by simp)
      rw [List.isChain_cons_cons, ← ih h.tail, ← hpair, clash?]
      cases later.span.overlaps earlier.span <;> simp

theorem IsDescending.pairwise_iff {edits : List Edit} (h : IsDescending edits) :
    edits.Pairwise Follows ↔ edits.Pairwise fun a b => a.span.overlaps b.span = false := by
  constructor <;> intro hpairs <;> rw [List.pairwise_iff_forall_sublist] at hpairs ⊢
  · exact fun hpair => (h.overlaps_eq_false_iff hpair).mpr (hpairs hpair)
  · exact fun hpair => (h.overlaps_eq_false_iff hpair).mp (hpairs hpair)

end Edit

end Docstring
