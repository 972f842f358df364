-- Where the operation on return types puts a section: over the one on the value or, if there is
-- none, where it belongs by its rank, with an empty line towards its neighbour.
import Docstring.Proofs.Fix.ReturnType
import Docstring.Proofs.Literal.Replaced
import Docstring.Proofs.Value

namespace Docstring.Fix

open Text

/-! ## Neighbours -/

/-- What is left of a list in which two items make one of them is one of its items. -/
theorem foldl_mem {α : Type} {f : α → α → α} (h : ∀ a b, f a b = a ∨ f a b = b) (first : α)
    (rest : List α) : rest.foldl f first ∈ first :: rest := by
  induction rest generalizing first with
  | nil => exact List.mem_singleton.mpr rfl
  | cons next rest ih =>
    have hmem := ih (f first next)
    rw [List.foldl_cons]
    rcases List.mem_cons.mp hmem with hsame | hrest
    · rw [hsame]
      rcases h first next with hfirst | hnext
      · simp [hfirst]
      · simp [hnext]
    · exact List.mem_cons_of_mem _ (List.mem_cons_of_mem _ hrest)

variable {spans : List SectionSpan} {kind : SectionKind} {span : SectionSpan}

theorem mem_of_previousSpan? (h : previousSpan? spans kind = some span) : span ∈ spans := by
  unfold previousSpan? at h
  split at h
  · cases h
  · rename_i first rest hlower
    cases h
    have hmem := foldl_mem (f := laterEnd) (fun a b => by unfold laterEnd; split <;> simp) first rest
    rw [← hlower] at hmem
    exact (List.mem_filter.mp hmem).1

theorem mem_of_nextSpan? (h : nextSpan? spans kind = some span) : span ∈ spans := by
  unfold nextSpan? at h
  split at h
  · cases h
  · rename_i first rest hhigher
    cases h
    have hmem := foldl_mem (f := earlierStart) (fun a b => by unfold earlierStart; split <;> simp)
      first rest
    rw [← hhigher] at hmem
    exact (List.mem_filter.mp hmem).1

theorem mem_spansOf {d : Document} : span ∈ spansOf d kind ↔
    span ∈ d.metadata.sections ∧ span.kind = kind := by
  simp [spansOf]

/-! ## Places -/

/-- Where a section is put among the normal lines of a docstring: in place of those from `first` up
to `last`, which open all sections of the kinds that it makes up for. -/
structure Placed (o : Opener) (kinds : SectionKind → Prop) (old lines : List Line)
    (first last : Nat) (new : List Line) : Prop where
  le : first ≤ last
  last_le : last ≤ old.length
  spaced : Spaced first lines new
  closed : ∀ line ∈ old[last]?, ¬o.completes line
  inside : ∀ kind, kinds kind → ∀ i, o.at? (normalLines (joinLines old)) i = some kind →
    first ≤ i ∧ i < last

/-- The section belongs before all others, and one of those starts on the first line. -/
def ComesFirst (current : Document) (kind : SectionKind) : Prop :=
  spansOf current kind = [] ∧ previousSpan? current.metadata.sections kind = none ∧
    ∃ after ∈ nextSpan? current.metadata.sections kind, after.first = 0

/-- A section that is put on the first line: before all others, or in place of one on a value. -/
def ComesToTop (current : Document) (kind : SectionKind) (last : Nat) (lines new : List Line) : Prop :=
  last = 0 ∧ ComesFirst current kind ∨
    new = lines ∧ ∃ span ∈ current.metadata.sections, (span.kind = .returns ∨ span.kind = .yields) ∧
      span.first = 0 ∧ span.last = last

/-- Where no section of the kind is opened, there is none to make up for. -/
theorem placed_of_none {o : Opener} {old lines new : List Line} {point : Nat}
    (hle : point ≤ old.length) (hspaced : Spaced point lines new)
    (hclosed : ∀ line ∈ old[point]?, ¬o.completes line)
    (hnone : ∀ i, o.at? (normalLines (joinLines old)) i ≠ some kind) :
    Placed o (· = kind) old lines point point new where
  le := Nat.le_refl _
  last_le := hle
  spaced := hspaced
  closed := hclosed
  inside := by
    rintro _ rfl i hopens
    exact (hnone i hopens).elim

section Splice

variable {l : Literal} {style : Style} {current changed : Document} {width : Nat} {s : Text}

/-- In place of the only section of some kinds there is none left of them. -/
theorem placed_of_span {kinds : SectionKind → Prop} (hparse : style.parse l.body = .ok current)
    (hmem : span ∈ current.metadata.sections)
    (hvalues : ∀ kind, kinds kind → kind = .returns ∨ kind = .yields)
    (honly : ∀ kind, kinds kind → ∀ t ∈ spansOf current kind, t = span) (lines : List Line) :
    Placed style.opener kinds (normalLines l.raw) lines span.first span.last lines := by
  have hnormal := isNormal_normalLines l.raw
  obtain ⟨lo, htiled⟩ := Style.tiled_parse hparse
  exact {
    le := (htiled.nonempty span hmem).le
    last_le := (htiled.last span hmem).trans (length_normalLines_joinLines_le hnormal)
    spaced := spaced_self _ _
    closed := (Style.not_completes_of_span hnormal hparse hmem).2
    inside := fun kind hkind i hopens => by
      obtain ⟨t, ht, hsame, hi⟩ := Style.exists_span (hvalues kind hkind) hparse hopens
      exact honly kind hkind t (mem_spansOf.mpr ⟨ht, hsame⟩) ▸ hi }

/-- Where a document has no section of a kind, none is opened. -/
theorem not_opened_of_spansOf_eq_nil (hkind : kind = .returns ∨ kind = .yields)
    (hparse : style.parse l.body = .ok current) (hspans : spansOf current kind = []) (i : Nat) :
    style.opener.at? (normalLines (joinLines (normalLines l.raw))) i ≠ some kind := by
  intro hopens
  obtain ⟨t, ht, hsame, _⟩ := Style.exists_span hkind hparse hopens
  have hmem : t ∈ spansOf current kind := mem_spansOf.mpr ⟨ht, hsame⟩
  rw [hspans] at hmem
  cases hmem

theorem length_splitLines_body (hne : normalLines l.raw ≠ []) :
    (splitLines l.body).length = (normalLines l.raw).length := by
  rw [Literal.body, normalText, splitLines_joinLines hne fun line hl =>
    ((isNormal_normalLines l.raw).clean line hl).newline]

/-- A section that is spliced in is put somewhere. -/
theorem exists_placed_of_spliceSection? (hkind : kind = .returns ∨ kind = .yields)
    (hparse : style.parse l.body = .ok current)
    (hs : spliceSection? l current changed kind style width = some s) :
    ∃ first last new, l.splice? first last new = some s ∧
      Placed style.opener (· = kind) (normalLines l.raw) (style.sectionLines changed kind width)
        first last new ∧
      (first = 0 → ComesToTop current kind last (style.sectionLines changed kind width) new) := by
  have hnormal := isNormal_normalLines l.raw
  obtain ⟨lo, htiled⟩ := Style.tiled_parse hparse
  have hinside : ∀ s ∈ current.metadata.sections, s.last ≤ (normalLines l.raw).length :=
    fun s hs => (htiled.last s hs).trans (length_normalLines_joinLines_le hnormal)
  have hgap : ∀ (joined : Bool), ∀ line ∈ (if joined then [] else [[]] : List Line), line = [] := by
    intro joined line hl
    cases joined <;> simp_all
  unfold spliceSection? at hs
  dsimp only at hs
  split at hs
  · rename_i span hspans
    obtain ⟨hmem, hsame⟩ := mem_spansOf.mp (hspans ▸ List.mem_singleton.mpr rfl)
    refine ⟨_, _, _, hs, placed_of_span hparse hmem ?_ ?_ _,
      fun hzero => .inr ⟨rfl, span, hmem, hsame ▸ hkind, hzero, rfl⟩⟩
    · rintro _ rfl
      exact hkind
    · rintro _ rfl t ht
      rwa [hspans, List.mem_singleton] at ht
  · cases hs
  · rename_i hspans
    have hnone := not_opened_of_spansOf_eq_nil hkind hparse hspans
    split at hs
    · rename_i before hbefore
      have hmem := mem_of_previousSpan? hbefore
      have hpos := htiled.nonempty before hmem
      exact ⟨_, _, _, hs, placed_of_none (hinside before hmem)
        (spaced_below _ (hgap (joinsFields style kind before.kind)) (by omega))
        (Style.not_completes_of_span hnormal hparse hmem).2 hnone, fun hzero => by omega⟩
    · rename_i after hbefore hafter
      have hmem := mem_of_nextSpan? hafter
      have hpos := htiled.nonempty after hmem
      exact ⟨_, _, _, hs, placed_of_none (hpos.le.trans (hinside after hmem))
        (spaced_above _ _ (hgap (joinsFields style kind after.kind)))
        (Style.not_completes_of_span hnormal hparse hmem).1 hnone,
        fun hzero => .inl ⟨hzero, hspans, hbefore, after, hafter, hzero⟩⟩
    · rename_i hbefore hafter
      obtain ⟨hle, hlast, _⟩ := Literal.splice?_eq_some hs
      have hne : normalLines l.raw ≠ [] := by
        intro hnil
        have hbody : l.body = [] := by rw [Literal.body, normalText, hnil, joinLines]
        rw [hbody, Literal.lead_of_normalLines_eq_nil hnil] at hlast
        simp [splitLines] at hlast
      have hcount := length_splitLines_body hne
      have hpos := List.length_pos_of_ne_nil hne
      exact ⟨_, _, _, hs, placed_of_none hcount.le
        (spaced_below _ (hgap l.body.isEmpty) (by omega)) (by simp [hcount]) hnone,
        fun hzero => by omega⟩

/-- A section on yielded values that takes the place of the one on returned values is put there. -/
theorem exists_placed_of_spliceOverReturns? (hparse : style.parse l.body = .ok current)
    (hs : spliceOverReturns? l current changed style width = some s) :
    ∃ first last new, l.splice? first last new = some s ∧
      Placed style.opener (fun kind => kind = .yields ∨ kind = .returns) (normalLines l.raw)
        (style.sectionLines changed .yields width) first last new ∧
      (first = 0 →
        ComesToTop current .yields last (style.sectionLines changed .yields width) new) := by
  unfold spliceOverReturns? at hs
  split at hs
  · cases hs
  rename_i hyields
  split at hs
  · rename_i span hspans
    obtain ⟨hmem, hsame⟩ := mem_spansOf.mp (hspans ▸ List.mem_singleton.mpr rfl)
    refine ⟨_, _, _, hs, placed_of_span hparse hmem (fun _ => Or.symm) ?_ _,
      fun hzero => .inr ⟨rfl, span, hmem, .inl hsame, hzero, rfl⟩⟩
    rintro _ (rfl | rfl) t ht
    · have hnone : spansOf current .yields = [] := by simpa using hyields
      rw [hnone] at ht
      cases ht
    · rwa [hspans, List.mem_singleton] at ht
  · cases hs

end Splice

end Docstring.Fix
