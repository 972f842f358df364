-- Making a list of edits is replacing all of their spans at once. It succeeds exactly when every
-- span fits the text and no two of them overlap; then the text is cut into the spans and the gaps
-- between them, and only the spans are replaced. The order of the list does not matter.
import Docstring.Proofs.Edit.Span

namespace Docstring

open Text

/-! ## Spans of a text -/

/-- A span of a text: it ends where it starts or later, within the text, and both ends stand
between two characters. -/
structure Span.Fits (s : Span) (t : Text) : Prop where
  ordered : s.first ≤ s.last
  inside : s.last ≤ byteLength t
  first : HasBoundary t s.first
  last : HasBoundary t s.last

namespace Edit

/-- What is wrong with a span that does not fit. -/
def faultOf (t : Text) (span : Span) : EditError :=
  if span.last > byteLength t ∨ span.first > span.last then .outOfBounds span (byteLength t)
  else .notBoundary span

theorem fault?_of_fits {t : Text} {span : Span} (h : span.Fits t) : fault? t span = none := by
  have hinside := h.inside
  have hordered := h.ordered
  simp [fault?, isBoundary_iff.mpr h.first, isBoundary_iff.mpr h.last, hinside, hordered]

theorem fault?_of_not_fits {t : Text} {span : Span} (h : ¬span.Fits t) :
    fault? t span = some (faultOf t span) := by
  by_cases hbounds : span.last > byteLength t ∨ span.first > span.last
  · simp [fault?, faultOf, hbounds]
  · have hends : ¬(isBoundary t span.first = true ∧ isBoundary t span.last = true) := by
      rintro ⟨hfirst, hlast⟩
      rw [not_or, not_lt, not_lt] at hbounds
      exact h ⟨hbounds.2, hbounds.1, isBoundary_iff.mp hfirst, isBoundary_iff.mp hlast⟩
    have hside : isBoundary t span.first = false ∨ isBoundary t span.last = false := by
      simpa [imp_iff_not_or] using hends
    simp [fault?, faultOf, hbounds, hside]

theorem fault?_eq_none_iff {t : Text} {span : Span} : fault? t span = none ↔ span.Fits t := by
  constructor
  · intro h
    by_contra hfits
    rw [fault?_of_not_fits hfits] at h
    exact absurd h (by simp)
  · exact fault?_of_fits

instance (t : Text) (span : Span) : Decidable (span.Fits t) :=
  decidable_of_iff (fault? t span = none) fault?_eq_none_iff

theorem findSome?_fault?_eq_none_iff {t : Text} {edits : List Edit} :
    (edits.findSome? fun e => fault? t e.span) = none ↔ ∀ e ∈ edits, e.span.Fits t := by
  rw [List.findSome?_eq_none_iff]
  exact forall₂_congr fun e _ => fault?_eq_none_iff

/-! ## Sorting -/

theorem perm_descending (edits : List Edit) : (descending edits).Perm edits :=
  List.mergeSort_perm _ _

theorem perm_ascending (edits : List Edit) : (ascending edits).Perm edits :=
  List.mergeSort_perm _ _

theorem sorted_ascending (edits : List Edit) :
    (ascending edits).Pairwise fun a b => before a.span b.span = true :=
  List.pairwise_mergeSort (fun a b c => before_trans (a := a.span) (b := b.span) (c := c.span))
    (fun a b => before_total a.span b.span) edits

variable {t new : Text} {edits edits' : List Edit}

theorem isDescending_descending (h : ∀ e ∈ edits, e.span.first ≤ e.span.last) :
    IsDescending (descending edits) where
  ordered e he := h e ((perm_descending edits).mem_iff.mp he)
  sorted := List.pairwise_mergeSort
    (fun a b c hab hbc => before_trans (a := c.span) (b := b.span) (c := a.span) hbc hab)
    (fun a b => before_total b.span a.span) edits

theorem isDescending_reverse_ascending (h : ∀ e ∈ edits, e.span.first ≤ e.span.last) :
    IsDescending (ascending edits).reverse where
  ordered e he := h e ((perm_ascending edits).mem_iff.mp (List.mem_reverse.mp he))
  sorted := List.pairwise_reverse.mpr (sorted_ascending edits)

/-- Only the spans of edits decide whether they clash. -/
theorem clash?_congr (h : edits.map Edit.span = edits'.map Edit.span) :
    clash? edits = clash? edits' := by
  induction edits generalizing edits' with
  | nil =>
    have hnil : edits' = [] := by simpa using h.symm
    rw [hnil]
  | cons later rest ih =>
    obtain ⟨later', rest', rfl, hspan, hrest⟩ := List.map_eq_cons_iff.mp h.symm
    have htail := ih hrest.symm
    cases rest with
    | nil =>
      have hnil : rest' = [] := by simpa using hrest
      rw [hnil]
      rfl
    | cons earlier rest =>
      obtain ⟨earlier', more, rfl, hspan', _⟩ := List.map_eq_cons_iff.mp hrest
      rw [clash?, clash?, htail, hspan, hspan']

/-- However edits are listed, their spans come in one order. -/
theorem clash?_perm (h : IsDescending edits) (h' : IsDescending edits')
    (hperm : edits.Perm edits') : clash? edits = clash? edits' := by
  have hspans : ∀ {l : List Edit}, IsDescending l →
      (l.map Edit.span).Pairwise fun later earlier => before earlier later = true :=
    fun hl => List.pairwise_map.mpr hl.sorted
  apply clash?_congr
  exact (hperm.map Edit.span).eq_of_pairwise (fun _ _ _ _ hab hba => before_antisymm hba hab)
    (hspans h) (hspans h')

/-- Edits that keep apart have one order from the last to the first. -/
theorem eq_of_pairwise_follows (h : edits.Pairwise Follows) (h' : edits'.Pairwise Follows)
    (hperm : edits.Perm edits') : edits = edits' :=
  hperm.eq_of_pairwise (fun _ _ _ _ hab hba => absurd hba hab.asymm) h h'

/-! ## Replacing at once -/

/-- `Replaced cursor t edits new`: making all edits at once turns `t`, which starts at the byte
`cursor`, into `new`. The edits cut `t` into the old texts of their spans and the gaps before them
and after the last one, and their own texts take the places of the old ones. -/
inductive Replaced : Nat → Text → List Edit → Text → Prop
  | rest (cursor : Nat) (t : Text) : Replaced cursor t [] t
  | edit {cursor : Nat} {gap old below new : Text} {e : Edit} {edits : List Edit}
      (hfirst : cursor + byteLength gap = e.span.first)
      (hlast : e.span.first + byteLength old = e.span.last)
      (h : Replaced e.span.last below edits new) :
      Replaced cursor (gap ++ old ++ below) (e :: edits) (gap ++ e.text ++ new)

/-- A last edit that inserts at the end of the text adds its own text below all else. -/
theorem Replaced.unsnoc {cursor : Nat} {e : Edit} (h : Replaced cursor t (edits ++ [e]) new)
    (he : e.span = .point (cursor + byteLength t)) :
    ∃ above, new = above ++ e.text ∧ Replaced cursor t edits above := by
  induction edits generalizing cursor t new with
  | nil =>
    cases h with
    | @edit _ gap old below new _ _ hfirst hlast h =>
      cases h
      simp only [he, Span.point, byteLength_append] at hfirst hlast
      have hold : old = [] := byteLength_eq_zero.mp (by omega)
      have hbelow : below = [] := byteLength_eq_zero.mp (by omega)
      refine ⟨gap, by simp [hbelow], ?_⟩
      rw [hold, hbelow, List.append_nil, List.append_nil]
      exact .rest _ _
  | cons x edits ih =>
    cases h with
    | @edit _ gap old below new _ _ hfirst hlast h =>
      have he' : e.span = .point (x.span.last + byteLength below) := by
        rw [he, ← hlast, ← hfirst]
        simp only [byteLength_append, Nat.add_assoc]
      obtain ⟨above, rfl, habove⟩ := ih h he'
      exact ⟨gap ++ x.text ++ above, by simp, .edit hfirst hlast habove⟩

theorem replace_append {e : Edit} {left old : Text} (right : Text)
    (hfirst : byteLength left = e.span.first)
    (hlast : e.span.first + byteLength old = e.span.last) :
    replace (left ++ old ++ right) e = left ++ e.text ++ right := by
  have hlength : e.span.last - e.span.first = byteLength old := by omega
  rw [replace, List.append_assoc, ← hfirst, cut?_append]
  simp only
  rw [hfirst, hlength, cut?_append]

/-- Edits that are made from the last to the first are made at once. -/
theorem foldr_replace {cursor : Nat} {left body : Text}
    (h : Replaced cursor body edits new) (hleft : byteLength left = cursor) :
    edits.foldr (fun e t => replace t e) (left ++ body) = left ++ new := by
  induction h generalizing left with
  | rest => rfl
  | @edit cursor gap old below new e edits hfirst hlast _ ih =>
    have hgap : byteLength (left ++ gap) = e.span.first := by
      rw [byteLength_append, hleft, hfirst]
    have hold : byteLength (left ++ gap ++ old) = e.span.last := by
      rw [byteLength_append, hgap, hlast]
    have hrest := ih hold
    have hassoc : left ++ (gap ++ old ++ below) = left ++ gap ++ old ++ below := by simp
    rw [List.foldr_cons, hassoc, hrest, replace_append new hgap hlast]
    simp

/-- Edits that keep apart can be made at once. -/
theorem exists_replaced {left body : Text} (ht : t = left ++ body)
    (hfits : ∀ e ∈ edits, e.span.Fits t) (hleft : ∀ e ∈ edits, byteLength left ≤ e.span.first)
    (hapart : edits.Pairwise fun a b => a.span.Apart b.span) :
    ∃ new, Replaced (byteLength left) body edits new := by
  induction edits generalizing left body with
  | nil => exact ⟨body, .rest _ _⟩
  | cons e edits ih =>
    have he := hfits e (by simp)
    obtain ⟨before, after, hbefore, hfirst⟩ := he.first
    obtain ⟨before', after', hbefore', hlast⟩ := he.last
    have hgap := hleft e (by simp)
    rw [← hfirst] at hgap
    obtain ⟨gap, rfl, rfl⟩ := exists_between (ht.symm.trans hbefore) hgap
    have hold := he.ordered
    rw [← hfirst, ← hlast] at hold
    obtain ⟨old, rfl, rfl⟩ := exists_between (hbefore.symm.trans hbefore') hold
    rw [List.pairwise_cons] at hapart
    obtain ⟨new, hnew⟩ := ih hbefore' (fun x hx => hfits x (by simp [hx]))
      (fun x hx => hlast ▸ (hapart.1 x hx).last_le) hapart.2
    refine ⟨gap ++ e.text ++ new, ?_⟩
    rw [← List.append_assoc]
    refine .edit ?_ ?_ (hlast ▸ hnew)
    · rw [← hfirst, byteLength_append]
    · rw [← hfirst, ← hlast, byteLength_append (left ++ gap)]

/-! ## Making edits -/

/-- No two edits of a list, at different places in it, get in each other's way. -/
def NoneOverlap (edits : List Edit) : Prop :=
  edits.Pairwise fun a b => a.span.overlaps b.span = false

theorem NoneOverlap.perm (h : NoneOverlap edits) (hperm : edits.Perm edits') : NoneOverlap edits' :=
  (hperm.pairwise_iff fun {a b} hab => by rw [Span.overlaps_comm, hab]).mp h

theorem applyAll_of_fits (h : ∀ e ∈ edits, e.span.Fits t) :
    applyAll t edits =
      match clash? (descending edits) with
      | some clash => .error clash
      | none => .ok ((descending edits).foldl replace t) := by
  cases hclash : clash? (descending edits) with
  | none => simp only [applyAll, findSome?_fault?_eq_none_iff.mpr h, hclash]
  | some clash => simp only [applyAll, findSome?_fault?_eq_none_iff.mpr h, hclash]

theorem pairwise_follows_iff (h : ∀ e ∈ edits, e.span.first ≤ e.span.last) :
    (descending edits).Pairwise Follows ↔ NoneOverlap edits := by
  rw [(isDescending_descending h).pairwise_iff]
  exact ⟨fun hd => NoneOverlap.perm hd (perm_descending edits),
    fun hd => NoneOverlap.perm hd (perm_descending edits).symm⟩

/-- Edits that keep apart are sorted in one way only, whichever end one starts from. -/
theorem reverse_ascending (h : ∀ e ∈ edits, e.span.first ≤ e.span.last) (hd : NoneOverlap edits) :
    (ascending edits).reverse = descending edits := by
  have hperm : (ascending edits).reverse.Perm edits :=
    (List.reverse_perm _).trans (perm_ascending edits)
  apply eq_of_pairwise_follows _ ((pairwise_follows_iff h).mpr hd)
    (hperm.trans (perm_descending edits).symm)
  exact (isDescending_reverse_ascending h).pairwise_iff.mpr (hd.perm hperm.symm)

theorem pairwise_apart_ascending (h : ∀ e ∈ edits, e.span.first ≤ e.span.last)
    (hd : NoneOverlap edits) : (ascending edits).Pairwise fun a b => a.span.Apart b.span := by
  have hfollows := (pairwise_follows_iff h).mpr hd
  rwa [← reverse_ascending h hd, List.pairwise_reverse] at hfollows

/-- Edits with fitting spans that keep apart are made, all at once. -/
theorem exists_applyAll (h : ∀ e ∈ edits, e.span.Fits t) (hd : NoneOverlap edits) :
    ∃ new, applyAll t edits = .ok new ∧ Replaced 0 t (ascending edits) new := by
  have hordered : ∀ e ∈ edits, e.span.first ≤ e.span.last := fun e he => (h e he).ordered
  have hfollows : (descending edits).Pairwise Follows := (pairwise_follows_iff hordered).mpr hd
  obtain ⟨new, hnew⟩ : ∃ new, Replaced (byteLength []) t (ascending edits) new :=
    exists_replaced rfl (fun e he => h e ((perm_ascending edits).mem_iff.mp he))
      (fun _ _ => Nat.zero_le _) (pairwise_apart_ascending hordered hd)
  have hclash := (isDescending_descending hordered).clash?_eq_none_iff.mpr hfollows
  refine ⟨new, ?_, hnew⟩
  rw [applyAll_of_fits h, hclash, ← reverse_ascending hordered hd, List.foldl_reverse]
  exact congrArg Except.ok (foldr_replace hnew rfl)

/-- One edit can be made where its span fits. -/
theorem applyAll_singleton {e : Edit} (h : e.span.Fits t) : applyAll t [e] = .ok (replace t e) := by
  have hone : descending [e] = [e] := List.mergeSort_singleton e
  rw [applyAll_of_fits (by simpa using h), hone]
  rfl

/-- The text of an edit stands where it was made. -/
theorem slice?_replace {e : Edit} (h : e.span.Fits t) :
    slice? (replace t e) e.span.first (e.span.first + byteLength e.text) = some e.text := by
  obtain ⟨left, rest, rfl, hfirst⟩ := h.first
  obtain ⟨before, right, hcut, hlast⟩ := h.last
  obtain ⟨old, rfl, rfl⟩ := exists_between hcut (by rw [hfirst, hlast]; exact h.ordered)
  rw [byteLength_append, hfirst] at hlast
  rw [← List.append_assoc, replace_append right hfirst hlast, ← hfirst]
  exact slice?_append left e.text right

/-- When a list of edits can be made, and what it makes of a text. -/
theorem applyAll_eq_ok_iff :
    (∃ new, applyAll t edits = .ok new) ↔ (∀ e ∈ edits, e.span.Fits t) ∧ NoneOverlap edits := by
  constructor
  · rintro ⟨new, hnew⟩
    have hfits : ∀ e ∈ edits, e.span.Fits t := by
      by_contra hfault
      rw [← findSome?_fault?_eq_none_iff, ← ne_eq, Option.ne_none_iff_exists'] at hfault
      obtain ⟨fault, hfault⟩ := hfault
      simp [applyAll, hfault] at hnew
    have hordered : ∀ e ∈ edits, e.span.first ≤ e.span.last := fun e he => (hfits e he).ordered
    refine ⟨hfits, (pairwise_follows_iff hordered).mp ?_⟩
    rw [← (isDescending_descending hordered).clash?_eq_none_iff]
    rw [applyAll_of_fits hfits] at hnew
    split at hnew
    · exact absurd hnew (by simp)
    · assumption
  · rintro ⟨hfits, hd⟩
    obtain ⟨new, hnew, _⟩ := exists_applyAll hfits hd
    exact ⟨new, hnew⟩

theorem replaced_of_applyAll (h : applyAll t edits = .ok new) :
    Replaced 0 t (ascending edits) new := by
  obtain ⟨hfits, hd⟩ := applyAll_eq_ok_iff.mp ⟨new, h⟩
  obtain ⟨new', hnew', hreplaced⟩ := exists_applyAll hfits hd
  rw [h, Except.ok.injEq] at hnew'
  rwa [hnew']

/-- The order in which edits with fitting spans are listed does not matter. -/
theorem applyAll_perm (h : ∀ e ∈ edits, e.span.Fits t) (hperm : edits.Perm edits') :
    applyAll t edits' = applyAll t edits := by
  have h' : ∀ e ∈ edits', e.span.Fits t := fun e he => h e (hperm.mem_iff.mpr he)
  have hsorted := isDescending_descending fun e he => (h e he).ordered
  have hsorted' := isDescending_descending fun e he => (h' e he).ordered
  have hperm' : (descending edits').Perm (descending edits) :=
    (perm_descending edits').trans (hperm.symm.trans (perm_descending edits).symm)
  have hclash := clash?_perm hsorted' hsorted hperm'
  rw [applyAll_of_fits h, applyAll_of_fits h', hclash]
  cases hnone : clash? (descending edits) with
  | some clash => rfl
  | none =>
    have hsame : descending edits' = descending edits :=
      eq_of_pairwise_follows (hsorted'.clash?_eq_none_iff.mp (hclash.trans hnone))
        (hsorted.clash?_eq_none_iff.mp hnone) hperm'
    rw [hsame]

/-- The first edit whose span does not fit decides the error. -/
theorem applyAll_of_not_fits {above below : List Edit} {e : Edit}
    (habove : ∀ b ∈ above, b.span.Fits t) (h : ¬e.span.Fits t) :
    applyAll t (above ++ e :: below) = .error (faultOf t e.span) := by
  have hfault : ((above ++ e :: below).findSome? fun e => fault? t e.span) =
      some (faultOf t e.span) := by
    rw [List.findSome?_append, findSome?_fault?_eq_none_iff.mpr habove, List.findSome?_cons,
      fault?_of_not_fits h]
    rfl
  rw [applyAll, hfault]

/-- Edits are made exactly when their spans fit the text and keep out of each other's way, and
then all at once. If every span fits, any order of the list gives the same text or the same error;
if not, the error names the first span that does not. -/
theorem edits_are_made_at_once (t : Text) (edits : List Edit) :
    ((∃ new, applyAll t edits = .ok new) ↔ (∀ e ∈ edits, e.span.Fits t) ∧ NoneOverlap edits) ∧
      (∀ new, applyAll t edits = .ok new →
        ∃ ordered, ordered.Perm edits ∧
          ordered.Pairwise (fun a b => before a.span b.span = true) ∧
          Replaced 0 t ordered new) ∧
      ((∀ e ∈ edits, e.span.Fits t) →
        ∀ edits', edits.Perm edits' → applyAll t edits' = applyAll t edits) ∧
      ∀ above e below, edits = above ++ e :: below → (∀ b ∈ above, b.span.Fits t) →
        ¬e.span.Fits t → applyAll t edits = .error (faultOf t e.span) := by
  refine ⟨applyAll_eq_ok_iff, ?_, fun hfits edits' => applyAll_perm hfits, ?_⟩
  · intro new hnew
    exact ⟨ascending edits, perm_ascending edits, sorted_ascending edits,
      replaced_of_applyAll hnew⟩
  · rintro above e below rfl habove he
    exact applyAll_of_not_fits habove he

/-- An insertion at the start of a replacement comes before it, however they are listed; and a span
that ends inside a character is named before one that ends outside the text. -/
theorem an_insertion_beside_a_replacement_is_made :
    let t := "naïve text".toList
    let edits : List Edit :=
      [{ span := ⟨7, 11⟩, text := "words".toList }, { span := ⟨7, 7⟩, text := "old ".toList },
        { span := ⟨0, 6⟩, text := "plain".toList }]
    let cut : Edit := { span := ⟨2, 3⟩, text := [] }
    let long : Edit := { span := ⟨7, 12⟩, text := [] }
    (∀ e ∈ edits, e.span.Fits t) ∧ NoneOverlap edits ∧
      applyAll t edits = .ok "plain old words".toList ∧
      applyAll t edits.reverse = .ok "plain old words".toList ∧
      applyAll t (edits ++ cut :: [long]) = .error (.notBoundary ⟨2, 3⟩) := by
  intro t edits cut long
  have hfits : ∀ e ∈ edits, e.span.Fits t := by decide
  have hsorted : descending edits = edits := List.mergeSort_of_pairwise (by decide)
  have hmade : applyAll t edits = .ok "plain old words".toList := by
    rw [applyAll_of_fits hfits, hsorted]
    decide
  have hcut : ¬cut.span.Fits t := by decide
  have hlaws := edits_are_made_at_once t edits
  have hlaws' := edits_are_made_at_once t (edits ++ cut :: [long])
  refine ⟨hfits, (hlaws.1.mp ⟨_, hmade⟩).2, hmade, ?_, ?_⟩
  · rw [hlaws.2.2.1 hfits edits.reverse edits.reverse_perm.symm, hmade]
  · exact hlaws'.2.2.2 edits cut [long] rfl hfits hcut

end Edit

end Docstring
