-- Which sections a canonical docstring opens on a value: no others than those that are written for it,
-- in the lines where they are written.
import Docstring.Proofs.Arranged
import Docstring.Proofs.Google.Canonical
import Docstring.Proofs.Numpy.Canonical
import Docstring.Proofs.Rest.Canonical

namespace Docstring

open Text

namespace Style

variable {style : Style} {d : Document} {kind : SectionKind} {kinds : List SectionKind}
  {width i : Nat} {old up down above front back below : List Line}

theorem isInfix_group {block : List Line} {blocks : List (List Line)} (h : block ∈ blocks) :
    block <:+: style.group blocks := by
  unfold group
  split
  · exact List.infix_of_mem_flatten h
  · exact Layout.isInfix_separate h

/-- Where something is said about a value, something is written. -/
theorem sectionLines_ne_nil (hplain : style ≠ .plain) (hkind : kind = .returns ∨ kind = .yields)
    (hsome : (d.value kind).isSome = true) (width : Nat) : style.sectionLines d kind width ≠ [] := by
  obtain ⟨doc, hdoc⟩ := Option.isSome_iff_exists.mp hsome
  cases style
  case rest =>
    have hlines : ∀ name typeName, Rest.returnLines width name typeName doc ≠ [] := by
      intro name typeName
      obtain ⟨piece, others, hpieces, _⟩ := Layout.entryPieces_keeps 0 (':' :: name ++ [':'])
        (doc.description.getD []) width Rest.continuationIndent
      have hfield : Rest.fieldLines width (':' :: name ++ [':']) doc.description ≠ [] := by
        rw [Rest.fieldLines, Layout.hanging_eq_pieces _ _ _ _ _ hpieces]
        exact List.cons_ne_nil _ _
      cases htype : doc.type
      case none => simpa [Rest.returnLines, htype] using hfield
      case some => simp [Rest.returnLines, htype]
    rcases hkind with rfl | rfl
    · have hdoc : d.returns = some doc := hdoc
      simp [sectionLines, Rest.sectionLines, hdoc, hlines]
    · have hdoc : d.yields = some doc := hdoc
      simp [sectionLines, Rest.sectionLines, hdoc, hlines]
  case google =>
    rcases hkind with rfl | rfl
    · have hdoc : d.returns = some doc := hdoc
      simp [sectionLines, Google.sectionLines, Google.underHeader, hdoc]
    · have hdoc : d.yields = some doc := hdoc
      simp [sectionLines, Google.sectionLines, Google.underHeader, hdoc]
  case numpy =>
    change Numpy.sectionLines d kind width ≠ []
    rw [Numpy.sectionLines_of_value hkind hdoc]
    exact List.cons_ne_nil _ _
  case plain => exact absurd rfl hplain

section Between

variable {between : List Line} (hbetween : between = Layout.brokenUp (style.group
  (kinds.map fun kind => style.sectionLines d kind width)))

include hbetween

theorem isInfix_between (hmem : kind ∈ kinds) :
    Layout.brokenUp (style.sectionLines d kind width) <:+: between := by
  obtain ⟨first, last, hgroup⟩ := @isInfix_group style _ _
    (List.mem_map_of_mem (f := fun kind => style.sectionLines d kind width) hmem)
  refine ⟨Layout.brokenUp first, Layout.brokenUp last, ?_⟩
  rw [hbetween, ← hgroup, Layout.brokenUp_append, Layout.brokenUp_append]

/-- With lines around some sections, one below the first line starts with ink. -/
theorem exists_flush (haround : WrittenAround style kinds d width above front back below)
    (hlines : Layout.Surrounds up (Layout.brokenUp above) (Layout.brokenUp front)
      (Layout.brokenUp back) (Layout.brokenUp below) down)
    (hold : old = up ++ between ++ down) (hne : between ≠ []) (hmore : ¬(up = [] ∧ down = [])) :
    ∃ line ∈ old.tail, opensWithInk line = true := by
  have hheads : ∀ line ∈ between.head?, style.Heads line := by
    rw [hbetween]
    exact Layout.forall_head?_brokenUp
      (forall_head?_group (heads_map_sectionLines style d width kinds))
  obtain ⟨head, rest, rfl⟩ := List.exists_cons_of_ne_nil hne
  cases up with
  | cons top above => exact ⟨head, by simp [hold], (hheads head rfl).ink⟩
  | nil =>
    obtain ⟨line, hline, hink⟩ := haround.exists_ink_down hlines fun hdown => hmore ⟨rfl, hdown⟩
    exact ⟨line, by simp [hold, hline], hink⟩

end Between

section Opened

variable (hplain : style ≠ .plain) (hnormal : IsNormal old)
  (hparse : style.parse (joinLines old) = .ok d) (hcanonical : style.render d width = joinLines old)
  (hkind : kind = .returns ∨ kind = .yields)
  (hopens : style.opener.at? (normalLines (joinLines old)) i = some kind)

include hplain hnormal hparse hcanonical hkind hopens

/-- A line that opens a section on a value is written below the head, and for no other section. -/
theorem not_elsewhere_of_opened (hnumpy : style ≠ .numpy)
    (hflush : ∃ line ∈ old.tail, opensWithInk line = true) :
    (Layout.writtenHead d width).length ≤ i ∧ ∃ line, old[i]? = some line ∧
      ∀ kinds, kind ∈ kinds → ¬Elsewhere style kinds d width line := by
  have hwritten := isWritten_of_render hplain hnormal hparse hcanonical
  obtain ⟨line, hline, hink, hopened⟩ := Opener.at?_eq_some hopens
  have hsame : (Layout.writtenHead d width).length ≤ i → old[i]? = some line := fun hle => by
    rw [← List.head?_drop, ← hwritten.drop_eq hflush hle, List.head?_drop, hline]
  have hnot : (∀ other, line ∈ Layout.brokenUp (style.sectionLines d other width) → kind = other) →
      ∀ kinds, kind ∈ kinds → ¬Elsewhere style kinds d width line := by
    rintro hall kinds hmem (rfl | ⟨other, hother, hwritten⟩)
    · cases hink
    · exact hother (hall other hwritten ▸ hmem)
  cases style
  case rest =>
    rw [parse_rest] at hparse
    have hle := Rest.length_writtenHead_le hwritten hparse hopens
    exact ⟨hle, line, hsame hle, hnot fun other hmem => Rest.kind_of_opened
      (Rest.written_body hparse width) hwritten hparse hflush hkind hmem hopened⟩
  case google =>
    rw [parse_google] at hparse
    have hle := Google.length_writtenHead_le hwritten hparse hopens
    exact ⟨hle, line, hsame hle, hnot fun other hmem => Google.kind_of_opened hparse hmem hopened⟩
  case numpy => exact absurd rfl hnumpy
  case plain => exact absurd rfl hplain

/-- A section on a value is opened in the lines that are written for some sections with that one. -/
theorem inside_of_opened (haround : WrittenAround style kinds d width above front back below)
    (hlines : Layout.Surrounds up (Layout.brokenUp above) (Layout.brokenUp front)
      (Layout.brokenUp back) (Layout.brokenUp below) down)
    {between : List Line} (hbetween : between = Layout.brokenUp (style.group (kinds.map fun kind =>
      style.sectionLines d kind width)))
    (hold : old = up ++ between ++ down) (hmem : kind ∈ kinds) :
    up.length ≤ i ∧ i < up.length + between.length := by
  have hsome := (isSome_value_iff hkind hparse).mpr ⟨i, hopens⟩
  have hinfix := isInfix_between hbetween hmem
  by_cases hnumpy : style = .numpy
  · subst hnumpy
    obtain ⟨first, last, rfl⟩ := hinfix
    obtain ⟨m, hm, hfound⟩ := Numpy.exists_opened_of_value hkind hsome width first last
    have hshown : Shown (first ++ Layout.brokenUp (Numpy.sectionLines d kind width) ++ last ++ down)
        old up.length := by
      refine ⟨up, [], rfl, by simp, ?_⟩
      rw [List.append_nil, hold, List.append_assoc up]
      rfl
    obtain rfl := Numpy.eq_of_opened_value (isWritten_of_render hplain hnormal hparse hcanonical)
      hparse hkind hopens (Opener.at?_reread hnormal (Opener.at?_shown hshown (Opener.at?_append hfound)))
    exact ⟨Nat.le_add_right _ _, Nat.add_lt_add_left hm _⟩
  · by_contra hout
    have hsomeLines : between ≠ [] := by
      rintro rfl
      exact sectionLines_ne_nil hplain hkind hsome width
        (Layout.brokenUp_eq_nil.mp (List.infix_nil.mp hinfix))
    have hflush := exists_flush hbetween haround hlines hold hsomeLines fun ⟨hup, hdown⟩ => by
      have hlt := length_reread hnormal ▸ Opener.lt_length hopens
      rw [hold, hup, hdown] at hlt
      simp [hup] at hout hlt
      omega
    obtain ⟨hle, line, hline, hnot⟩ :=
      not_elsewhere_of_opened hplain hnormal hparse hcanonical hkind hopens hnumpy hflush
    refine hnot kinds hmem ?_
    rw [hold] at hline
    by_cases hlt : i < up.length
    · rw [List.append_assoc, List.getElem?_append_left hlt] at hline
      exact haround.elsewhere_up hlines hle hline
    · rw [List.getElem?_append_right (by rw [List.length_append]; omega)] at hline
      exact haround.elsewhere_down hlines (List.mem_of_getElem? hline)

end Opened

end Style

end Docstring
