-- A section on a value is written into a docstring, between empty lines and in place of some others.
-- What is opened afterwards was opened outside of these, or it is opened by the section.
import Docstring.Proofs.Document.Value

namespace Docstring

open Text

/-! ## Where a section is written -/

/-- New lines that come after `first` others: some lines between empty ones. Above them there is none
where they come first. -/
def Spaced (first : Nat) (lines new : List Line) : Prop :=
  ∃ above below : List Line, (∀ line ∈ above, line = []) ∧ (∀ line ∈ below, line = []) ∧
    (first = 0 → above = []) ∧ new = above ++ lines ++ below

theorem spaced_self (first : Nat) (lines : List Line) : Spaced first lines lines :=
  ⟨[], [], by simp⟩

theorem spaced_below {first : Nat} {gap : List Line} (lines : List Line)
    (hgap : ∀ line ∈ gap, line = []) (hpos : 0 < first) : Spaced first lines (gap ++ lines) :=
  ⟨gap, [], hgap, by simp, fun hzero => absurd hzero hpos.ne', (List.append_nil _).symm⟩

theorem spaced_above (first : Nat) {gap : List Line} (lines : List Line)
    (hgap : ∀ line ∈ gap, line = []) : Spaced first lines (lines ++ gap) :=
  ⟨[], gap, by simp, hgap, fun _ => rfl, rfl⟩

section Spaced

variable {first : Nat} {lines new : List Line} (h : Spaced first lines new)

include h

theorem Spaced.isClean (hclean : ∀ line ∈ lines, IsClean line) : ∀ line ∈ new, IsClean line := by
  obtain ⟨above, below, habove, hbelow, _, rfl⟩ := h
  intro line hline
  simp only [List.mem_append] at hline
  rcases hline with (hline | hline) | hline
  · exact habove line hline ▸ isClean_nil
  · exact hclean line hline
  · exact hbelow line hline ▸ isClean_nil

theorem Spaced.mem {line : Line} (hline : line ∈ lines) : line ∈ new := by
  obtain ⟨above, below, _, _, _, rfl⟩ := h
  simp [hline]

theorem Spaced.mem_of_ne_nil {line : Line} (hline : line ∈ new) (hne : line ≠ []) : line ∈ lines := by
  obtain ⟨above, below, habove, hbelow, _, rfl⟩ := h
  simp only [List.mem_append] at hline
  rcases hline with (hline | hline) | hline
  · exact absurd (habove line hline) hne
  · exact hline
  · exact absurd (hbelow line hline) hne

theorem Spaced.exists_head {P : Line → Prop} (hhead : ∃ line ∈ lines.head?, P line)
    (hfirst : first = 0) : ∃ line ∈ new.head?, P line := by
  obtain ⟨above, below, _, _, hfront, rfl⟩ := h
  obtain ⟨line, hline, hp⟩ := hhead
  refine ⟨line, ?_, hp⟩
  rw [hfront hfirst, List.nil_append, List.head?_append, Option.mem_def.mp hline]
  rfl

end Spaced

namespace Opener

variable {o : Opener} {kind : SectionKind}

/-- Where lines are found again, every section is opened that they open. -/
theorem at?_shown {lines all : List Line} {place n : Nat} (hshown : Shown lines all place)
    (h : o.at? lines n = some kind) : o.at? all (place + n) = some kind := by
  refine at?_of_getElem? h (fun line hline => ?_) fun line hline hcompletes => ?_
  · obtain ⟨line', hline', hink, _⟩ := at?_eq_some h
    obtain rfl : line' = line := Option.some.inj (hline'.symm.trans hline)
    exact hshown.getElem? hline' (ne_nil_of_opensWithInk hink)
  · exact hshown.getElem? hline (ne_nil_of_opensWithInk (o.ink_of_completes hcompletes))

theorem not_completes_nil : ¬o.completes [] :=
  fun h => absurd (o.ink_of_completes h) (by decide)

/-- Lines below empty ones complete no title there that they would not complete alone. -/
theorem not_completes_head?_append {empty rest : List Line} (hempty : ∀ line ∈ empty, line = [])
    (hrest : ∀ line ∈ rest.head?, ¬o.completes line) :
    ∀ line ∈ (empty ++ rest).head?, ¬o.completes line := by
  cases empty with
  | nil => exact hrest
  | cons first more =>
    rintro line ⟨⟩
    rw [hempty first List.mem_cons_self]
    exact not_completes_nil

/-- In empty lines nothing is opened, so what is opened in lines between them is opened by those. -/
theorem exists_opened_between {above lines below rest : List Line} {j : Nat}
    (habove : ∀ line ∈ above, line = []) (hbelow : ∀ line ∈ below, line = [])
    (hj : j < (above ++ lines ++ below).length)
    (h : o.at? (above ++ lines ++ below ++ rest) j = some kind) :
    ∃ m < lines.length, j = above.length + m ∧ o.at? (lines ++ (below ++ rest)) m = some kind := by
  obtain ⟨opening, hopening, hopens, _⟩ := at?_eq_some h
  have hne : opening ≠ [] := ne_nil_of_opensWithInk hopens
  rw [List.getElem?_append_left hj] at hopening
  have hle : above.length ≤ j := by
    by_contra hlt
    rw [List.append_assoc, List.getElem?_append_left (by omega)] at hopening
    exact hne (habove opening (List.mem_of_getElem? hopening))
  obtain ⟨m, rfl⟩ := Nat.exists_eq_add_of_le hle
  refine ⟨m, ?_, rfl, at?_of_shown ⟨above, [], rfl, by simp, by simp⟩ h⟩
  by_contra hge
  rw [List.getElem?_append_right (by simp; omega)] at hopening
  exact hne (hbelow opening (List.mem_of_getElem? hopening))

section Rewritten

variable {typed fitting : List Line → Nat → Prop}
  (htyped : ∀ {lines all place j}, Shown lines all place → typed lines j → typed all (place + j))
  (hfitting : ∀ {lines all place j}, Shown lines all place → fitting lines j →
    fitting all (place + j))

include htyped hfitting

/-- A section that says a type is read among other lines: the type is said, and what else is opened
there is opened by these lines. -/
theorem opened_of_read {base new lines all empty : List Line} {first last : Nat}
    (hclean : ∀ line ∈ base, IsClean line) (hlines : o.IsSection typed fitting kind lines)
    (hspaced : Spaced first lines new) (hfirst : first ≤ base.length)
    (hclosed : ∀ line ∈ base[last]?, ¬o.completes line) (hempty : ∀ line ∈ empty, line = [])
    (hread : (trimFirst base).take first ++ (new ++ base.drop last) = all ++ empty) :
    (∃ i, o.at? all i = some kind ∧ typed all i) ∧
      ∀ i other, o.at? all i = some other → (other = kind ∧ fitting all i) ∨
        ∃ j, (j < first ∨ last ≤ j) ∧ o.at? (trimFirst base) j = some other := by
  obtain ⟨above, below, habove, hbelow, hfront, rfl⟩ := hspaced
  obtain ⟨line, hline, hink, hcompletes⟩ := hlines.head
  have hne : lines ≠ [] := by
    rintro rfl
    cases hline
  have hlength : ((trimFirst base).take first).length = first := by simp [hfirst]
  have hshown : Shown (lines ++ (below ++ base.drop last)) all (first + above.length) :=
    ⟨(trimFirst base).take first ++ above, empty, by simp [hlength], hempty,
      by rw [← hread]; simp [List.append_assoc]⟩
  have hrest : ∀ l ∈ (below ++ base.drop last).head?, ¬o.completes l :=
    not_completes_head?_append hbelow (by rwa [List.head?_drop])
  have hhead : ∀ l ∈ (above ++ lines ++ below).head?, ¬o.completes l := by
    rw [List.append_assoc]
    refine not_completes_head?_append habove fun l hl => ?_
    rw [List.head?_append, Option.mem_def.mp hline] at hl
    exact Option.some.inj hl ▸ hcompletes
  constructor
  · obtain ⟨j, _, hopens, hsaid⟩ := hlines.said _ hrest
    exact ⟨_, at?_shown hshown hopens, htyped hshown hsaid⟩
  · intro i other hopens
    have hwhole : o.at? (all ++ empty) i = some other := at?_append hopens
    rw [← hread] at hwhole
    rcases at?_replaced hclean hfirst (by simp [hne]) hhead hwhole with hold | ⟨j, hj, rfl, hnew⟩
    · exact .inr hold
    · obtain ⟨m, hm, rfl, hsame⟩ := exists_opened_between habove hbelow hj hnew
      obtain ⟨hkind, hfits⟩ := hlines.opened _ hrest m hm other hsame
      exact .inl ⟨hkind, by rw [← Nat.add_assoc]; exact hfitting hshown hfits⟩

/-- Once a section that says a type is written, the type is said, and other sections are opened only
outside of the lines that it took the place of. -/
theorem opened_rewritten {old new lines : List Line} {first last : Nat} (hnormal : IsNormal old)
    (hlines : o.IsSection typed fitting kind lines) (hspaced : Spaced first lines new)
    (hfirst : first ≤ old.length) (hclosed : ∀ line ∈ old[last]?, ¬o.completes line)
    (hmargin : (bodyMargin? (old.take first ++ new ++ old.drop last)).getD 0 = 0)
    {all : List Line} (hall : all =
      normalLines (joinLines (trimEmptyLines (old.take first ++ new ++ old.drop last)))) :
    (∃ i, o.at? all i = some kind ∧ typed all i) ∧
      ∀ i other, o.at? all i = some other → (other = kind ∧ fitting all i) ∨
        ∃ j, (j < first ∨ last ≤ j) ∧ o.at? (normalLines (joinLines old)) j = some other := by
  obtain ⟨empty, hempty, hread⟩ := exists_below_of_replaced hnormal (hspaced.isClean hlines.clean)
    hfirst
    (hspaced.exists_head (hlines.head.imp fun _ h => ⟨h.1, h.2.1⟩)) hmargin
  rw [← hall] at hread
  obtain ⟨hsaid, hopened⟩ := opened_of_read htyped hfitting hnormal.clean hlines hspaced hfirst
    hclosed hempty hread
  refine ⟨hsaid, fun i other hopens => (hopened i other hopens).imp_right ?_⟩
  rintro ⟨j, hj, hold⟩
  exact ⟨j, hj, at?_normalLines_joinLines hnormal hold⟩

/-- The same for a section of one line that comes first, where the lines below keep the margin that
they had. -/
theorem opened_shifted {old : List Line} {line : Line} {last : Nat} (hnormal : IsNormal old)
    (hlines : o.IsSection typed fitting kind [line]) (hlast : 0 < last)
    (hclosed : ∀ line ∈ (normalLines (joinLines old))[last]?, ¬o.completes line)
    (hmargin : (bodyMargin? (line :: old.drop last)).getD 0 = (bodyMargin? old).getD 0)
    {all : List Line} (hall : all = normalLines (joinLines (trimEmptyLines (line :: old.drop last)))) :
    (∃ i, o.at? all i = some kind ∧ typed all i) ∧
      ∀ i other, o.at? all i = some other → (other = kind ∧ fitting all i) ∨
        ∃ j, last ≤ j ∧ o.at? (normalLines (joinLines old)) j = some other := by
  obtain ⟨_, ⟨⟩, hink, _⟩ := hlines.head
  have hline : IsClean line := hlines.clean line (by simp)
  have hclean : ∀ l ∈ line :: old.drop last, IsClean l :=
    List.forall_mem_cons.mpr ⟨hline, fun l hl => hnormal.clean l (List.mem_of_mem_drop hl)⟩
  obtain ⟨empty, hempty, hread⟩ := exists_below_of_clean (ne_nil_of_opensWithInk hink) hclean
  have hdrop : (old.drop last).map (stripColumns ((bodyMargin? old).getD 0)) =
      (normalLines (joinLines old)).drop last := by
    cases old with
    | nil =>
      have hnil : normalLines (joinLines []) = [] := by decide
      rw [hnil, List.drop_nil, List.map_nil]
    | cons first rest =>
      obtain ⟨n, rfl⟩ := Nat.exists_eq_succ_of_ne_zero hlast.ne'
      rw [normalLines_joinLines_of_normal hnormal, List.drop_succ_cons, List.drop_succ_cons,
        List.map_drop]
  have htrimmed : trimFirst (normalLines (joinLines old)) = normalLines (joinLines old) := by
    cases old with
    | nil => rfl
    | cons first rest =>
      rw [normalLines_joinLines_of_normal hnormal, trimFirst, trim_trim]
  rw [hmargin, hdrop, trim_of_ink hink hline.trimmed, ← hall] at hread
  have hspaced := spaced_self 0 [line]
  obtain ⟨hsaid, hopened⟩ := opened_of_read htyped hfitting
    (isNormal_normalLines (joinLines old)).clean hlines hspaced (Nat.zero_le _) hclosed hempty hread
  refine ⟨hsaid, fun i other hopens => (hopened i other hopens).imp_right ?_⟩
  rintro ⟨j, hj, hold⟩
  exact ⟨j, hj.resolve_left (Nat.not_lt_zero j), htrimmed ▸ hold⟩

end Rewritten

theorem lt_length {lines : List Line} {i : Nat} (h : o.at? lines i = some kind) : i < lines.length := by
  obtain ⟨line, hline, _⟩ := at?_eq_some h
  exact (List.getElem?_eq_some_iff.mp hline).1

/-- A section that normal lines open is found when they are read again. -/
theorem at?_reread {lines : List Line} {i : Nat} (hnormal : IsNormal lines)
    (h : o.at? lines i = some kind) : o.at? (normalLines (joinLines lines)) i = some kind := by
  refine at?_of_getElem? h (fun line hline => ?_) fun line hline hcompletes => ?_
  · obtain ⟨line', hline', hink, _⟩ := at?_eq_some h
    obtain rfl : line' = line := Option.some.inj (hline'.symm.trans hline)
    exact getElem?_normalLines_joinLines hnormal hline' hink
  · exact getElem?_normalLines_joinLines hnormal hline (o.ink_of_completes hcompletes)

end Opener

end Docstring
