-- Whatever is read from clean lines can be kept as it stands: what is left of them once margins and
-- blank lines at the ends are taken off is clean, with ink in the first and in the last line.
import Docstring.Proofs.Text.Prose

namespace Docstring.Text

variable {lines : List Line} {t : Text}

theorem isInfix_trimBlankLines (lines : List Line) : trimBlankLines lines <:+: lines :=
  (List.rdropWhile_prefix _ _).isInfix.trans (List.dropWhile_suffix _).isInfix

theorem isVerbatim_trimBlankLines (hclean : ∀ line ∈ lines, IsClean line)
    (hne : trimBlankLines lines ≠ []) : IsVerbatim (trimBlankLines lines) where
  opens := by
    obtain ⟨first, rest, hstart⟩ : ∃ first rest, dropBlankStart lines = first :: rest := by
      refine List.exists_cons_of_ne_nil fun hnil => hne ?_
      rw [trimBlankLines, hnil, dropBlankEnd_nil]
    have hink : isBlank first = false := by
      have hhead := List.head?_dropWhile_not isBlank lines
      rwa [← dropBlankStart, hstart] at hhead
    have hkept : dropBlankEnd (first :: rest) = first :: dropBlankEnd rest :=
      dropBlankEnd_append_ink [] rest hink
    rw [trimBlankLines, hstart, hkept]
    exact hink
  ends line hl := by
    have hlast : ¬isBlank ((trimBlankLines lines).getLast hne) = true :=
      List.rdropWhile_last_not isBlank (dropBlankStart lines) hne
    rw [Option.mem_def, List.getLast?_eq_getLast_of_ne_nil hne] at hl
    rwa [← Option.some.inj hl, ← Bool.not_eq_true]
  clean line hl := hclean line ((isInfix_trimBlankLines lines).subset hl)

/-- Prose that is joined from clean lines can be kept as it stands, and no line of it is new. -/
theorem isVerbatim_of_joinProse? (hclean : ∀ line ∈ lines, IsClean line)
    (h : joinProse? lines = some t) : IsVerbatim (splitLines t) ∧ splitLines t <:+: lines := by
  unfold joinProse? at h
  split at h
  · cases h
  · rename_i hne
    have hsplit : splitLines t = trimBlankLines lines := by
      rw [← Option.some.inj h, splitLines_joinLines hne]
      exact fun line hl => (hclean line ((isInfix_trimBlankLines lines).subset hl)).newline
    rw [hsplit]
    exact ⟨isVerbatim_trimBlankLines hclean hne, isInfix_trimBlankLines lines⟩

theorem isClean_of_mem_dedentBy {columns : Nat} {line : Line}
    (hclean : ∀ l ∈ lines, IsClean l) (h : line ∈ dedentBy columns lines) : IsClean line := by
  obtain ⟨k, hk⟩ := exists_dedentBy columns lines
  rw [hk] at h
  obtain ⟨inner, hinner, rfl⟩ := List.mem_map.mp h
  unfold unindent
  split
  · exact isClean_nil
  · exact isClean_stripColumns k (hclean inner hinner)

section Description

variable {first : Text} (hn : '\n' ∉ first) (hclean : ∀ line ∈ lines, IsClean line)
  (h : description? first lines = some t)

include hn hclean h

/-- A description of clean lines can be kept as it stands. -/
theorem isVerbatim_of_description? : IsVerbatim (splitLines t) := by
  refine (isVerbatim_of_joinProse? ?_ h).1
  split
  · exact hclean
  · exact List.forall_mem_cons.mpr ⟨isClean_trim hn, hclean⟩

/-- Below its first line, a description has lines that stand below its start. -/
theorem tail_subset_of_description? : (splitLines t).tail ⊆ lines := by
  unfold description? at h
  dsimp only at h
  split at h
  · exact List.Subset.trans (List.tail_suffix _).subset (isVerbatim_of_joinProse? hclean h).2.subset
  · have hall : ∀ line ∈ trim first :: lines, IsClean line :=
      List.forall_mem_cons.mpr ⟨isClean_trim hn, hclean⟩
    rcases List.infix_cons_iff.mp (isVerbatim_of_joinProse? hall h).2 with ⟨more, hmore⟩ | hinfix
    · obtain ⟨line, rest, hsplit⟩ := List.exists_cons_of_ne_nil (splitLines_ne_nil t)
      rw [hsplit] at hmore ⊢
      exact List.IsPrefix.subset ⟨more, (List.cons.inj hmore).2⟩
    · exact List.Subset.trans (List.tail_suffix _).subset hinfix.subset

end Description

end Docstring.Text
