-- Expanding the tabs of a line makes it clean, and taking columns off a clean line leaves a clean
-- line that is indented by so much less.
import Docstring.Proofs.Text.Block

namespace Docstring.Text

/-! ## White space at the end of a line -/

theorem trimEnd_trimEnd (t : Text) : trimEnd (trimEnd t) = trimEnd t :=
  List.rdropWhile_idempotent _ _

theorem mem_of_mem_trimEnd {t : Text} {c : Char} (h : c ∈ trimEnd t) : c ∈ t :=
  (List.rdropWhile_prefix _ t).subset h

theorem isBlank_trimEnd (t : Text) : isBlank (trimEnd t) = isBlank t := by
  rw [Bool.eq_iff_iff]
  constructor
  · intro h
    have hnil : trimEnd t = [] := eq_nil_of_blank (trimEnd_trimEnd t) h
    exact List.all_eq_true.mpr (List.rdropWhile_eq_nil_iff.mp hnil)
  · intro h
    exact List.all_eq_true.mpr fun c hc => List.all_eq_true.mp h c (mem_of_mem_trimEnd hc)

/-- The end of a text that has no white space at its end has none, either. -/
theorem trimEnd_of_suffix {s t : Text} (h : trimEnd t = t) (hs : s <:+ t) : trimEnd s = s := by
  obtain ⟨above, rfl⟩ := hs
  rcases List.eq_nil_or_concat' s with rfl | ⟨init, last, rfl⟩
  · rfl
  · have hlast := List.rdropWhile_eq_self_iff.mp h (by simp)
    rw [List.getLast_append_of_ne_nil (by simp) (by simp), List.getLast_concat] at hlast
    exact List.rdropWhile_concat_neg _ _ _ hlast

/-! ## Clean lines -/

/-- A line is its indentation and a rest that is not indented. -/
theorem exists_indented (line : Line) :
    ∃ rest, line = indentOf line ++ rest ∧ indentOf rest = [] := by
  refine ⟨line.dropWhile isIndent, List.takeWhile_append_dropWhile.symm, ?_⟩
  rw [indentOf, List.takeWhile_eq_nil_iff]
  intro hlength hindent
  have hne : line.dropWhile isIndent ≠ [] := List.ne_nil_of_length_pos hlength
  have hhead := List.head_dropWhile_not isIndent hne
  rw [List.head_eq_getElem] at hhead
  exact absurd (hindent.symm.trans hhead) (by simp)

theorem drop_length_indentOf {line rest : Line} (h : line = indentOf line ++ rest) :
    line.drop (indentOf line).length = rest := by
  have hleft := @List.drop_left _ (indentOf line) rest
  rwa [← h] at hleft

theorem isBlank_indentOf (line : Line) : isBlank (indentOf line) = true :=
  List.all_eq_true.mpr fun _ hc => isSpace_of_isIndent (List.mem_takeWhile_imp hc)

theorem isBlank_expandTabs (line : Line) : isBlank (expandTabs line) = isBlank line := by
  unfold expandTabs
  split
  · obtain ⟨rest, hline, _⟩ := exists_indented line
    have hblank : isBlank line = isBlank rest := by
      conv => lhs; rw [hline]
      rw [isBlank, List.all_append, ← isBlank, ← isBlank, isBlank_indentOf, Bool.true_and]
    rw [drop_length_indentOf hline, isBlank_spaces_append, hblank]
  · rfl

/-- What is left of a line without white space at its end, once its tabs are expanded. -/
theorem isClean_expandTabs {line : Line} (hn : '\n' ∉ line) (ht : trimEnd line = line) :
    IsClean (expandTabs line) := by
  unfold expandTabs
  split
  · rename_i htab
    obtain ⟨rest, hline, hrest⟩ := exists_indented line
    have hclean : IsClean rest := by
      refine ⟨?_, trimEnd_of_suffix ht ⟨_, hline.symm⟩, by simp [hrest]⟩
      intro hmem
      exact hn (by rw [hline]; simp [hmem])
    have hne : rest ≠ [] := by
      rintro rfl
      have hblank : isBlank line = true := by
        rw [hline, List.append_nil, isBlank_indentOf]
      rw [eq_nil_of_blank ht hblank] at htab
      simp [indentOf] at htab
    rw [drop_length_indentOf hline]
    exact isClean_spaces_append _ hclean hne
  · rename_i htab
    exact ⟨hn, ht, htab⟩

theorem isClean_trim {line : Line} (hn : '\n' ∉ line) : IsClean (trim line) := by
  refine ⟨fun h => hn (mem_of_mem_trim h), trimEnd_trimEnd _, ?_⟩
  by_cases hne : trim line = []
  · simp [hne, indentOf]
  · simp [indentOf_of_opensWithInk (ink_of_trim (trim_trim line) hne).1]

/-! ## Taking columns off -/

theorem stripColumns_suffix (columns : Nat) (line : Line) : stripColumns columns line <:+ line := by
  fun_induction stripColumns columns line with
  | case1 columns rest ih => exact ih.trans (List.suffix_cons _ _)
  | case2 => exact List.suffix_refl _

theorem isClean_stripColumns {line : Line} (columns : Nat) (h : IsClean line) :
    IsClean (stripColumns columns line) := by
  have hsuffix := stripColumns_suffix columns line
  refine ⟨fun hmem => h.newline (hsuffix.subset hmem), trimEnd_of_suffix h.trimmed hsuffix, ?_⟩
  have htab := h.tab
  clear h hsuffix
  fun_induction stripColumns columns line with
  | case1 columns rest ih =>
    apply ih
    intro hmem
    exact htab (by simpa [indentOf, isIndent] using hmem)
  | case2 => exact htab

/-- Only white space is taken off. -/
theorem trim_stripColumns (columns : Nat) (line : Line) :
    trim (stripColumns columns line) = trim line := by
  fun_induction stripColumns columns line with
  | case1 columns rest ih => rw [ih, trim_space_cons rest isSpace_space]
  | case2 => rfl

theorem trimStart_stripColumns (columns : Nat) (line : Line) :
    trimStart (stripColumns columns line) = trimStart line := by
  fun_induction stripColumns columns line with
  | case1 columns rest ih => exact ih.trans (List.dropWhile_cons_of_pos isSpace_space).symm
  | case2 => rfl

theorem isBlank_stripColumns (columns : Nat) (line : Line) :
    isBlank (stripColumns columns line) = isBlank line := by
  rw [← isBlank_trim, trim_stripColumns, isBlank_trim]

/-- A line without tabs in its indentation loses columns one by one. -/
theorem indentWidth_stripColumns {line : Line} (columns : Nat) (h : '\t' ∉ indentOf line) :
    indentWidth (stripColumns columns line) = indentWidth line - columns := by
  fun_induction stripColumns columns line with
  | case1 columns rest ih =>
    have hrest : '\t' ∉ indentOf rest := by
      intro hmem
      exact h (by simpa [indentOf, isIndent] using hmem)
    have hwidth : indentWidth (' ' :: rest) = 1 + indentWidth rest :=
      indentWidth_spaces_append 1 hrest
    rw [ih hrest, hwidth]
    omega
  | case2 columns line hstop =>
    cases columns with
    | zero => rfl
    | succ columns =>
      cases line with
      | nil => simp [indentWidth, indentOf]
      | cons c rest =>
        have hspace : c ≠ ' ' := fun hc => hstop columns rest rfl (by rw [hc])
        have htab : c ≠ '\t' := fun hc => h (by simp [indentOf, isIndent, hc])
        have hnone : indentOf (c :: rest) = [] := by simp [indentOf, isIndent, hspace, htab]
        simp [indentWidth, hnone]

end Docstring.Text
