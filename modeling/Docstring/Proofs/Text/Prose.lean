-- Prose keeps its lines. Taking off a margin, dropping blank lines at the ends and joining lines
-- changes no line beyond the white space at its ends.
import Docstring.Document.Entry
import Docstring.Proofs.Text.Margin
import Docstring.Proofs.Text.Whole

namespace Docstring.Text

/-! ## Lines of a text -/

/-- A text has a line, white space at the ends of the line apart. -/
def Says (t : Text) (line : Line) : Prop := ∃ l ∈ splitLines t, trim l = trim line

instance (t : Text) (line : Line) : Decidable (t.Says line) :=
  inferInstanceAs (Decidable (∃ l ∈ splitLines t, trim l = trim line))

variable {s t : Text} {line : Line} {lines : List Line}

theorem says_of_trim_eq (hn : '\n' ∉ t) (h : trim t = trim line) : t.Says line :=
  ⟨t, by simp [splitLines_of_notMem hn], h⟩

theorem isBlank_of_trim_eq (h : trim s = trim t) : isBlank s = isBlank t := by
  rw [← isBlank_trim, h, isBlank_trim]

/-- A text that has a line of ink has ink. -/
theorem Says.not_blank (h : t.Says line) (hink : isBlank line = false) : isBlank t = false := by
  obtain ⟨l, hl, htrim⟩ := h
  rw [isBlank_eq_all, List.all_eq_false]
  exact ⟨l, hl, by simp [isBlank_of_trim_eq htrim, hink]⟩

theorem says_newline_append : Says (s ++ '\n' :: t) line ↔ s.Says line ∨ t.Says line := by
  simp [Says, splitLines_newline_append, or_and_right, exists_or]

/-! ## White space at the ends of a text -/

theorem trim_append_isSpace {c : Char} (t : Text) (hc : isSpace c = true) :
    trim (t ++ [c]) = trim t := by
  unfold trim trimStart
  rw [List.dropWhile_append]
  split
  · rename_i hnil
    rw [List.isEmpty_iff] at hnil
    simp [hc, hnil]
  · exact List.rdropWhile_concat_pos _ _ _ hc

theorem Says.tail {c : Char} (h : Says (c :: t) line) (hc : isSpace c = true)
    (hink : isBlank line = false) : t.Says line := by
  by_cases hn : c = '\n'
  · subst hn
    have hsplit : Says ([] ++ '\n' :: t) line := h
    rcases says_newline_append.mp hsplit with hnil | ht
    · exact absurd (hnil.not_blank hink) (by decide)
    · exact ht
  · obtain ⟨l, hl, htrim⟩ := h
    obtain ⟨first, rest, ht, hcons⟩ := splitLines_cons hn t
    rw [hcons, List.mem_cons] at hl
    rcases hl with rfl | hl
    · exact ⟨first, by simp [ht], by rw [← htrim, trim_space_cons _ hc]⟩
    · exact ⟨l, by simp [ht, hl], htrim⟩

theorem Says.init {c : Char} (h : Says (t ++ [c]) line) (hc : isSpace c = true)
    (hink : isBlank line = false) : t.Says line := by
  by_cases hn : c = '\n'
  · subst hn
    rcases says_newline_append.mp h with ht | hnil
    · exact ht
    · exact absurd (hnil.not_blank hink) (by decide)
  · -- Only the line after the last newline changes.
    obtain ⟨whole, part, rfl, hwhole, hpart, _⟩ := lineStart?_append t []
    have hlast : Says (part ++ [c]) line → Says part line := by
      rintro ⟨l, hl, htrim⟩
      have hsplit : splitLines (part ++ [c]) = [part ++ [c]] :=
        splitLines_of_notMem (by simp [hpart, Ne.symm hn])
      rw [hsplit, List.mem_singleton] at hl
      rw [hl, trim_append_isSpace part hc] at htrim
      exact says_of_trim_eq hpart htrim
    rcases hwhole.cases with rfl | ⟨above, rfl⟩
    · exact hlast h
    · have hsplit : Says (above ++ '\n' :: (part ++ [c])) line := by simpa using h
      have hjoin : Says (above ++ '\n' :: part) line :=
        says_newline_append.mpr ((says_newline_append.mp hsplit).imp_right hlast)
      simpa using hjoin

theorem says_trimStart (h : t.Says line) (hink : isBlank line = false) :
    (trimStart t).Says line := by
  induction t with
  | nil => exact h
  | cons c t ih =>
    by_cases hc : isSpace c = true
    · rw [trimStart, List.dropWhile_cons_of_pos hc]
      exact ih (h.tail hc hink)
    · rwa [trimStart, List.dropWhile_cons_of_neg hc]

theorem says_trimEnd (h : t.Says line) (hink : isBlank line = false) : (trimEnd t).Says line := by
  induction t using List.reverseRecOn with
  | nil => exact h
  | append_singleton t c ih =>
    by_cases hc : isSpace c = true
    · have hdrop : trimEnd (t ++ [c]) = trimEnd t := List.rdropWhile_concat_pos _ _ _ hc
      rw [hdrop]
      exact ih (h.init hc hink)
    · have hkeep : trimEnd (t ++ [c]) = t ++ [c] := List.rdropWhile_concat_neg _ _ _ hc
      rwa [hkeep]

theorem says_trim (h : t.Says line) (hink : isBlank line = false) : (trim t).Says line :=
  says_trimEnd (says_trimStart h hink) hink

/-! ## Blank lines -/

theorem mem_dropBlankStart {l : Line} (h : l ∈ lines) (hink : isBlank l = false) :
    l ∈ dropBlankStart lines := by
  rw [← @List.takeWhile_append_dropWhile _ isBlank lines, List.mem_append] at h
  rcases h with hblank | hrest
  · exact absurd (List.mem_takeWhile_imp hblank) (by simp [hink])
  · exact hrest

theorem mem_dropBlankEnd {l : Line} (h : l ∈ lines) (hink : isBlank l = false) :
    l ∈ dropBlankEnd lines :=
  List.mem_reverse.mpr (mem_dropBlankStart (List.mem_reverse.mpr h) hink)

/-- Nothing is dropped up to a line of ink. -/
theorem dropBlankEnd_append_ink {l : Line} (above below : List Line) (hink : isBlank l = false) :
    dropBlankEnd (above ++ l :: below) = above ++ l :: dropBlankEnd below :=
  rdropWhile_append_cons above below (by simp [hink])

theorem mem_trimBlankLines {l : Line} (h : l ∈ lines) (hink : isBlank l = false) :
    l ∈ trimBlankLines lines :=
  mem_dropBlankEnd (mem_dropBlankStart h hink) hink

/-! ## Joined lines -/

theorem splitLines_joinLines_eq_flatMap (hne : lines ≠ []) :
    splitLines (joinLines lines) = lines.flatMap splitLines := by
  induction lines with
  | nil => exact absurd rfl hne
  | cons l lines ih =>
    by_cases hrest : lines = []
    · simp [hrest]
    · rw [joinLines_cons l hrest, splitLines_newline_append, ih hrest, List.flatMap_cons]

theorem says_joinLines {l : Text} (h : l.Says line) (hl : l ∈ lines) :
    (joinLines lines).Says line := by
  obtain ⟨x, hx, htrim⟩ := h
  refine ⟨x, ?_, htrim⟩
  rw [splitLines_joinLines_eq_flatMap (List.ne_nil_of_mem hl)]
  exact List.mem_flatMap.mpr ⟨l, hl, hx⟩

/-- Prose has the lines that it is joined from. -/
theorem says_joinProse? {l : Text} (h : l.Says line) (hl : l ∈ lines)
    (hink : isBlank line = false) : ∃ t, joinProse? lines = some t ∧ t.Says line := by
  have hkept : l ∈ trimBlankLines lines := mem_trimBlankLines hl (h.not_blank hink)
  refine ⟨_, ?_, says_joinLines h hkept⟩
  unfold joinProse?
  split
  · rename_i hnil
    rw [hnil] at hkept
    exact absurd hkept (by simp)
  · rfl

theorem says_description? {l first : Text} (h : l.Says line) (hl : l ∈ lines)
    (hink : isBlank line = false) : ∃ t, description? first lines = some t ∧ t.Says line := by
  apply says_joinProse? h _ hink
  split
  · exact hl
  · exact List.mem_cons_of_mem _ hl

/-! ## Margins -/

theorem exists_dedentBy (columns : Nat) (lines : List Line) :
    ∃ k, dedentBy columns lines = lines.map (unindent k) := by
  unfold dedentBy
  split
  · exact ⟨columns, rfl⟩
  · exact ⟨_, rfl⟩

theorem trim_unindent (columns : Nat) (line : Line) : trim (unindent columns line) = trim line := by
  unfold unindent
  split
  · rename_i hblank
    have hnil : trim line = [] :=
      eq_nil_of_blank (trimEnd_trimEnd _) ((isBlank_trim line).trans hblank)
    rw [hnil]
    rfl
  · exact trim_stripColumns columns line

theorem isBlank_unindent (columns : Nat) (line : Line) :
    isBlank (unindent columns line) = isBlank line :=
  isBlank_of_trim_eq (trim_unindent columns line)

theorem newline_notMem_unindent (columns : Nat) (hn : '\n' ∉ line) :
    '\n' ∉ unindent columns line := by
  unfold unindent
  split
  · simp
  · exact fun h => hn ((stripColumns_suffix columns line).subset h)

theorem says_unindent (columns : Nat) (hn : '\n' ∉ line) : (unindent columns line).Says line :=
  says_of_trim_eq (newline_notMem_unindent columns hn) (trim_unindent columns line)

/-- A margin is taken off prose without a change to its lines. -/
theorem says_joinProse?_dedentBy {l : Line} (columns : Nat) (hl : l ∈ lines) (hn : '\n' ∉ l)
    (h : trim l = trim line) (hink : isBlank line = false) :
    ∃ t, joinProse? (dedentBy columns lines) = some t ∧ t.Says line := by
  obtain ⟨k, hk⟩ := exists_dedentBy columns lines
  have hheld : (unindent k l).Says line :=
    says_of_trim_eq (newline_notMem_unindent k hn) ((trim_unindent k l).trans h)
  exact says_joinProse? hheld (hk ▸ List.mem_map_of_mem hl) hink

theorem says_description?_dedentBy {l : Line} (first : Text) (columns : Nat) (hl : l ∈ lines)
    (hn : '\n' ∉ l) (h : trim l = trim line) (hink : isBlank line = false) :
    ∃ t, description? first (dedentBy columns lines) = some t ∧ t.Says line := by
  obtain ⟨k, hk⟩ := exists_dedentBy columns lines
  have hheld : (unindent k l).Says line :=
    says_of_trim_eq (newline_notMem_unindent k hn) ((trim_unindent k l).trans h)
  exact says_description? hheld (hk ▸ List.mem_map_of_mem hl) hink

/-- Below a line of ink, a line is not the first one. -/
theorem exists_trimBlankLines {above : List Line} {l : Line} (below : List Line)
    (habove : above.all isBlank = false) (hink : isBlank l = false) :
    ∃ first rest, trimBlankLines (above ++ l :: below) = first :: rest ∧ l ∈ rest := by
  induction above with
  | nil => simp at habove
  | cons x above ih =>
    by_cases hx : isBlank x = true
    · rw [List.cons_append, trimBlankLines_blank_cons _ hx]
      exact ih (by simpa [hx] using habove)
    · rw [Bool.not_eq_true] at hx
      have hkeep : dropBlankStart (x :: above ++ l :: below) = x :: above ++ l :: below :=
        List.dropWhile_cons_of_neg (by simp [hx])
      refine ⟨x, dropBlankEnd (above ++ l :: below), ?_, mem_dropBlankEnd (by simp) hink⟩
      rw [trimBlankLines, hkeep]
      exact dropBlankEnd_append_ink [] (above ++ l :: below) hx

/-- A description has a line below its first one, if that one has ink. -/
theorem says_description?_below {first l : Text} {above : List Line} (below : List Line)
    (h : l.Says line) (hink : isBlank line = false)
    (habove : isBlank first = false ∨ above.all isBlank = false) :
    ∃ u v, description? first (above ++ l :: below) = some (u ++ '\n' :: v) ∧ Says v line := by
  have hprose : ∀ above : List Line, above.all isBlank = false →
      ∃ u v, joinProse? (above ++ l :: below) = some (u ++ '\n' :: v) ∧ Says v line := by
    intro above habove
    obtain ⟨u, rest, htrim, hmem⟩ := exists_trimBlankLines below habove (h.not_blank hink)
    refine ⟨u, joinLines rest, ?_, says_joinLines h hmem⟩
    simp [joinProse?, htrim, joinLines_cons u (List.ne_nil_of_mem hmem)]
  simp only [description?]
  split
  · rename_i hempty
    have hblank : isBlank first = true := by
      rw [← isBlank_trim, List.isEmpty_iff.mp hempty]
      rfl
    exact hprose above (habove.resolve_left (by simp [hblank]))
  · rename_i hne
    refine hprose (trim first :: above) ?_
    have hfirst : isBlank (trim first) = false := by
      by_contra hblank
      rw [Bool.not_eq_false] at hblank
      exact hne (List.isEmpty_iff.mpr (eq_nil_of_blank (trimEnd_trimEnd _) hblank))
    simp [hfirst]

/-- Cutting a text at its first white space leaves all lines but the first one whole. -/
theorem exists_cutAt?_newline (u v : Text) :
    ∃ left right, cutAt? isSpace (u ++ '\n' :: v) = some (left, right) ∧
      ∀ line, v.Says line → right.Says line := by
  induction u with
  | nil => exact ⟨[], v, rfl, fun _ h => h⟩
  | cons c u ih =>
    by_cases hc : isSpace c = true
    · refine ⟨[], u ++ '\n' :: v, by simp [cutAt?, hc], fun _ h => ?_⟩
      exact says_newline_append.mpr (Or.inr h)
    · obtain ⟨left, right, hcut, hright⟩ := ih
      exact ⟨c :: left, right, by simp [cutAt?, hc, hcut], hright⟩

end Docstring.Text
