-- Blocks of lines. A block starts with ink at the first column and ends with ink, so that it can
-- be shifted, joined and taken apart again without loss.
import Docstring.Proofs.Text.Lines
import Docstring.Proofs.Text.Trim
import Mathlib.Tactic.MkIffOfInductiveProp

namespace Docstring.Text

/-! ## Clean lines -/

/-- A line without a newline in it, without white space at its end and without tabs in its
indentation. A blank line is clean only when it is empty. -/
@[mk_iff]
structure IsClean (line : Line) : Prop where
  newline : '\n' ∉ line
  trimmed : trimEnd line = line
  tab : '\t' ∉ indentOf line

instance : DecidablePred IsClean := fun line => decidable_of_iff _ (isClean_iff line).symm

theorem isClean_nil : IsClean [] := by decide

theorem IsClean.blank_iff {line : Line} (h : IsClean line) : isBlank line = true ↔ line = [] :=
  blank_iff_of_trimEnd h.trimmed

theorem isSpace_of_isIndent {c : Char} (h : isIndent c = true) : isSpace c = true := by
  have hc : c = ' ' ∨ c = '\t' := by simpa [isIndent] using h
  rcases hc with rfl | rfl <;> decide

theorem indentOf_of_opensWithInk {line : Line} (h : opensWithInk line = true) :
    indentOf line = [] := by
  obtain ⟨c, rest, rfl, hc⟩ := exists_of_opensWithInk h
  have hindent : ¬isIndent c = true := by
    intro hi
    rw [isSpace_of_isIndent hi] at hc
    exact absurd hc (by simp)
  simp [indentOf, hindent]

theorem isClean_of_ink {line : Line} (hn : '\n' ∉ line) (hs : opensWithInk line = true)
    (he : trimEnd line = line) : IsClean line :=
  ⟨hn, he, by simp [indentOf_of_opensWithInk hs]⟩

/-! ## Shifting one line -/

@[simp] theorem isSpace_space : isSpace ' ' = true := by decide

theorem indentOf_spaces_append (n : Nat) (line : Line) :
    indentOf (spaces n ++ line) = spaces n ++ indentOf line := by
  apply List.takeWhile_append_of_pos
  intro c hc
  rw [List.eq_of_mem_replicate hc]
  rfl

theorem foldl_advanceColumn {w : Text} (h : '\t' ∉ w) (column : Nat) :
    w.foldl advanceColumn column = column + w.length := by
  induction w generalizing column with
  | nil => simp
  | cons c w ih =>
    simp only [List.mem_cons, not_or] at h
    rw [List.foldl_cons, ih h.2, advanceColumn, if_neg (Ne.symm h.1), List.length_cons]
    omega

theorem tab_notMem_spaces (n : Nat) : '\t' ∉ spaces n := by
  intro h
  exact absurd (List.eq_of_mem_replicate h) (by decide)

theorem indentWidth_spaces_append {line : Line} (n : Nat) (h : '\t' ∉ indentOf line) :
    indentWidth (spaces n ++ line) = n + indentWidth line := by
  have hboth : '\t' ∉ spaces n ++ indentOf line := by
    simp [tab_notMem_spaces n, h]
  rw [indentWidth, indentWidth, indentOf_spaces_append, foldl_advanceColumn hboth,
    foldl_advanceColumn h]
  simp [spaces]

theorem indentWidth_of_opensWithInk {line : Line} (h : opensWithInk line = true) :
    indentWidth line = 0 := by
  rw [indentWidth, indentOf_of_opensWithInk h]
  rfl

@[simp] theorem stripColumns_zero (line : Line) : stripColumns 0 line = line := by
  unfold stripColumns
  rfl

@[simp] theorem stripColumns_spaces_append (n : Nat) (line : Line) :
    stripColumns n (spaces n ++ line) = line := by
  induction n with
  | zero => simp [spaces]
  | succ n ih =>
    have hcons : spaces (n + 1) ++ line = ' ' :: (spaces n ++ line) := rfl
    rw [hcons, stripColumns, ih]

@[simp] theorem isBlank_spaces_append (n : Nat) (line : Line) :
    isBlank (spaces n ++ line) = isBlank line := by
  have hspaces : (spaces n).all isSpace = true := by
    rw [List.all_eq_true]
    intro c hc
    rw [List.eq_of_mem_replicate hc]
    rfl
  rw [isBlank, List.all_append, hspaces, Bool.true_and, isBlank]

theorem expandTabs_of_clean {line : Line} (h : IsClean line) : expandTabs line = line := by
  rw [expandTabs, if_neg h.tab]

theorem isClean_spaces_append {line : Line} (n : Nat) (h : IsClean line) (hne : line ≠ []) :
    IsClean (spaces n ++ line) := by
  refine ⟨?_, trimEnd_append _ h.trimmed hne, ?_⟩
  · rw [List.mem_append, not_or]
    refine ⟨?_, h.newline⟩
    intro hmem
    exact absurd (List.eq_of_mem_replicate hmem) (by decide)
  · rw [indentOf_spaces_append, List.mem_append, not_or]
    exact ⟨tab_notMem_spaces n, h.tab⟩

/-! ## Shifting lines -/

@[simp] theorem indent_nil (n : Nat) : indent n [] = [] := rfl

theorem indent_cons_of_ne {line : Line} (n : Nat) (lines : List Line) (h : line ≠ []) :
    indent n (line :: lines) = (spaces n ++ line) :: indent n lines := by
  simp [indent, h]

theorem indent_add (m n : Nat) (lines : List Line) :
    indent m (indent n lines) = indent (m + n) lines := by
  unfold indent
  rw [List.map_map]
  apply List.map_congr_left
  intro line _
  by_cases hl : line = []
  · simp [hl]
  · simp [hl, spaces, ← List.append_assoc, List.replicate_append_replicate]

theorem indent_flatMap {α : Type} (n : Nat) (items : List α) (f : α → List Line) :
    indent n (items.flatMap f) = items.flatMap fun item => indent n (f item) := by
  simp [indent, List.map_flatMap]

@[simp] theorem indent_zero (lines : List Line) : indent 0 lines = lines := by
  simp [indent, spaces]

theorem mem_indent {n : Nat} {lines : List Line} {line : Line} (h : line ∈ indent n lines) :
    line = [] ∨ ∃ inner ∈ lines, inner ≠ [] ∧ line = spaces n ++ inner := by
  obtain ⟨inner, hmem, rfl⟩ := List.mem_map.mp h
  by_cases hl : inner = []
  · exact Or.inl (by simp [hl])
  · exact Or.inr ⟨inner, hmem, hl, by simp [hl]⟩

theorem isClean_of_mem_indent {n : Nat} {lines : List Line} {line : Line}
    (hclean : ∀ l ∈ lines, IsClean l) (h : line ∈ indent n lines) : IsClean line := by
  rcases mem_indent h with rfl | ⟨inner, hmem, hne, rfl⟩
  · exact isClean_nil
  · exact isClean_spaces_append n (hclean inner hmem) hne

theorem endsInk_indent {lines : List Line} (n : Nat) (h : EndsInk lines) :
    EndsInk (indent n lines) := by
  intro line hl
  simp only [indent, List.getLast?_map, Option.mem_def, Option.map_eq_some_iff] at hl
  obtain ⟨last, hlast, rfl⟩ := hl
  have hink := h last hlast
  by_cases hne : last = []
  · simp [hne, isBlank] at hink
  · simp [hne, hink]

/-- Every line below a shifted block is empty or deeper than the first column. -/
theorem deep_of_mem_indent {n : Nat} {lines : List Line} {line : Line}
    (hclean : ∀ l ∈ lines, IsClean l) (h : line ∈ indent n lines) :
    isBlank line = true ∨ n ≤ indentWidth line := by
  rcases mem_indent h with rfl | ⟨inner, hmem, _, rfl⟩
  · exact Or.inl rfl
  · right
    rw [indentWidth_spaces_append n (hclean inner hmem).tab]
    omega

/-- Shifting clean lines and taking the shift away again changes nothing. -/
theorem dedentBy_indent {lines : List Line} (n : Nat) (hclean : ∀ l ∈ lines, IsClean l) :
    dedentBy n (indent n lines) = lines := by
  have hall : (indent n lines).all (fun line => isBlank line || decide (n ≤ indentWidth line)) := by
    rw [List.all_eq_true]
    intro line hl
    rcases deep_of_mem_indent hclean hl with hb | hd
    · simp [hb]
    · simp [hd]
  rw [dedentBy, if_pos hall, indent, List.map_map]
  conv => rhs; rw [← List.map_id lines]
  apply List.map_congr_left
  intro line hl
  by_cases hne : line = []
  · simp [hne, unindent, isBlank]
  · have hink : isBlank line = false := by
      rw [← Bool.not_eq_true, (hclean line hl).blank_iff]
      exact hne
    simp [hne, unindent, hink]

/-! ## Verbatim lines -/

/-- Clean lines of which the first and the last are not blank: they can be kept as they stand, as
blocks can, but the first line may be indented. -/
@[mk_iff]
structure IsVerbatim (lines : List Line) : Prop where
  opens : isBlank (lines.head?.getD []) = false
  ends : EndsInk lines
  clean : ∀ line ∈ lines, IsClean line

instance : DecidablePred IsVerbatim := fun lines =>
  decidable_of_iff _ (isVerbatim_iff lines).symm

theorem IsVerbatim.trimBlankLines {lines : List Line} (h : IsVerbatim lines) :
    trimBlankLines lines = lines := by
  cases lines with
  | nil => rfl
  | cons first rest => exact trimBlankLines_of_ink h.opens h.ends

theorem IsVerbatim.joinProse? {lines : List Line} (h : IsVerbatim lines) :
    joinProse? lines = some (joinLines lines) := by
  cases lines with
  | nil => exact absurd h.opens (by decide)
  | cons first rest => rw [Text.joinProse?, h.trimBlankLines]

/-- A text that can be kept as it stands is joined again from its lines. -/
theorem IsVerbatim.joinProse?_splitLines {t : Text} (h : IsVerbatim (splitLines t)) :
    Text.joinProse? (splitLines t) = some t := by
  rw [h.joinProse?, joinLines_splitLines]

/-! ## Blocks -/

/-- Clean lines of which the first starts with ink and the last is not blank. -/
@[mk_iff]
structure IsBlock (lines : List Line) : Prop where
  opens : opensWithInk (lines.head?.getD []) = true
  ends : EndsInk lines
  clean : ∀ line ∈ lines, IsClean line

instance : DecidablePred IsBlock := fun lines => decidable_of_iff _ (isBlock_iff lines).symm

/-- A text block: it is not empty, its first line starts with ink and its last line is not blank,
blank lines are empty, and no line has white space at its end or a tab in its indentation. -/
def IsTextBlock (t : Text) : Prop := IsBlock (splitLines t)

instance : DecidablePred IsTextBlock := fun t =>
  inferInstanceAs (Decidable (IsBlock (splitLines t)))

theorem IsBlock.exists_cons {lines : List Line} (h : IsBlock lines) :
    ∃ first rest, lines = first :: rest ∧ opensWithInk first = true := by
  cases lines with
  | nil => exact absurd h.opens (by simp [opensWithInk])
  | cons first rest => exact ⟨first, rest, rfl, h.opens⟩

theorem IsBlock.ne_nil {lines : List Line} (h : IsBlock lines) : lines ≠ [] := by
  obtain ⟨first, rest, rfl, _⟩ := h.exists_cons
  simp

theorem IsBlock.isVerbatim {lines : List Line} (h : IsBlock lines) : IsVerbatim lines :=
  ⟨not_blank_of_opensWithInk h.opens, h.ends, h.clean⟩

theorem IsBlock.trimBlankLines {lines : List Line} (h : IsBlock lines) :
    trimBlankLines lines = lines :=
  h.isVerbatim.trimBlankLines

theorem IsBlock.joinProse? {lines : List Line} (h : IsBlock lines) :
    joinProse? lines = some (joinLines lines) :=
  h.isVerbatim.joinProse?

theorem IsTextBlock.joinProse? {t : Text} (h : IsTextBlock t) :
    Text.joinProse? (splitLines t) = some t :=
  h.isVerbatim.joinProse?_splitLines

theorem IsTextBlock.ne_nil {t : Text} (h : IsTextBlock t) : t ≠ [] := by
  rintro rfl
  exact absurd h.opens (by decide)

theorem IsTextBlock.not_blank {t : Text} (h : IsTextBlock t) : isBlank t = false := by
  obtain ⟨first, rest, hs, hfirst⟩ := IsBlock.exists_cons h
  obtain ⟨c, more, rfl, hc⟩ := exists_of_opensWithInk hfirst
  have hmem : c ∈ t := by
    rw [← joinLines_splitLines t, hs]
    cases rest <;> simp [joinLines]
  rw [isBlank, ← Bool.not_eq_true, List.all_eq_true]
  intro hall
  rw [hall c hmem] at hc
  exact absurd hc (by simp)

/-- The description that starts with the first line of a block and goes on with the others. -/
theorem description?_block {text first : Text} {rest : List Line} (ht : trim text = first)
    (h : IsBlock (first :: rest)) : description? text rest = some (joinLines (first :: rest)) := by
  have hne : first ≠ [] := ne_nil_of_opensWithInk h.opens
  simp only [description?, ht]
  rw [if_neg (by simpa using hne), h.joinProse?]

/-! ## Texts on one line -/

/-- A text on one line, with ink at both ends. -/
@[mk_iff]
structure IsOneLine (t : Text) : Prop where
  nonempty : t ≠ []
  trimmed : trim t = t
  newline : '\n' ∉ t

instance : DecidablePred IsOneLine := fun t => decidable_of_iff _ (isOneLine_iff t).symm

theorem IsOneLine.opens {t : Text} (h : IsOneLine t) : opensWithInk t = true :=
  (ink_of_trim h.trimmed h.nonempty).1

theorem IsOneLine.trimEnd {t : Text} (h : IsOneLine t) : Text.trimEnd t = t :=
  (ink_of_trim h.trimmed h.nonempty).2

theorem IsOneLine.isClean {t : Text} (h : IsOneLine t) : IsClean t :=
  isClean_of_ink h.newline h.opens h.trimEnd

theorem IsOneLine.not_blank {t : Text} (h : IsOneLine t) : isBlank t = false :=
  not_blank_of_opensWithInk h.opens

theorem IsOneLine.isBlock {t : Text} (h : IsOneLine t) : IsBlock [t] := by
  refine ⟨h.opens, ?_, ?_⟩
  · intro line hl
    simp only [List.getLast?_singleton, Option.mem_some_iff] at hl
    rw [← hl, h.not_blank]
  · intro line hl
    rw [List.mem_singleton.mp hl]
    exact h.isClean

theorem IsOneLine.description? {t : Text} (h : IsOneLine t) : description? t [] = some t :=
  description?_block h.trimmed h.isBlock

/-- A text to the left of one line, with no white space at its start, stays on that line. -/
theorem IsOneLine.append {s t : Text} (hs : opensWithInk s = true) (hn : '\n' ∉ s)
    (h : IsOneLine t) : IsOneLine (s ++ t) := by
  have hopen : opensWithInk (s ++ t) = true := opensWithInk_append t hs
  refine ⟨ne_nil_of_opensWithInk hopen, ?_, by simp [hn, h.newline]⟩
  exact trim_of_ink hopen (trimEnd_append s h.trimEnd h.nonempty)

end Docstring.Text
