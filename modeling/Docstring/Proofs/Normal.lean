-- Blocks that are written with an empty line between each other are in normal form already, so
-- reading them starts from the very lines that were written.
import Docstring.Document.Layout
import Docstring.Normal
import Docstring.Proofs.Text.Block

namespace Docstring

open Text

/-! ## Normal lines -/

/-- The lines below the first one have no margin: one of them starts at the first column, or
there is nothing but empty lines. -/
def HasNoMargin (lines : List Line) : Prop :=
  (∃ line ∈ lines.tail, opensWithInk line = true) ∨ ∀ line ∈ lines.tail, line = []

theorem marginOf_of_opensWithInk {line : Line} (headed : Bool) (h : opensWithInk line = true) :
    marginOf headed line = 0 := by
  simp [marginOf, indentWidth_of_opensWithInk h]

theorem bodyMargin?_of_hasNoMargin {lines : List Line} (h : HasNoMargin lines) :
    (bodyMargin? lines).getD 0 = 0 := by
  cases lines with
  | nil => rfl
  | cons first rest =>
    simp only [bodyMargin?]
    rcases h with ⟨line, hmem, hink⟩ | hempty
    · have hzero : 0 ∈ (rest.filter fun line => !isBlank line).map
          (marginOf (Google.isHeader (trim first))) := by
        rw [List.mem_map]
        refine ⟨line, ?_, marginOf_of_opensWithInk _ hink⟩
        simpa [not_blank_of_opensWithInk hink] using hmem
      rw [List.min?_eq_some_iff.mpr ⟨hzero, fun n _ => Nat.zero_le n⟩]
      rfl
    · have hnone : rest.filter (fun line => !isBlank line) = [] := by
        rw [List.filter_eq_nil_iff]
        intro line hmem
        rw [hempty line hmem]
        decide
      rw [hnone]
      rfl

theorem stripMargin_zero {first : Line} (rest : List Line) (h : trim first = first) :
    stripMargin 0 (first :: rest) = first :: rest := by
  have hid : stripColumns 0 = id := funext stripColumns_zero
  rw [stripMargin, h, hid, List.map_id]

theorem trimEmptyLines_of_ends {lines : List Line} (hopens : ∀ line ∈ lines.head?, line ≠ [])
    (hends : ∀ line ∈ lines.getLast?, line ≠ []) : trimEmptyLines lines = lines := by
  have hend : lines.rdropWhile List.isEmpty = lines := by
    rw [List.rdropWhile_eq_self_iff]
    intro hne hlast
    exact hends _ (List.getLast?_eq_some_getLast hne) (List.isEmpty_iff.mp hlast)
  change (lines.rdropWhile List.isEmpty).dropWhile List.isEmpty = lines
  rw [hend]
  cases lines with
  | nil => rfl
  | cons first rest =>
    have hfirst : first ≠ [] := hopens first rfl
    simp [hfirst]

theorem trimEmptyLines_of_block {lines : List Line} (h : IsBlock lines) :
    trimEmptyLines lines = lines := by
  apply trimEmptyLines_of_ends
  · obtain ⟨first, rest, rfl, hfirst⟩ := h.exists_cons
    intro line hl
    rw [List.head?_cons, Option.mem_some_iff] at hl
    rw [← hl]
    exact ne_nil_of_opensWithInk hfirst
  · rintro line hl rfl
    exact absurd (h.ends [] hl) (by decide)

/-- Clean lines are read as they stand, and then only their margin is taken off. -/
theorem normalLines_joinLines_of_clean {lines : List Line} (hne : lines ≠ [])
    (h : ∀ line ∈ lines, IsClean line) :
    normalLines (joinLines lines) =
      trimEmptyLines (stripMargin ((bodyMargin? lines).getD 0) lines) := by
  have hsplit : splitLines (joinLines lines) = lines :=
    splitLines_joinLines hne fun line hl => (h line hl).newline
  have hexpand : lines.map (fun line => expandTabs (trimEnd line)) = lines := by
    conv => rhs; rw [← List.map_id lines]
    apply List.map_congr_left
    intro line hl
    rw [(h line hl).trimmed, expandTabs_of_clean (h line hl), id]
  simp only [normalLines]
  rw [hsplit, hexpand]

/-- A block without a margin is its own normal form. -/
theorem normalLines_joinLines {lines : List Line} (h : IsBlock lines) (hm : HasNoMargin lines) :
    normalLines (joinLines lines) = lines := by
  rw [normalLines_joinLines_of_clean h.ne_nil h.clean, bodyMargin?_of_hasNoMargin hm]
  obtain ⟨first, rest, rfl, hfirst⟩ := h.exists_cons
  rw [stripMargin_zero rest (trim_of_ink hfirst (h.clean first (by simp)).trimmed)]
  exact trimEmptyLines_of_block h

/-! ## Separated blocks -/

namespace Layout

/-- Two blocks with an empty line between them, unless one of them is empty. -/
def glue (above below : List Line) : List Line :=
  if above.isEmpty then below else if below.isEmpty then above else above ++ [] :: below

theorem separate_cons (block : List Line) (blocks : List (List Line)) :
    separate (block :: blocks) = glue block (separate blocks) := by
  rw [separate, glue]
  split
  · rfl
  · cases separate blocks <;> simp

theorem glue_assoc (a b c : List Line) : glue (glue a b) c = glue a (glue b c) := by
  unfold glue
  cases a <;> cases b <;> cases c <;> simp

@[simp] theorem glue_nil (a : List Line) : glue a [] = a := by
  unfold glue
  cases a <;> simp

theorem prefix_glue (above below : List Line) : above <+: glue above below := by
  unfold glue
  cases above with
  | nil => exact List.nil_prefix
  | cons line rest => cases below <;> simp

theorem separate_append (above below : List (List Line)) :
    separate (above ++ below) = glue (separate above) (separate below) := by
  induction above with
  | nil => rfl
  | cons block above ih =>
    rw [List.cons_append, separate_cons, ih, separate_cons, glue_assoc]

/-- Blocks that are separated group by group and then as a whole come out as if there had been no
groups. -/
theorem separate_map_separate (groups : List (List (List Line))) :
    separate (groups.map separate) = separate groups.flatten := by
  induction groups with
  | nil => rfl
  | cons group groups ih =>
    rw [List.map_cons, separate_cons, ih, List.flatten_cons, separate_append]

theorem separate_singleton (block : List Line) : separate [block] = block := by
  rw [separate_cons, separate, glue_nil]

/-- Each block after the first one follows an empty line. -/
theorem separate_eq_append {blocks : List (List Line)} (block : List Line) (hne : block ≠ [])
    (h : ∀ b ∈ blocks, b ≠ []) :
    separate (block :: blocks) = block ++ blocks.flatMap fun b => [] :: b := by
  induction blocks generalizing block with
  | nil => simp [separate_singleton]
  | cons next blocks ih =>
    have hnext : next ≠ [] := h next (by simp)
    rw [separate_cons, ih next hnext fun b hb => h b (by simp [hb])]
    simp [glue, hne, hnext]

theorem isInfix_separate {block : List Line} {blocks : List (List Line)} (h : block ∈ blocks) :
    block <:+: separate blocks := by
  induction blocks with
  | nil => simp at h
  | cons first blocks ih =>
    rw [separate_cons]
    rcases List.mem_cons.mp h with rfl | h
    · exact (prefix_glue block (separate blocks)).isInfix
    · refine (ih h).trans (List.IsSuffix.isInfix ?_)
      unfold glue
      split
      · exact List.suffix_refl _
      · split
        · rename_i hnil
          rw [List.isEmpty_iff.mp hnil]
          exact List.nil_suffix
        · exact ⟨first ++ [[]], by simp⟩

theorem mem_separate {line : Line} {blocks : List (List Line)} (h : line ∈ separate blocks) :
    line = [] ∨ ∃ block ∈ blocks, line ∈ block := by
  induction blocks with
  | nil => simp [separate] at h
  | cons first blocks ih =>
    have hcases : line ∈ first ∨ line = [] ∨ line ∈ separate blocks := by
      rw [separate_cons, glue] at h
      split at h
      · exact .inr (.inr h)
      · split at h
        · exact .inl h
        · simpa using h
    rcases hcases with hline | hline | hline
    · exact .inr ⟨first, by simp, hline⟩
    · exact .inl hline
    · exact (ih hline).imp_right fun hmem =>
        hmem.imp fun _ hblock => hblock.imp_left (List.mem_cons_of_mem first)

theorem isBlock_glue {above below : List Line} (ha : IsBlock above) (hb : IsBlock below) :
    IsBlock (glue above below) := by
  obtain ⟨first, rest, rfl, hfirst⟩ := ha.exists_cons
  have hglue : glue (first :: rest) below = (first :: rest) ++ [] :: below := by
    simp [glue, hb.ne_nil]
  rw [hglue]
  refine ⟨by simpa using hfirst, ?_, ?_⟩
  · rw [List.append_cons]
    exact endsInk_append _ hb.ends hb.ne_nil
  · intro line hl
    simp only [List.mem_append, List.mem_cons] at hl
    rcases hl with hl | rfl | hl
    · exact ha.clean line (by simpa using hl)
    · exact isClean_nil
    · exact hb.clean line hl

theorem isBlock_separate {blocks : List (List Line)} (block : List Line)
    (h : ∀ b ∈ block :: blocks, IsBlock b) : IsBlock (separate (block :: blocks)) := by
  induction blocks generalizing block with
  | nil =>
    rw [separate_singleton]
    exact h block (by simp)
  | cons next blocks ih =>
    rw [separate_cons]
    exact isBlock_glue (h block (by simp)) (ih next fun b hb => h b (by simp [hb]))

/-- The lines after those of the first block start at the first column, so there is no margin if
the first block has none. -/
theorem hasNoMargin_separate {blocks : List (List Line)} (block : List Line)
    (hfirst : ∀ line ∈ block, opensWithInk line = true) (h : ∀ b ∈ block :: blocks, IsBlock b) :
    HasNoMargin (separate (block :: blocks)) := by
  have hblock : IsBlock block := h block (by simp)
  obtain ⟨first, rest, rfl, _⟩ := hblock.exists_cons
  cases blocks with
  | nil =>
    rw [separate_singleton]
    cases rest with
    | nil => exact Or.inr (by simp)
    | cons second rest => exact Or.inl ⟨second, by simp, hfirst second (by simp)⟩
  | cons next blocks =>
    have hbelow : IsBlock (separate (next :: blocks)) :=
      isBlock_separate next fun b hb => h b (by simp [hb])
    obtain ⟨top, more, hsep, htop⟩ := hbelow.exists_cons
    rw [separate_cons, hsep]
    exact Or.inl ⟨top, by simp [glue], htop⟩

/-- What is written as blocks under a first block without a margin is read from the same lines. -/
theorem normalLines_assemble {blocks : List (List Line)} (block : List Line)
    (hfirst : ∀ line ∈ block, opensWithInk line = true) (h : ∀ b ∈ block :: blocks, IsBlock b) :
    normalLines (assemble (block :: blocks)) = separate (block :: blocks) :=
  normalLines_joinLines (isBlock_separate block h) (hasNoMargin_separate block hfirst h)

end Layout

end Docstring
