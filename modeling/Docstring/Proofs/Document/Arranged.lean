-- A section among the lines of a whole document. The blocks around it stay where they are when it is
-- written anew, so that the document is the old one with some lines replaced.
import Docstring.Proofs.Normal
import Docstring.Proofs.Text.Prose
import Docstring.Proofs.Text.Whole

namespace Docstring

open Text

namespace Layout

/-! ## Lines that are several -/

/-- Lines as they are read, those with a newline in them being several. -/
def brokenUp (lines : List Line) : List Line := lines.flatMap splitLines

@[simp] theorem brokenUp_nil : brokenUp [] = [] := rfl

@[simp] theorem brokenUp_cons (line : Line) (lines : List Line) :
    brokenUp (line :: lines) = splitLines line ++ brokenUp lines := List.flatMap_cons

@[simp] theorem brokenUp_append (above below : List Line) :
    brokenUp (above ++ below) = brokenUp above ++ brokenUp below := List.flatMap_append

@[simp] theorem brokenUp_eq_nil {lines : List Line} : brokenUp lines = [] ↔ lines = [] := by
  cases lines <;> simp [splitLines_ne_nil]

theorem splitLines_joinLines_eq {lines : List Line} (hne : lines ≠ []) :
    splitLines (joinLines lines) = brokenUp lines :=
  splitLines_joinLines_eq_flatMap hne

theorem brokenUp_of_newline {lines : List Line} (h : ∀ line ∈ lines, '\n' ∉ line) :
    brokenUp lines = lines := by
  induction lines with
  | nil => rfl
  | cons line rest ih =>
    rw [brokenUp_cons, splitLines_of_notMem (h line (by simp)), List.singleton_append,
      ih fun l hl => h l (by simp [hl])]

theorem brokenUp_glue (above below : List Line) :
    brokenUp (glue above below) = glue (brokenUp above) (brokenUp below) := by
  unfold glue
  simp only [List.isEmpty_iff, brokenUp_eq_nil]
  split
  · rfl
  · split
    · rfl
    · simp

/-! ## First lines -/

section Heads

variable {P : Line → Prop} {above below : List Line}

theorem forall_head?_append (ha : ∀ line ∈ above.head?, P line) (hb : ∀ line ∈ below.head?, P line) :
    ∀ line ∈ (above ++ below).head?, P line := by
  cases above with
  | nil => exact hb
  | cons first rest => exact ha

theorem forall_head?_glue (ha : ∀ line ∈ above.head?, P line) (hb : ∀ line ∈ below.head?, P line) :
    ∀ line ∈ (glue above below).head?, P line := by
  cases above with
  | nil => exact hb
  | cons first rest =>
    intro line hline
    obtain ⟨more, hmore⟩ := prefix_glue (first :: rest) below
    rw [← hmore] at hline
    exact ha line hline

variable {blocks : List (List Line)} (h : ∀ block ∈ blocks, ∀ line ∈ block.head?, P line)

include h

theorem forall_head?_flatten : ∀ line ∈ blocks.flatten.head?, P line := by
  induction blocks with
  | nil => simp
  | cons block blocks ih =>
    exact forall_head?_append (h block (by simp)) (ih fun b hb => h b (by simp [hb]))

theorem forall_head?_separate : ∀ line ∈ (separate blocks).head?, P line := by
  induction blocks with
  | nil => simp [separate]
  | cons block blocks ih =>
    rw [separate_cons]
    exact forall_head?_glue (h block (by simp)) (ih fun b hb => h b (by simp [hb]))

end Heads

/-- Blocks under headers of their own start with the title of the header. -/
theorem head?_separate_titled (title : Line) (rest : List Line) (blocks : List (List Line)) :
    ∀ line ∈ (separate (blocks.map fun block => title :: (rest ++ block))).head?, line = title := by
  refine forall_head?_separate fun block hblock => ?_
  obtain ⟨lines, _, rfl⟩ := List.mem_map.mp hblock
  exact fun line hline => (Option.some.inj hline).symm

theorem forall_head?_brokenUp {P : Line → Prop} {lines : List Line}
    (h : ∀ line ∈ lines.head?, P (firstLine line)) : ∀ line ∈ (brokenUp lines).head?, P line := by
  cases lines with
  | nil => simp
  | cons first rest =>
    rw [brokenUp_cons, splitLines_eq_cons]
    rintro _ ⟨⟩
    exact h first rfl

/-! ## Lines in their place -/

/-- Some lines in one block with others before and after them, between other blocks. -/
def arranged (above before lines after below : List Line) : List Line :=
  glue above (glue (before ++ lines ++ after) below)

theorem brokenUp_arranged (above before lines after below : List Line) :
    brokenUp (arranged above before lines after below) =
      arranged (brokenUp above) (brokenUp before) (brokenUp lines) (brokenUp after)
        (brokenUp below) := by
  simp only [arranged, brokenUp_glue, brokenUp_append]

theorem forall_head?_arranged {P : Line → Prop} {above before lines after below : List Line}
    (hfront : ∀ line ∈ (above ++ before).head?, P line) (hlines : ∀ line ∈ lines.head?, P line)
    (hafter : ∀ line ∈ after.head?, P line) (hbelow : ∀ line ∈ below.head?, P line) :
    ∀ line ∈ (arranged above before lines after below).head?, P line := by
  cases above with
  | nil =>
    refine forall_head?_glue (by simp) (forall_head?_glue (forall_head?_append ?_ hafter) hbelow)
    exact forall_head?_append hfront hlines
  | cons first rest =>
    intro line hline
    obtain ⟨more, hmore⟩ := prefix_glue (first :: rest) (glue (before ++ lines ++ after) below)
    rw [arranged, ← hmore] at hline
    exact hfront line hline

theorem glue_eq_nil {above below : List Line} : glue above below = [] ↔ above = [] ∧ below = [] := by
  unfold glue
  split
  · simp_all
  · split <;> simp_all

theorem arranged_ne_nil (above before after below : List Line) {lines : List Line}
    (h : lines ≠ []) : arranged above before lines after below ≠ [] := by
  simp [arranged, glue_eq_nil, h]

theorem splitLines_joinLines_arranged (above before after below : List Line) {lines : List Line}
    (h : lines ≠ []) : splitLines (joinLines (arranged above before lines after below)) =
      arranged (brokenUp above) (brokenUp before) (brokenUp lines) (brokenUp after)
        (brokenUp below) := by
  rw [splitLines_joinLines_eq (arranged_ne_nil above before after below h), brokenUp_arranged]

/-- Blocks below others, with an empty line towards these. -/
def setOff (blocks : List Line) : List Line := if blocks.isEmpty then [] else [] :: blocks

theorem glue_eq_append {above : List Line} (hne : above ≠ []) (below : List Line) :
    glue above below = above ++ setOff below := by
  unfold glue setOff
  cases below <;> simp [hne]

/-- Above other blocks, lines have the same empty line below them, whatever these are. -/
theorem exists_glue_eq_append (above : List Line) : ∃ empty : List Line,
    (∀ line ∈ empty, line = []) ∧
      ∀ below, below ≠ [] → glue above below = above ++ empty ++ below := by
  by_cases hne : above = []
  · exact ⟨[], by simp, fun below _ => by simp [glue, hne]⟩
  · refine ⟨[[]], by simp, fun below hbelow => ?_⟩
    simp [glue, hne, hbelow]

/-- A gap of empty lines is all that stands between two blocks. -/
theorem exists_glue_gap (above below : List Line) : ∃ empty : List Line, (∀ line ∈ empty, line = []) ∧
    glue above below = above ++ (empty ++ below) := by
  obtain ⟨empty, hempty, hglue⟩ := exists_glue_eq_append above
  by_cases hnone : below = []
  · exact ⟨[], by simp, by simp [hnone]⟩
  · exact ⟨empty, hempty, by rw [hglue below hnone, List.append_assoc]⟩

theorem exists_setOff_eq_append (blocks : List Line) : ∃ empty : List Line,
    (∀ line ∈ empty, line = []) ∧ (blocks = [] → empty = []) ∧ setOff blocks = empty ++ blocks := by
  unfold setOff
  split
  · exact ⟨[], by simp_all⟩
  · exact ⟨[[]], by simp_all⟩

/-- Blocks above and below a place in a block: between them stand empty lines at most. -/
structure Surrounds (up above before after below down : List Line) : Prop where
  up : ∃ empty : List Line, (∀ line ∈ empty, line = []) ∧ up = above ++ empty ++ before
  down : ∃ empty : List Line, (∀ line ∈ empty, line = []) ∧
    (after ++ below = [] → empty = []) ∧ down = after ++ empty ++ below

namespace Surrounds

variable {up above before after below down : List Line}
  (h : Surrounds up above before after below down)

include h

theorem forall_head?_down {P : Line → Prop} (hempty : P []) (hafter : ∀ line ∈ after.head?, P line)
    (hbelow : ∀ line ∈ below.head?, P line) : ∀ line ∈ down.head?, P line := by
  obtain ⟨empty, hnil, -, rfl⟩ := h.down
  refine forall_head?_append (forall_head?_append hafter fun line hline => ?_) hbelow
  rwa [hnil line (List.mem_of_mem_head? hline)]

theorem eq_nil_of_up (hup : up = []) : above = [] ∧ before = [] := by
  obtain ⟨empty, -, rfl⟩ := h.up
  simp_all

end Surrounds

/-- Other lines in the same place: where there were none, they get an empty line on one side. -/
theorem exists_arranged (above before lines after below : List Line) {new : List Line}
    (hnew : new ≠ []) : ∃ up down left right : List Line,
      arranged above before lines after below = up ++ lines ++ down ∧
      arranged above before new after below = up ++ (left ++ new ++ right) ++ down ∧
      Surrounds up above before after below down ∧
      (∀ line ∈ left, line = []) ∧ (∀ line ∈ right, line = []) ∧
      (up = [] → left = [] ∧ right ++ down = after ++ setOff below) := by
  obtain ⟨gap, hgap, hset, hoff⟩ := exists_setOff_eq_append below
  by_cases hnone : before ++ lines ++ after = []
  · obtain ⟨⟨rfl, rfl⟩, rfl⟩ : (before = [] ∧ lines = []) ∧ after = [] := by
      simpa [and_assoc] using hnone
    simp only [arranged, List.nil_append, List.append_nil, glue_eq_append hnew]
    by_cases habove : above = []
    · subst habove
      refine ⟨[], below, [], if below.isEmpty then [] else [[]], rfl, ?_,
        ⟨⟨[], by simp⟩, ⟨[], by simp⟩⟩, by simp, ?_, fun _ => ⟨rfl, ?_⟩⟩
      · cases below <;> simp [setOff, glue]
      · cases below <;> simp
      · cases below <;> simp [setOff]
    · refine ⟨above, setOff below, [[]], [], ?_, ?_, ⟨⟨[], by simp⟩, ⟨gap, hgap, ?_, by simp [hoff]⟩⟩,
        by simp, by simp, fun h => absurd h habove⟩
      · exact glue_eq_append habove below
      · rw [glue_eq_append habove]
        simp [setOff, hnew]
      · simpa using hset
  · obtain ⟨empty, hempty, hglue⟩ := exists_glue_eq_append above
    have hplace : ∀ inner : List Line, before ++ inner ++ after ≠ [] →
        arranged above before inner after below =
          above ++ empty ++ before ++ inner ++ (after ++ setOff below) := by
      intro inner hinner
      rw [arranged, glue_eq_append hinner, hglue _ (by simp_all)]
      simp only [List.append_assoc]
    refine ⟨above ++ empty ++ before, after ++ setOff below, [], [], hplace lines hnone, ?_,
      ⟨⟨empty, hempty, rfl⟩, ⟨gap, hgap, fun h => hset ?_, by rw [hoff, List.append_assoc]⟩⟩, by simp,
      by simp, fun _ => ⟨rfl, rfl⟩⟩
    · simpa using hplace new (by simp [hnew])
    · exact (List.append_eq_nil_iff.mp h).2

end Layout

end Docstring
