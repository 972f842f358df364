-- Splitting a text into lines and joining lines undo each other, as long as no line holds a
-- newline of its own.
import Docstring.Text.Basic
import Mathlib.Data.List.Basic

namespace Docstring.Text

/-! ## Splitting -/

@[simp] theorem splitLines_nil : splitLines [] = [[]] := rfl

@[simp] theorem splitLines_newline (t : Text) : splitLines ('\n' :: t) = [] :: splitLines t := by
  simp [splitLines, consLine]

theorem splitLines_ne_nil (t : Text) : splitLines t ≠ [] := by
  cases t with
  | nil => simp
  | cons c t =>
    simp only [splitLines, List.foldr_cons, consLine]
    split
    · simp
    · split <;> simp

/-- A character that is no newline goes to the start of the first line. -/
theorem splitLines_cons {c : Char} (h : c ≠ '\n') (t : Text) :
    ∃ line rest, splitLines t = line :: rest ∧ splitLines (c :: t) = (c :: line) :: rest := by
  obtain ⟨line, rest, hs⟩ := List.exists_cons_of_ne_nil (splitLines_ne_nil t)
  refine ⟨line, rest, hs, ?_⟩
  have hfold : splitLines (c :: t) = consLine c (splitLines t) := rfl
  rw [hfold, hs]
  simp [consLine, h]

theorem splitLines_append_newline {line : Line} (h : '\n' ∉ line) (t : Text) :
    splitLines (line ++ '\n' :: t) = line :: splitLines t := by
  induction line with
  | nil => simp
  | cons c line ih =>
    simp only [List.mem_cons, not_or] at h
    obtain ⟨first, rest, hs, hc⟩ := splitLines_cons (Ne.symm h.1) (line ++ '\n' :: t)
    rw [ih h.2] at hs
    injection hs with hfirst hrest
    rw [List.cons_append, hc, ← hfirst, ← hrest]

theorem splitLines_of_notMem {line : Line} (h : '\n' ∉ line) : splitLines line = [line] := by
  induction line with
  | nil => rfl
  | cons c line ih =>
    simp only [List.mem_cons, not_or] at h
    obtain ⟨first, rest, hs, hc⟩ := splitLines_cons (Ne.symm h.1) line
    rw [ih h.2] at hs
    injection hs with hfirst hrest
    rw [hc, ← hfirst, ← hrest]

theorem newline_notMem_of_mem_splitLines {t : Text} {line : Line} (h : line ∈ splitLines t) :
    '\n' ∉ line := by
  induction t generalizing line with
  | nil => simp_all
  | cons c t ih =>
    by_cases hc : c = '\n'
    · subst hc
      rw [splitLines_newline, List.mem_cons] at h
      rcases h with rfl | h
      · simp
      · exact ih h
    · obtain ⟨first, rest, hs, hcons⟩ := splitLines_cons hc t
      rw [hcons, List.mem_cons] at h
      rcases h with rfl | h
      · have hfirst : '\n' ∉ first := ih (by simp [hs])
        simp [hfirst, Ne.symm hc]
      · exact ih (by simp [hs, h])

/-! ## The first line and the others -/

/-- The first line of a text. -/
def firstLine (t : Text) : Line := (splitLines t).headD []

/-- The lines after the first. -/
def laterLines (t : Text) : List Line := (splitLines t).tail

theorem splitLines_eq_cons (t : Text) : splitLines t = firstLine t :: laterLines t := by
  obtain ⟨line, rest, hs⟩ := List.exists_cons_of_ne_nil (splitLines_ne_nil t)
  rw [firstLine, laterLines, hs]
  rfl

/-- What stands before a text on its first line leaves the others as they are. -/
theorem splitLines_lead_append {lead : Text} (h : '\n' ∉ lead) (t : Text) :
    splitLines (lead ++ t) = (lead ++ firstLine t) :: laterLines t := by
  induction lead with
  | nil => exact splitLines_eq_cons t
  | cons c lead ih =>
    simp only [List.mem_cons, not_or] at h
    obtain ⟨line, rest, hs, hcons⟩ := splitLines_cons (Ne.symm h.1) (lead ++ t)
    obtain ⟨rfl, rfl⟩ := List.cons.inj ((ih h.2).symm.trans hs)
    exact hcons

/-! ## Joining -/

@[simp] theorem joinLines_singleton (line : Line) : joinLines [line] = line := rfl

theorem joinLines_cons {lines : List Line} (line : Line) (h : lines ≠ []) :
    joinLines (line :: lines) = line ++ '\n' :: joinLines lines := by
  cases lines with
  | nil => exact absurd rfl h
  | cons next rest => rfl

theorem splitLines_joinLines {lines : List Line} (hne : lines ≠ [])
    (h : ∀ line ∈ lines, '\n' ∉ line) : splitLines (joinLines lines) = lines := by
  induction lines with
  | nil => exact absurd rfl hne
  | cons line rest ih =>
    have hline : '\n' ∉ line := h line (by simp)
    by_cases hrest : rest = []
    · subst hrest
      exact splitLines_of_notMem hline
    · rw [joinLines_cons line hrest, splitLines_append_newline hline,
        ih hrest (fun l hl => h l (by simp [hl]))]

theorem joinLines_splitLines (t : Text) : joinLines (splitLines t) = t := by
  induction t with
  | nil => rfl
  | cons c t ih =>
    by_cases hc : c = '\n'
    · subst hc
      rw [splitLines_newline, joinLines_cons _ (splitLines_ne_nil t), ih]
      rfl
    · obtain ⟨first, rest, hs, hcons⟩ := splitLines_cons hc t
      rw [hcons]
      rw [hs] at ih
      cases rest with
      | nil => simpa using ih
      | cons next more =>
        rw [joinLines_cons _ (by simp)] at ih ⊢
        rw [List.cons_append, ih]

/-! ## Blank texts -/

theorem isBlank_joinLines (lines : List Line) : isBlank (joinLines lines) = lines.all isBlank := by
  induction lines with
  | nil => rfl
  | cons line lines ih =>
    cases lines with
    | nil => simp
    | cons next more =>
      have hnewline : isSpace '\n' = true := by decide
      rw [joinLines_cons line (by simp), List.all_cons, ← ih]
      simp [isBlank, List.all_append, hnewline]

theorem isBlank_eq_all (t : Text) : isBlank t = (splitLines t).all isBlank := by
  rw [← isBlank_joinLines, joinLines_splitLines]

end Docstring.Text
