-- Searching: a text that begins with another, a text that holds another, and a text that is cut at
-- a character.
import Docstring.Proofs.Text.Lines
import Mathlib.Data.List.Infix

namespace Docstring.Text

/-! ## Starts -/

theorem dropPrefix?_append (start t : Text) : dropPrefix? (start ++ t) start = some t := by
  induction start with
  | nil => cases t <;> rfl
  | cons c start ih => simp [dropPrefix?, ih]

/-- A start that does not fit is not completed by a character that is not in it. -/
theorem dropPrefix?_append_of_notMem {t start : Text} {c : Char} (rest : Text)
    (h : dropPrefix? t start = none) (hc : c ∉ start) :
    dropPrefix? (t ++ c :: rest) start = none := by
  induction t generalizing start with
  | nil =>
    cases start with
    | nil => simp [dropPrefix?] at h
    | cons d start =>
      simp only [List.mem_cons, not_or] at hc
      simp [dropPrefix?, hc.1]
  | cons x t ih =>
    cases start with
    | nil => simp [dropPrefix?] at h
    | cons d start =>
      simp only [List.mem_cons, not_or] at hc
      simp only [List.cons_append, dropPrefix?] at h ⊢
      split
      · rename_i hx
        rw [if_pos hx] at h
        exact ih h hc.2
      · rfl

theorem startsWith_iff {t start : Text} : startsWith t start = true ↔ start <+: t := by
  rw [startsWith]
  induction start generalizing t with
  | nil => simp [dropPrefix?]
  | cons d start ih =>
    cases t with
    | nil => simp [dropPrefix?]
    | cons c t =>
      by_cases hcd : c = d
      · subst hcd
        simp [dropPrefix?, ih, List.cons_prefix_cons]
      · simp [dropPrefix?, hcd, Ne.symm hcd, List.cons_prefix_cons]

theorem eq_append_of_dropPrefix? {t start rest : Text} (h : dropPrefix? t start = some rest) :
    t = start ++ rest := by
  obtain ⟨after, rfl⟩ := startsWith_iff.mp (by simp [startsWith, h] : startsWith t start = true)
  rw [dropPrefix?_append, Option.some.injEq] at h
  rw [h]

/-! ## Cuts -/

theorem cutAt?_append {p : Char → Bool} {t : Text} {c : Char} (rest : Text)
    (h : ∀ x ∈ t, p x = false) (hc : p c = true) : cutAt? p (t ++ c :: rest) = some (t, rest) := by
  induction t with
  | nil => simp [cutAt?, hc]
  | cons x t ih => simp [cutAt?, h x (by simp), ih fun y hy => h y (by simp [hy])]

theorem eq_of_cutAt? {p : Char → Bool} {t left right : Text} (h : cutAt? p t = some (left, right)) :
    ∃ c, p c = true ∧ t = left ++ c :: right ∧ ∀ x ∈ left, p x = false := by
  induction t generalizing left with
  | nil => cases h
  | cons c t ih =>
    rw [cutAt?] at h
    split at h
    · rename_i hc
      cases h
      exact ⟨c, hc, rfl, by simp⟩
    · rename_i hc
      obtain ⟨⟨inner, right'⟩, hcut, hpair⟩ := Option.map_eq_some_iff.mp h
      cases hpair
      obtain ⟨d, hd, rfl, hnone⟩ := ih hcut
      exact ⟨d, hd, rfl, List.forall_mem_cons.mpr ⟨by simpa using hc, hnone⟩⟩

/-! ## Blocks -/

theorem contains_iff {t block : Text} : contains t block = true ↔ block <:+: t := by
  induction t with
  | nil => rw [contains, Bool.or_false, startsWith_iff, List.prefix_nil, List.infix_nil]
  | cons c t ih => rw [contains, Bool.or_eq_true, startsWith_iff, ih, List.infix_cons_iff]

theorem contains_of_isInfix {s t block : Text} (h : contains t block = false) (hs : s <:+: t) :
    contains s block = false := by
  by_contra hfound
  rw [Bool.not_eq_false, contains_iff] at hfound
  exact Bool.false_ne_true (h.symm.trans (contains_iff.mpr (hfound.trans hs)))

theorem contains_cons {c : Char} {t block : Text} (h : contains (c :: t) block = false) :
    contains t block = false := by
  rw [contains, Bool.or_eq_false_iff] at h
  exact h.2

theorem startsWith_of_contains {t block : Text} (h : contains t block = false) :
    startsWith t block = false := by
  rw [contains.eq_def, Bool.or_eq_false_iff] at h
  exact h.1

theorem dropPrefix?_of_contains {t block : Text} (h : contains t block = false) :
    dropPrefix? t block = none := by
  simpa [startsWith] using startsWith_of_contains h

theorem contains_trimStart {t block : Text} (h : contains t block = false) :
    contains (trimStart t) block = false := by
  induction t with
  | nil => exact h
  | cons c t ih =>
    rw [trimStart, List.dropWhile_cons]
    split
    · exact ih (contains_cons h)
    · exact h

/-! ## Lines -/

theorem isInfix_joinLines {lines : List Line} {line : Line} (h : line ∈ lines) :
    line <:+: joinLines lines := by
  induction lines with
  | nil => simp at h
  | cons first rest ih =>
    cases rest with
    | nil => simp [List.mem_singleton.mp h]
    | cons next more =>
      rw [joinLines_cons first (by simp)]
      rcases List.mem_cons.mp h with rfl | h
      · exact (List.prefix_append _ _).isInfix
      · have hrest : joinLines (next :: more) <:+ first ++ '\n' :: joinLines (next :: more) :=
          ⟨first ++ ['\n'], by simp⟩
        exact (ih h).trans hrest.isInfix

theorem joinLines_concat {lines : List Line} (last : Line) (h : lines ≠ []) :
    joinLines (lines ++ [last]) = joinLines lines ++ '\n' :: last := by
  induction lines with
  | nil => exact absurd rfl h
  | cons line lines ih =>
    cases lines with
    | nil => rfl
    | cons next more =>
      rw [List.cons_append, joinLines_cons line (by simp), ih (by simp),
        joinLines_cons line (by simp), List.append_assoc, List.cons_append]

/-- Lines end as the last one does, unless it is empty. -/
theorem getLast?_joinLines {lines : List Line} {last : Line} (h : lines.getLast? = some last)
    (hne : last ≠ []) : (joinLines lines).getLast? = last.getLast? := by
  obtain ⟨init, rfl⟩ := List.getLast?_eq_some_iff.mp h
  by_cases hinit : init = []
  · simp [hinit]
  · rw [joinLines_concat last hinit, List.getLast?_append_of_ne_nil _ (by simp),
      List.getLast?_cons_of_ne_nil hne]

end Docstring.Text
