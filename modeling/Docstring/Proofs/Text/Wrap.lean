-- Wrapping settles: a piece of a wrapped line is not broken again, at the same width or at any
-- greater one, because it fits or is a single word.
import Docstring.Proofs.Text.Words
import Docstring.Text.Wrap

namespace Docstring.Text

/-! ## One line -/

/-- A line of at most `width` columns, or a single word, behind an indentation. -/
def Filled (lead : Text) (width : Nat) (line : Line) : Prop :=
  ∃ t, IsOneLine t ∧ line = lead ++ t ∧ (line.length ≤ width ∨ ∀ c ∈ t, isSpace c = false)

theorem filled_word {word : Text} (lead : Text) (width : Nat)
    (h : word ≠ [] ∧ ∀ c ∈ word, isSpace c = false) : Filled lead width (lead ++ word) :=
  ⟨word, isOneLine_of_ink h.1 h.2, rfl, Or.inr h.2⟩

theorem Filled.push {lead word : Text} {width : Nat} {line : Line} (h : Filled lead width line)
    (hne : word ≠ []) (hword : ∀ c ∈ word, isSpace c = false)
    (hroom : line.length + 1 + word.length ≤ width) :
    Filled lead width (line ++ ' ' :: word) := by
  obtain ⟨t, ht, rfl, _⟩ := h
  refine ⟨t ++ ' ' :: word, ?_, by simp, Or.inl ?_⟩
  · have hline : IsOneLine ((t ++ [' ']) ++ word) := by
      apply IsOneLine.append (opensWithInk_append _ ht.opens) _ (isOneLine_of_ink hne hword)
      simp [ht.newline]
    simpa using hline
  · simp only [List.length_append, List.length_cons] at hroom ⊢
    omega

/-- Filling leaves every line filled, the open one to its own width and the others to theirs. -/
theorem filled_fill {lead : Text} (rest : Nat) {width : Nat} {line : Line} {more : List Text}
    (hwords : ∀ word ∈ more, word ≠ [] ∧ ∀ c ∈ word, isSpace c = false)
    (h : Filled lead width line) :
    ∃ first others, fill lead rest width line line.length more = first :: others ∧
      Filled lead width first ∧ ∀ piece ∈ others, Filled lead rest piece := by
  induction more generalizing width line with
  | nil => exact ⟨line, [], rfl, h, by simp⟩
  | cons word more ih =>
    obtain ⟨hne, hword⟩ := hwords word (by simp)
    have hmore := fun w (hw : w ∈ more) => hwords w (by simp [hw])
    by_cases hroom : line.length + 1 + word.length > width
    · obtain ⟨first, others, hfill, hfirst, hothers⟩ :=
        ih hmore (filled_word lead rest ⟨hne, hword⟩)
      refine ⟨line, first :: others, ?_, h, ?_⟩
      · rw [List.length_append] at hfill
        rw [fill, if_pos hroom, hfill]
      · intro piece hp
        rcases List.mem_cons.mp hp with rfl | hp
        · exact hfirst
        · exact hothers piece hp
    · have hlength : (line ++ ' ' :: word).length = line.length + 1 + word.length := by
        simp only [List.length_append, List.length_cons]
        omega
      obtain ⟨first, others, hfill, hrest⟩ := ih hmore (h.push hne hword (by omega))
      rw [hlength] at hfill
      exact ⟨first, others, by rw [fill, if_neg hroom, hfill], hrest⟩

/-- A line that is not broken at a width, nor at any greater one. -/
structure Keeps (width : Nat) (line : Line) : Prop where
  whole : ∀ wider rest, width ≤ wider → wrapLine line wider rest = [line]
  ink : isBlank line = false
  newline : '\n' ∉ line

theorem keeps_of_short {line : Line} {width : Nat} (h : line.length ≤ max width minWrapWidth)
    (hink : isBlank line = false) (hn : '\n' ∉ line) : Keeps width line := by
  refine ⟨fun wider rest hwider => ?_, hink, hn⟩
  have hfits : line.length ≤ max wider minWrapWidth := by omega
  simp [wrapLine, hfits]

theorem keeps_of_filled {lead : Text} {line : Line} {width : Nat}
    (hlead : ∀ c ∈ lead, isIndent c = true) (h : Filled lead (max width minWrapWidth) line) :
    Keeps width line := by
  obtain ⟨t, ht, rfl, hfits⟩ := h
  have hspace : ∀ c ∈ lead, isSpace c = true := fun c hc => isSpace_of_isIndent (hlead c hc)
  have hblank : isBlank (lead ++ t) = false := by
    have hall : lead.all isSpace = true := List.all_eq_true.mpr hspace
    have htext : t.all isSpace = false := ht.not_blank
    simp [isBlank, List.all_append, hall, htext]
  have hn : '\n' ∉ lead ++ t := by
    intro hmem
    rcases List.mem_append.mp hmem with hmem | hmem
    · exact absurd (hlead _ hmem) (by decide)
    · exact ht.newline hmem
  rcases hfits with hshort | hword
  · exact keeps_of_short hshort hblank hn
  · have hindent : indentOf (lead ++ t) = lead := by
      rw [indentOf, List.takeWhile_append_of_pos hlead]
      have hnone : indentOf t = [] := indentOf_of_opensWithInk ht.opens
      rw [indentOf] at hnone
      rw [hnone, List.append_nil]
    have hwords : words (lead ++ t) = [t] := by
      rw [words_append_of_blank t hspace, words_of_ink ht.nonempty hword]
    refine ⟨fun wider rest _ => ?_, hblank, hn⟩
    unfold wrapLine
    simp only [hwords, hindent, fill, ite_self]

/-- The pieces of a wrapped line are kept: the first at its width, the others at theirs. -/
theorem keeps_wrapLine {line : Line} (first rest : Nat) (hink : isBlank line = false)
    (hn : '\n' ∉ line) :
    ∃ piece others, wrapLine line first rest = piece :: others ∧ Keeps first piece ∧
      (∀ other ∈ others, Keeps rest other) ∧ (trim line = line → trim piece = piece) := by
  by_cases hshort : line.length ≤ max first minWrapWidth
  · refine ⟨line, [], by simp [wrapLine, hshort], keeps_of_short hshort hink hn, by simp, id⟩
  · obtain ⟨word, more, hwords⟩ := List.exists_cons_of_ne_nil (words_ne_nil hink)
    have hlead : ∀ c ∈ indentOf line, isIndent c = true := fun c hc =>
      List.mem_takeWhile_imp hc
    have hfirst : word ∈ words line := by simp [hwords]
    have hmore : ∀ w ∈ more, w ≠ [] ∧ ∀ c ∈ w, isSpace c = false := fun w hw =>
      mem_words (t := line) (by simp [hwords, hw])
    obtain ⟨piece, others, hfill, hpiece, hothers⟩ := filled_fill (max rest minWrapWidth) hmore
      (filled_word (indentOf line) (max first minWrapWidth) (mem_words hfirst))
    rw [List.length_append] at hfill
    refine ⟨piece, others, ?_, keeps_of_filled hlead hpiece,
      fun other ho => keeps_of_filled hlead (hothers other ho), ?_⟩
    · simp only [wrapLine, if_neg hshort, hwords, hfill]
    · intro htrim
      obtain ⟨t, ht, rfl, _⟩ := hpiece
      have hopen := (ink_of_trim htrim (by rintro rfl; simp [isBlank] at hink)).1
      rw [indentOf_of_opensWithInk hopen, List.nil_append]
      exact ht.trimmed

end Docstring.Text
