-- Lines as groups of words. Greedy filling divides the words of a line into groups that fit, no
-- other such division has fewer groups, and a block that was wrapped is its own wrapping.
import Docstring.Proofs.Text.Lines
import Docstring.Proofs.Text.Wrap

namespace Docstring.Text

/-! ## Groups of words -/

/-- The line of some words behind an indentation. -/
def wordLine (lead : Text) (group : List Text) : Line := lead ++ joinWords group

/-- A line of at most `width` columns, or of a single word. -/
def FitsLine (lead : Text) (width : Nat) (group : List Text) : Prop :=
  (wordLine lead group).length ≤ width ∨ group.length = 1

/-- A division of words into consecutive lines behind an indentation: the first line fits `first`
columns, and the others fit `rest`. -/
structure Division (lead : Text) (first rest : Nat) (words : List Text)
    (groups : List (List Text)) : Prop where
  flatten : groups.flatten = words
  nonempty : [] ∉ groups
  first : ∀ group ∈ groups.head?, FitsLine lead first group
  rest : ∀ group ∈ groups.tail, FitsLine lead rest group

theorem joinWords_append {a b : List Text} (ha : a ≠ []) (hb : b ≠ []) :
    joinWords (a ++ b) = joinWords a ++ ' ' :: joinWords b := by
  induction a with
  | nil => exact absurd rfl ha
  | cons word a ih =>
    cases a with
    | nil =>
      obtain ⟨next, b, rfl⟩ := List.exists_cons_of_ne_nil hb
      rfl
    | cons next a =>
      have hrest := ih (by simp)
      simp only [List.cons_append, joinWords] at hrest ⊢
      rw [hrest, List.append_assoc, List.cons_append]

@[simp] theorem wordLine_singleton (lead word : Text) : wordLine lead [word] = lead ++ word := rfl

theorem wordLine_concat {group : List Text} (lead word : Text) (h : group ≠ []) :
    wordLine lead (group ++ [word]) = wordLine lead group ++ ' ' :: word := by
  rw [wordLine, joinWords_append h (by simp), wordLine, List.append_assoc]
  rfl

/-- A line is at least as long as each part of it. -/
theorem length_wordLine_le (lead : Text) (before group after : List Text) :
    (wordLine lead group).length ≤ (wordLine lead (before ++ group ++ after)).length := by
  have hright : (joinWords group).length ≤ (joinWords (group ++ after)).length := by
    by_cases hg : group = []
    · simp [hg, joinWords]
    · by_cases ha : after = []
      · simp [ha]
      · simp [joinWords_append hg ha]
  have hleft : (joinWords (group ++ after)).length ≤
      (joinWords (before ++ (group ++ after))).length := by
    by_cases hb : before = []
    · simp [hb]
    · by_cases hg : group ++ after = []
      · simp [hg, joinWords]
      · simp only [joinWords_append hb hg, List.length_append, List.length_cons]
        omega
  simp only [wordLine, List.length_append, List.append_assoc] at hright hleft ⊢
  omega

section Division

variable {lead : Text} {first rest : Nat} {group more : List Text} {groups : List (List Text)}

theorem division_singleton (hne : group ≠ []) (h : FitsLine lead first group) :
    Division lead first rest group [group] where
  flatten := by simp
  nonempty := by simpa using hne.symm
  first := by simpa using h
  rest := by simp

/-- From the second line on all lines have the same width. -/
theorem Division.cons (hne : group ≠ []) (hfirst : FitsLine lead first group)
    (h : Division lead rest rest more groups) :
    Division lead first rest (group ++ more) (group :: groups) where
  flatten := by rw [List.flatten_cons, h.flatten]
  nonempty := by simpa [hne.symm] using h.nonempty
  first := by simpa using hfirst
  rest other ho := by
    cases groups with
    | nil => simp at ho
    | cons next groups =>
      rcases List.mem_cons.mp ho with rfl | ho
      · exact h.first other (by simp)
      · exact h.rest other ho

theorem Division.tail {words : List Text} (h : Division lead first rest words (group :: groups)) :
    Division lead rest rest groups.flatten groups where
  flatten := rfl
  nonempty hmem := h.nonempty (List.mem_cons_of_mem _ hmem)
  first other ho := h.rest other (List.mem_of_mem_head? ho)
  rest other ho := h.rest other (List.mem_of_mem_tail ho)

end Division

/-! ## Greedy filling -/

/-- Filling divides the words: those of the open line come first, and each group fits. -/
theorem exists_division_fill {lead : Text} (width rest : Nat) (group more : List Text)
    (hne : group ≠ []) (h : FitsLine lead width group) :
    ∃ groups, fill lead rest width (wordLine lead group) (wordLine lead group).length more =
        groups.map (wordLine lead) ∧
      Division lead width rest (group ++ more) groups := by
  induction more generalizing width group with
  | nil => exact ⟨[group], rfl, by simpa using division_singleton hne h⟩
  | cons word more ih =>
    by_cases hroom : (wordLine lead group).length + 1 + word.length > width
    · obtain ⟨groups, hfill, hdivision⟩ := ih rest [word] (by simp) (Or.inr rfl)
      refine ⟨group :: groups, ?_, by simpa using hdivision.cons hne h⟩
      rw [fill, if_pos hroom, List.map_cons, ← hfill, wordLine_singleton, List.length_append]
    · have hlength : (wordLine lead (group ++ [word])).length =
          (wordLine lead group).length + 1 + word.length := by
        simp only [wordLine_concat lead word hne, List.length_append, List.length_cons]
        omega
      obtain ⟨groups, hfill, hdivision⟩ := ih width (group ++ [word]) (by simp)
        (Or.inl (by omega))
      refine ⟨groups, ?_, by simpa using hdivision⟩
      rw [fill, if_neg hroom, ← hfill, hlength, wordLine_concat lead word hne]

/-- A line that fits does not hold several words that do not fit together. -/
theorem not_fitsLine_of_part {lead : Text} {width : Nat} (before group after : List Text)
    (hseveral : 1 < group.length) (h : width < (wordLine lead group).length) :
    ¬FitsLine lead width (before ++ group ++ after) := by
  have hlength := length_wordLine_le lead before group after
  rintro (hshort | hone)
  · omega
  · simp only [List.length_append] at hone
    omega

/-- A line of a division that fits does not reach beyond the open line, if a word more does not fit
there: what is left of the words below it ends the words of the next lines. -/
theorem suffix_of_overflow {lead : Text} {width : Nat} {first later group more : List Text}
    {word : Text} (hne : group ≠ []) (hfits : FitsLine lead width first)
    (hleft : group ++ word :: more <:+ first ++ later)
    (hroom : width < (wordLine lead (group ++ [word])).length) : word :: more <:+ later := by
  by_contra hnot
  obtain ⟨before, hbefore⟩ := hleft
  have hword : word :: more <:+ first ++ later := ⟨before ++ group, by simpa using hbefore⟩
  have hflat : later <:+ first ++ later := List.suffix_append first later
  have hshort : later.length ≤ more.length := by
    by_contra hlong
    exact hnot (List.suffix_of_suffix_length_le hword hflat (Nat.lt_of_not_le hlong))
  -- The first line of the division would hold the open line and the word after it.
  obtain ⟨middle, hmiddle⟩ := List.suffix_of_suffix_length_le hflat
    ((List.suffix_cons word more).trans hword) hshort
  have hfirst : first = before ++ (group ++ [word]) ++ middle := by
    apply (List.append_left_inj later).mp
    rw [← hbefore, ← hmiddle]
    simp
  refine not_fitsLine_of_part before (group ++ [word]) middle ?_ hroom (hfirst ▸ hfits)
  have hpos := List.length_pos_of_ne_nil hne
  simp only [List.length_append, List.length_singleton]
  omega

/-- The lines of any division stay behind those of filling. The words that filling has not placed
on a closed line are the last words of what the division has left, so it needs as many lines for
them. -/
theorem length_fill_le {lead : Text} {width rest : Nat} {group more words : List Text}
    {groups : List (List Text)} (hne : group ≠ []) (hleft : group ++ more <:+ words)
    (h : Division lead width rest words groups) :
    (fill lead rest width (wordLine lead group) (wordLine lead group).length more).length ≤
      groups.length := by
  induction more generalizing width group words groups with
  | nil =>
    cases groups with
    | nil =>
      have hnil : words = [] := h.flatten.symm
      rw [hnil, List.append_nil, List.suffix_nil] at hleft
      exact absurd hleft hne
    | cons first groups => simp [fill]
  | cons word more ih =>
    have hlength : (wordLine lead (group ++ [word])).length =
        (wordLine lead group).length + 1 + word.length := by
      simp only [wordLine_concat lead word hne, List.length_append, List.length_cons]
      omega
    by_cases hroom : (wordLine lead group).length + 1 + word.length > width
    · rw [fill, if_pos hroom]
      cases groups with
      | nil =>
        have hnil : words = [] := h.flatten.symm
        simp [hnil] at hleft
      | cons first groups =>
        have hsplit : first ++ groups.flatten = words := by simpa using h.flatten
        have hrest := suffix_of_overflow hne (h.first first (by simp)) (hsplit ▸ hleft) (by omega)
        have hmore := ih (List.cons_ne_nil word []) hrest h.tail
        simpa using hmore
    · rw [fill, if_neg hroom, ← wordLine_concat lead word hne, ← hlength]
      exact ih (by simp) (by simpa using hleft) h

/-! ## One line -/

/-- What wrapping a line gives. A line that fits is left alone. One that is too long is divided
behind its own indentation, and no other division of its words has fewer lines. -/
structure WrapsTo (line : Line) (first rest : Nat) (pieces : List Line) : Prop where
  whole : line.length ≤ first → pieces = [line]
  divided : first < line.length → ∃ groups,
    pieces = groups.map (wordLine (indentOf line)) ∧
    Division (indentOf line) first rest (words line) groups ∧
    ∀ others, Division (indentOf line) first rest (words line) others →
      groups.length ≤ others.length

theorem wrapsTo_wrapLine (line : Line) (first rest : Nat) :
    WrapsTo line (max first minWrapWidth) (max rest minWrapWidth) (wrapLine line first rest) where
  whole h := by simp [wrapLine, h]
  divided h := by
    simp only [wrapLine, if_neg (Nat.not_le.mpr h)]
    cases hwords : words line with
    | nil => exact ⟨[], rfl, ⟨rfl, by simp, by simp, by simp⟩, fun _ _ => Nat.zero_le _⟩
    | cons word more =>
      obtain ⟨groups, hfill, hdivision⟩ := exists_division_fill
        (max first minWrapWidth) (max rest minWrapWidth) [word] more (by simp)
        (show FitsLine (indentOf line) _ [word] from Or.inr rfl)
      have hleast : ∀ others, Division (indentOf line) (max first minWrapWidth)
          (max rest minWrapWidth) (word :: more) others → groups.length ≤ others.length := by
        intro others hothers
        have hlength := length_fill_le (List.cons_ne_nil word []) List.suffix_rfl hothers
        rwa [hfill, List.length_map] at hlength
      rw [wordLine_singleton, List.length_append] at hfill
      exact ⟨groups, hfill, hdivision, hleast⟩

/-! ## Blocks -/

theorem trimEnd_wordLine {lead : Text} {group : List Text} (hne : group ≠ [])
    (hink : ∀ word ∈ group, word ≠ [] ∧ ∀ c ∈ word, isSpace c = false) :
    trimEnd (wordLine lead group) = wordLine lead group := by
  obtain ⟨init, last, rfl⟩ := (List.eq_nil_or_concat' group).resolve_left hne
  have hlast := isOneLine_of_ink (hink last (by simp)).1 (hink last (by simp)).2
  by_cases hinit : init = []
  · simp only [hinit, List.nil_append, wordLine, joinWords]
    exact trimEnd_append lead hlast.trimEnd hlast.nonempty
  · have hsplit : wordLine lead (init ++ [last]) = (wordLine lead init ++ [' ']) ++ last := by
      simp [wordLine_concat lead last hinit]
    rw [hsplit]
    exact trimEnd_append _ hlast.trimEnd hlast.nonempty

/-- No piece of a line that ends in ink ends in white space. -/
theorem trimEnd_of_mem_wrapLine {line piece : Line} {first rest : Nat} (h : trimEnd line = line)
    (hpiece : piece ∈ wrapLine line first rest) : trimEnd piece = piece := by
  have hwraps := wrapsTo_wrapLine line first rest
  rcases Nat.lt_or_ge (max first minWrapWidth) line.length with hlong | hshort
  · obtain ⟨groups, hpieces, hdivision, -⟩ := hwraps.divided hlong
    rw [hpieces] at hpiece
    obtain ⟨group, hgroup, rfl⟩ := List.mem_map.mp hpiece
    apply trimEnd_wordLine
    · rintro rfl
      exact hdivision.nonempty hgroup
    · intro word hword
      apply mem_words (t := line)
      rw [← hdivision.flatten]
      exact List.mem_flatten.mpr ⟨group, hgroup, hword⟩
  · rw [hwraps.whole hshort, List.mem_singleton] at hpiece
    rw [hpiece, h]

/-- A line that a block of this width keeps: an empty one, or one that ends in ink and is not
broken. -/
def KeepsBlockLine (width : Nat) (line : Line) : Prop :=
  line = [] ∨ Keeps width line ∧ trimEnd line = line

theorem KeepsBlockLine.newline {width : Nat} {line : Line} (h : KeepsBlockLine width line) :
    '\n' ∉ line := by
  rcases h with rfl | h
  · simp
  · exact h.1.newline

/-- The lines that one line of a block becomes. -/
theorem exists_wrapLines_cons {line : Line} (first rest : Nat) (lines : List Line)
    (hn : '\n' ∉ line) :
    ∃ piece others, wrapLines first rest (line :: lines) =
        piece :: others ++ wrapLines rest rest lines ∧
      KeepsBlockLine first piece ∧ ∀ other ∈ others, KeepsBlockLine rest other := by
  rw [wrapLines]
  cases hblank : isBlank line with
  | true => exact ⟨[], [], rfl, Or.inl rfl, by simp⟩
  | false =>
    obtain ⟨piece, others, hpieces, hpiece, hothers, -⟩ :=
      keeps_wrapLine first rest ((isBlank_trimEnd line).trans hblank)
        fun hmem => hn (mem_of_mem_trimEnd hmem)
    have hend : ∀ p ∈ piece :: others, trimEnd p = p := fun p hp =>
      trimEnd_of_mem_wrapLine (trimEnd_trimEnd line) (hpieces ▸ hp)
    exact ⟨piece, others, by simp [hpieces], Or.inr ⟨hpiece, hend piece (by simp)⟩,
      fun other ho => Or.inr ⟨hothers other ho, hend other (by simp [ho])⟩⟩

/-- The first line of a wrapped block is kept at its width, and the others at theirs. -/
theorem keepsBlockLine_of_mem_wrapLines {lines : List Line} (first rest : Nat)
    (hn : ∀ line ∈ lines, '\n' ∉ line) :
    (∀ piece ∈ (wrapLines first rest lines).head?, KeepsBlockLine first piece) ∧
      ∀ piece ∈ (wrapLines first rest lines).tail, KeepsBlockLine rest piece := by
  induction lines generalizing first with
  | nil => simp [wrapLines]
  | cons line lines ih =>
    obtain ⟨piece, others, hwrap, hpiece, hothers⟩ :=
      exists_wrapLines_cons first rest lines (hn line (by simp))
    obtain ⟨hhead, htail⟩ := ih rest fun l hl => hn l (by simp [hl])
    rw [hwrap, List.cons_append]
    refine ⟨by simpa using hpiece, ?_⟩
    intro p hp
    rcases List.mem_append.mp hp with hp | hp
    · exact hothers p hp
    · cases hlater : wrapLines rest rest lines with
      | nil => simp [hlater] at hp
      | cons next later =>
        rw [hlater] at hp hhead htail
        rcases List.mem_cons.mp hp with rfl | hp
        · exact hhead p (by simp)
        · exact htail p hp

theorem wrapLines_of_keeps {lines : List Line} {first rest : Nat}
    (hhead : ∀ line ∈ lines.head?, KeepsBlockLine first line)
    (htail : ∀ line ∈ lines.tail, KeepsBlockLine rest line) :
    wrapLines first rest lines = lines := by
  induction lines generalizing first with
  | nil => rfl
  | cons line lines ih =>
    have hrest : wrapLines rest rest lines = lines :=
      ih (fun l hl => htail l (List.mem_of_mem_head? hl))
        fun l hl => htail l (List.mem_of_mem_tail hl)
    rw [wrapLines, hrest]
    rcases hhead line (by simp) with rfl | ⟨hkeeps, hend⟩
    · rfl
    · simp [hkeeps.ink, hend, hkeeps.whole first rest le_rfl]

theorem wrapBlock_ne_nil (t : Text) (first rest : Nat) : wrapBlock t first rest ≠ [] := by
  have hmem : firstLine t ∈ splitLines t := by simp [splitLines_eq_cons]
  obtain ⟨piece, others, hwrap, -⟩ := exists_wrapLines_cons first rest (laterLines t)
    (newline_notMem_of_mem_splitLines hmem)
  rw [wrapBlock, splitLines_eq_cons, hwrap]
  simp

/-- A block that was wrapped is its own wrapping. -/
theorem wrapBlock_wrapBlock (t : Text) (first rest : Nat) :
    wrapBlock (joinLines (wrapBlock t first rest)) first rest = wrapBlock t first rest := by
  obtain ⟨hhead, htail⟩ := keepsBlockLine_of_mem_wrapLines first rest
    fun line (hl : line ∈ splitLines t) => newline_notMem_of_mem_splitLines hl
  have hn : ∀ line ∈ wrapBlock t first rest, '\n' ∉ line := by
    intro line hl
    obtain ⟨piece, others, hlines⟩ := List.exists_cons_of_ne_nil (wrapBlock_ne_nil t first rest)
    rw [wrapBlock] at hl hlines
    rw [hlines] at hl hhead htail
    rcases List.mem_cons.mp hl with rfl | hl
    · exact (hhead line (by simp)).newline
    · exact (htail line hl).newline
  rw [wrapBlock, splitLines_joinLines (wrapBlock_ne_nil t first rest) hn]
  exact wrapLines_of_keeps hhead htail

/-- A line that fits is left alone. Any other is divided at its words, behind its own indentation,
into the fewest lines that fit; and wrapping a block a second time changes nothing. -/
theorem wrapping_makes_the_fewest_lines_and_settles (line : Line) (t : Text) (first rest : Nat) :
    WrapsTo line (max first minWrapWidth) (max rest minWrapWidth) (wrapLine line first rest) ∧
      wrapBlock (joinLines (wrapBlock t first rest)) first rest = wrapBlock t first rest :=
  ⟨wrapsTo_wrapLine line first rest, wrapBlock_wrapBlock t first rest⟩

/-- A word that is too long stands on a line of its own. -/
example : wrapBlock "  1. one two-three-four-five-six seven eight\n\nnine".toList 0 24 =
    ["  1. one".toList, "  two-three-four-five-six".toList, "  seven eight".toList, [],
      "nine".toList] := by
  decide +kernel

end Docstring.Text
