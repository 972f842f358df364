-- Entries within a width. Wrapping gives the line beside the lead the columns that the lead leaves
-- and the lines below it those behind their indentation. So a line of an entry is too long only if a
-- single word is, or if it was preformatted; and no word is lost or moved.
import Docstring.Proofs.Document.Broken
import Docstring.Proofs.Text.Division

namespace Docstring.Layout

open Text

/-! ## Narrow lines -/

/-- A line of at most `width` columns, or one with nothing but a single word behind its start. -/
def StaysWithin (width : Nat) (start : Text) (line : Line) : Prop :=
  line.length ≤ width ∨ ∃ word, words word = [word] ∧ line = start ++ word

theorem StaysWithin.behind {start piece : Text} {room width : Nat} (h : StaysWithin room [] piece)
    (hroom : start.length + room ≤ width) : StaysWithin width start (start ++ piece) := by
  rcases h with hshort | ⟨word, hword, rfl⟩
  · left
    rw [List.length_append]
    omega
  · exact .inr ⟨_, hword, rfl⟩

theorem staysWithin_indent {lines : List Line} {columns width : Nat} (hcolumns : columns ≤ width)
    (h : ∀ line ∈ lines, StaysWithin (width - columns) [] line) :
    ∀ line ∈ indent columns lines, StaysWithin width (spaces columns) line := by
  intro line hline
  rcases mem_indent hline with rfl | ⟨inner, hinner, -, rfl⟩
  · exact .inl (Nat.zero_le width)
  · refine (h inner hinner).behind ?_
    rw [spaces, List.length_replicate]
    omega

theorem staysWithin_wordLine {group : List Text} {width : Nat} (h : FitsLine [] width group)
    (hwords : ∀ word ∈ group, word ≠ [] ∧ ∀ c ∈ word, isSpace c = false) :
    StaysWithin width [] (wordLine [] group) := by
  rcases h with hshort | hone
  · exact .inl hshort
  · obtain ⟨word, rfl⟩ := List.length_eq_one_iff.mp hone
    obtain ⟨hne, hword⟩ := hwords word (by simp)
    exact .inr ⟨word, words_of_ink hne hword, rfl⟩

/-- A line that is not indented is broken into narrow ones, if no width is below the least one. -/
theorem staysWithin_wrapLine {line piece : Line} {others : List Line} {first rest : Nat}
    (hopen : indentOf line = []) (hfirst : minWrapWidth ≤ first) (hrest : minWrapWidth ≤ rest)
    (h : wrapLine line first rest = piece :: others) :
    StaysWithin first [] piece ∧ ∀ other ∈ others, StaysWithin rest [] other := by
  have hwraps := wrapsTo_wrapLine line first rest
  rw [max_eq_left hfirst, max_eq_left hrest, h] at hwraps
  rcases Nat.lt_or_ge first line.length with hlong | hshort
  · obtain ⟨groups, hpieces, hdivision, -⟩ := hwraps.divided hlong
    rw [hopen] at hpieces hdivision
    obtain ⟨group, more, rfl, rfl, rfl⟩ := List.map_eq_cons_iff.mp hpieces.symm
    have hwords : ∀ g ∈ group :: more, ∀ word ∈ g, word ≠ [] ∧ ∀ c ∈ word, isSpace c = false := by
      intro g hg word hword
      apply mem_words (t := line)
      rw [← hdivision.flatten]
      exact List.mem_flatten.mpr ⟨g, hg, hword⟩
    refine ⟨staysWithin_wordLine (hdivision.first group (by simp)) (hwords group (by simp)), ?_⟩
    intro other hother
    obtain ⟨g, hg, rfl⟩ := List.mem_map.mp hother
    exact staysWithin_wordLine (hdivision.rest g hg) (hwords g (by simp [hg]))
  · have hwhole := hwraps.whole hshort
    rw [List.cons.injEq] at hwhole
    obtain ⟨rfl, rfl⟩ := hwhole
    exact ⟨.inl hshort, by simp⟩

theorem indentOf_of_not_preformatted {line : Line} (h : isPreformatted line = false) :
    indentOf line = [] := by
  cases line with
  | nil => rfl
  | cons c rest =>
    simp only [isPreformatted, List.head?_cons, Option.map_some, Option.getD_some,
      Bool.or_eq_false_iff] at h
    exact indentOf_of_opensWithInk (by simp [opensWithInk, h.1.1])

/-! ## Lines of an entry -/

theorem indent_append (columns : Nat) (above below : List Line) :
    indent columns (above ++ below) = indent columns above ++ indent columns below := by
  rw [indent, indent, indent, List.map_append]

theorem flatMap_words_indent (columns : Nat) (lines : List Line) :
    (indent columns lines).flatMap words = lines.flatMap words := by
  rw [indent, List.flatMap_map]
  refine List.flatMap_congr fun line _ => ?_
  split
  · rfl
  · refine words_append_of_blank line fun c hc => ?_
    rw [List.eq_of_mem_replicate hc]
    exact isSpace_space

/-- The lines that come of one line of a description: they carry its words, and they are narrow
unless the line is preformatted, which stands as it is behind its indentation. -/
structure ComesFrom (width continuation : Nat) (raw : Line) (lines : List Line) : Prop where
  words : lines.flatMap words = words raw
  narrow : (isPreformatted raw = true ∧ lines = [spaces continuation ++ raw]) ∨
    ∀ line ∈ lines, StaysWithin width (spaces continuation) line

theorem comesFrom_wrapProseLine {width continuation : Nat}
    (h : continuation + minWrapWidth ≤ width) (raw : Line) :
    ComesFrom width continuation raw
      (indent continuation (wrapProseLine (width - continuation) raw)) := by
  refine ⟨by rw [flatMap_words_indent, flatMap_words_wrapProseLine], ?_⟩
  unfold wrapProseLine
  split
  · refine .inr (staysWithin_indent (by omega) fun line hline => ?_)
    rw [List.mem_singleton.mp hline]
    exact .inl (Nat.zero_le _)
  · rename_i hink
    split
    · rename_i hpre
      have hne : raw ≠ [] := by
        rintro rfl
        exact hink rfl
      exact .inl ⟨hpre, indent_cons_of_ne continuation [] hne⟩
    · rename_i hpre
      refine .inr (staysWithin_indent (by omega) fun line hline => ?_)
      obtain ⟨piece, others, hpieces⟩ :=
        List.exists_cons_of_ne_nil (List.ne_nil_of_mem hline)
      have hopen := indentOf_of_not_preformatted (Bool.eq_false_iff.mpr hpre)
      obtain ⟨hpiece, hothers⟩ :=
        staysWithin_wrapLine hopen (by omega) (by omega) hpieces
      rw [hpieces] at hline
      rcases List.mem_cons.mp hline with rfl | hline
      · exact hpiece
      · exact hothers line hline

/-- An entry on its lines: the lead with the start of the description, `head`, beside it, then what
is left of the description's first line, and then the lines of each later one. -/
structure Hangs (column : Nat) (lead t : Text) (width continuation : Nat) (gap head : Text)
    (below : List Line) (groups : List (List Line)) : Prop where
  lines : hanging column lead t width continuation =
    (spaces column ++ lead ++ gap ++ head) :: (below ++ groups.flatten)
  space : gap = [] ∨ gap = [' ']
  opening : StaysWithin width (spaces column ++ lead ++ gap) (spaces column ++ lead ++ gap ++ head)
  rest : ∀ line ∈ below, StaysWithin width (spaces continuation) line
  later : List.Forall₂ (ComesFrom width continuation) (laterLines t) groups
  words : (head :: (below ++ groups.flatten)).flatMap words = words t

/-- The start of a description stands behind the lead and, if both say something, a space. -/
theorem exists_gap {lead piece : Text} {column width : Nat}
    (hroom : column + lead.length + 1 ≤ width) (h : StaysWithin (room column lead width) [] piece) :
    ∃ gap, (gap = [] ∨ gap = [' ']) ∧ beside lead piece = lead ++ gap ++ piece ∧
      StaysWithin width (spaces column ++ lead ++ gap) (spaces column ++ lead ++ gap ++ piece) := by
  have hspaces : (spaces column).length = column := List.length_replicate
  by_cases hpiece : piece = []
  · subst hpiece
    refine ⟨[], .inl rfl, by simp [beside_nil_right], .inl ?_⟩
    simp only [List.length_append, List.length_nil, hspaces]
    omega
  · by_cases hnone : lead = []
    · subst hnone
      refine ⟨[], .inl rfl, beside_nil_left piece, h.behind ?_⟩
      simp only [List.length_append, List.length_nil, hspaces, room, List.isEmpty_nil, if_true]
      omega
    · refine ⟨[' '], .inr rfl, by rw [beside_eq_append hnone hpiece, List.append_assoc]; rfl,
        h.behind ?_⟩
      simp only [List.length_append, List.length_singleton, hspaces, room,
        List.isEmpty_eq_false_iff.mpr hnone, Bool.false_eq_true, if_false]
      omega

theorem staysWithin_firstPieces {piece : Line} {others : List Line} {t : Text} {room rest : Nat}
    (hroom : minWrapWidth ≤ room) (hrest : minWrapWidth ≤ rest)
    (h : firstPieces room rest (trim t) = piece :: others) :
    StaysWithin room [] piece ∧ ∀ other ∈ others, StaysWithin rest [] other := by
  unfold firstPieces at h
  split at h
  · obtain ⟨rfl, rfl⟩ := List.cons.inj h
    exact ⟨.inl (Nat.zero_le room), by simp⟩
  · rename_i hne
    have hopen := (ink_of_trim (trim_trim t) (by simpa using hne)).1
    exact staysWithin_wrapLine (indentOf_of_opensWithInk hopen) hroom hrest h

/-- An entry stays within its width: a line that is longer holds a single word behind its start, or
is a preformatted line of the description; and behind the lead, the lines carry the words of the
description in order. -/
theorem an_entry_stays_within_its_width (column : Nat) (lead t : Text) (width continuation : Nat)
    (hlead : column + lead.length + 1 + 20 ≤ width) (hcontinuation : continuation + 20 ≤ width) :
    ∃ gap head below groups, Hangs column lead t width continuation gap head below groups := by
  have hmin : minWrapWidth = 20 := rfl
  have hroom : minWrapWidth ≤ room column lead width := by
    unfold room
    split <;> omega
  obtain ⟨head, others, hfirst, -⟩ := firstPieces_keeps (room column lead width)
    (width - continuation) (trim_trim (firstLine t)) (newline_notMem_trim_firstLine t)
  obtain ⟨hhead, hothers⟩ := staysWithin_firstPieces hroom (by omega) hfirst
  obtain ⟨gap, hgap, hbeside, hopening⟩ := exists_gap (by omega) hhead
  refine ⟨gap, head, indent continuation others, (laterLines t).map fun raw =>
    indent continuation (wrapProseLine (width - continuation) raw), ?_, hgap, hopening,
    staysWithin_indent (by omega) hothers, ?_, ?_⟩
  · have hpieces : entryPieces column lead t width continuation =
        head :: (others ++ (laterLines t).flatMap (wrapProseLine (width - continuation))) := by
      rw [entryPieces, hfirst, List.cons_append]
    rw [hanging_eq_pieces _ _ _ _ _ hpieces, hbeside, ← List.flatMap_def, ← indent_flatMap,
      indent_append]
    simp
  · rw [List.forall₂_map_right_iff, List.forall₂_same]
    exact fun raw _ => comesFrom_wrapProseLine (by omega) raw
  · have hwords := flatMap_words_firstPieces (room column lead width) (width - continuation)
      (trim (firstLine t))
    rw [hfirst, List.flatMap_cons, words_trim] at hwords
    calc (head :: (indent continuation others ++ ((laterLines t).map fun raw =>
          indent continuation (wrapProseLine (width - continuation) raw)).flatten)).flatMap words
        = words head ++ (others.flatMap words ++ ((laterLines t).flatMap
            (wrapProseLine (width - continuation))).flatMap words) := by
          rw [List.flatMap_cons, List.flatMap_append, ← List.flatMap_def, ← indent_flatMap,
            flatMap_words_indent, flatMap_words_indent]
      _ = words (firstLine t) ++ (laterLines t).flatMap words := by
          rw [flatMap_words_lines, ← List.append_assoc, hwords]
      _ = words t := by
          rw [← flatMap_words_splitLines t, splitLines_eq_cons, List.flatMap_cons]

/-- A word that is too long, a preformatted line, and one that is broken. -/
theorem a_parameter_stays_within_its_width :
    let t := ("of-a-word-that-is-as-long-as-a-whole-line and more\n" ++
      ">>> preformatted(\"text\", \"is\", \"kept\")\nand one that is broken between words").toList
    (4 + "x (int):".toList.length + 1 + 20 ≤ 36 ∧ 8 + 20 ≤ 36) ∧
      hanging 4 "x (int):".toList t 36 8 =
        ["    x (int): of-a-word-that-is-as-long-as-a-whole-line".toList,
          "        and more".toList,
          "        >>> preformatted(\"text\", \"is\", \"kept\")".toList,
          "        and one that is broken".toList,
          "        between words".toList] ∧
      ∃ gap head below groups, Hangs 4 "x (int):".toList t 36 8 gap head below groups := by
  intro t
  exact ⟨⟨by decide, by decide⟩, by decide +kernel,
    an_entry_stays_within_its_width 4 _ t 36 8 (by decide) (by decide)⟩

end Docstring.Layout
