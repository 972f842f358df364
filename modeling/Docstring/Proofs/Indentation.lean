-- What normalising keeps of the lines of a text. Blank lines go from the ends; the others say what
-- they said, and below the first line all lose the same margin, so that they are indented against
-- each other as before.
import Docstring.Proofs.Literal.Margin

namespace Docstring

open Text

/-! ## One line -/

/-- What a line below the first becomes when a margin is taken off. -/
def shifted (margin : Nat) (raw : Line) : Line := stripColumns margin (expandTabs (trimEnd raw))

theorem trim_shifted (margin : Nat) (raw : Line) : trim (shifted margin raw) = trim raw := by
  rw [shifted, trim_stripColumns, trim_expandTabs, trim_trimEnd]

theorem indentWidth_shifted {raw : Line} (margin : Nat) (hn : '\n' ∉ raw)
    (hink : isBlank raw = false) : indentWidth (shifted margin raw) = indentWidth raw - margin := by
  have hclean : IsClean (expandTabs (trimEnd raw)) :=
    isClean_expandTabs (fun hmem => hn (mem_of_mem_trimEnd hmem)) (trimEnd_trimEnd raw)
  rw [shifted, indentWidth_stripColumns margin hclean.tab, indentWidth_expandTabs,
    indentWidth_trimEnd hink]

/-- No line below the first is indented by less than the margin. -/
theorem margin_le_indentWidth {t : Text} {raw : Line} (hraw : raw ∈ laterLines t)
    (hink : isBlank raw = false) : (bodyMargin? (splitLines t)).getD 0 ≤ indentWidth raw := by
  rw [splitLines_eq_cons]
  exact (bodyMargin?_le (firstLine t) hraw hink).trans (marginOf_le _ raw)

/-! ## All lines -/

/-- Each line of a text with what becomes of it, before lines are dropped at the ends. -/
def linePairs (t : Text) : List (Line × Line) :=
  (firstLine t, trim (firstLine t)) ::
    (laterLines t).map fun raw => (raw, shifted ((bodyMargin? (splitLines t)).getD 0) raw)

theorem map_fst_linePairs (t : Text) : (linePairs t).map Prod.fst = splitLines t := by
  rw [linePairs, List.map_cons, List.map_map, splitLines_eq_cons]
  exact congrArg _ (List.map_id _)

theorem trimEmptyLines_linePairs (t : Text) :
    trimEmptyLines ((linePairs t).map Prod.snd) = normalLines t := by
  rw [normalLines_eq, linePairs, List.map_cons, List.map_map, List.map_map]
  rfl

theorem trim_of_mem_linePairs {t : Text} {pair : Line × Line} (h : pair ∈ linePairs t) :
    trim pair.2 = trim pair.1 := by
  rcases List.mem_cons.mp h with rfl | h
  · exact trim_trim (firstLine t)
  · obtain ⟨raw, -, rfl⟩ := List.mem_map.mp h
    exact trim_shifted _ raw

/-- Below the first line, all lose the same margin. -/
theorem indentWidth_of_mem_tail_linePairs {t : Text} {pair : Line × Line}
    (h : pair ∈ (linePairs t).tail) (hink : isBlank pair.1 = false) :
    indentWidth pair.1 = indentWidth pair.2 + (bodyMargin? (splitLines t)).getD 0 := by
  obtain ⟨raw, hraw, rfl⟩ := List.mem_map.mp h
  have hmem : raw ∈ splitLines t := by
    rw [splitLines_eq_cons]
    exact List.mem_cons_of_mem _ hraw
  have hn : '\n' ∉ raw := newline_notMem_of_mem_splitLines hmem
  have hmargin := margin_le_indentWidth hraw hink
  dsimp only
  rw [indentWidth_shifted _ hn hink, Nat.sub_add_cancel hmargin]

/-! ## What is kept -/

/-- The pairs below the first line of the text, if `above` are the lines that are dropped before
them. -/
def laterPairs (above : List Line) (kept : List (Line × Line)) : List (Line × Line) :=
  kept.drop (1 - above.length)

/-- Lines with what normalising makes of them. Only blank lines are dropped, at the two ends; a line
that is kept changes in the white space around it only; what comes out is clean and neither starts
nor ends with a blank line; and below the first line of the text, two lines that are not blank
differ in their indentation as before. -/
structure Normalizes (above : List Line) (kept : List (Line × Line)) (below : List Line) :
    Prop where
  dropped : ∀ line ∈ above ++ below, isBlank line = true
  text : ∀ pair ∈ kept, trim pair.2 = trim pair.1
  trimmed : ∀ pair ∈ kept, trimEnd pair.2 = pair.2
  tabs : ∀ pair ∈ kept, '\t' ∉ indentOf pair.2
  blank : ∀ pair ∈ kept, isBlank pair.2 = true → pair.2 = []
  opens : ∀ pair ∈ kept.head?, isBlank pair.2 = false
  ends : ∀ pair ∈ kept.getLast?, isBlank pair.2 = false
  indented : ∀ p ∈ laterPairs above kept, ∀ q ∈ laterPairs above kept,
    isBlank p.1 = false → isBlank q.1 = false →
      (indentWidth p.2 : Int) - indentWidth q.2 = indentWidth p.1 - indentWidth q.1

theorem exists_kept (t : Text) : ∃ above kept below : List (Line × Line),
    linePairs t = above ++ kept ++ below ∧ kept.map Prod.snd = normalLines t ∧
      ∀ pair ∈ above ++ below, pair.2 = [] := by
  obtain ⟨below, hbelow, hlines⟩ := exists_trimEmptyLines ((linePairs t).map Prod.snd)
  rw [trimEmptyLines_linePairs] at hlines
  obtain ⟨rest, last, hpairs, hrest, hlast⟩ := List.map_eq_append_iff.mp hlines
  obtain ⟨first, kept, rfl, hfirst, hkept⟩ := List.map_eq_append_iff.mp hrest
  refine ⟨first, kept, last, hpairs, hkept, fun pair hpair => ?_⟩
  rcases List.mem_append.mp hpair with hpair | hpair
  · have hmem := List.mem_map_of_mem (f := Prod.snd) hpair
    rw [hfirst] at hmem
    exact List.isEmpty_iff.mp (List.mem_takeWhile_imp hmem)
  · apply hbelow
    rw [← hlast]
    exact List.mem_map_of_mem hpair

theorem indentWidth_of_mem_laterPairs {t : Text} {above kept below : List (Line × Line)}
    (hpairs : linePairs t = above ++ kept ++ below) {pair : Line × Line}
    (h : pair ∈ laterPairs (above.map Prod.fst) kept) (hink : isBlank pair.1 = false) :
    indentWidth pair.1 = indentWidth pair.2 + (bodyMargin? (splitLines t)).getD 0 := by
  refine indentWidth_of_mem_tail_linePairs ?_ hink
  rw [laterPairs, List.length_map] at h
  rw [hpairs, ← List.drop_one, List.append_assoc, List.drop_append, List.drop_append,
    List.mem_append, List.mem_append]
  exact .inr (.inl h)

/-- Normalising drops blank lines at the ends and white space around lines, and the lines below the
first keep their relative indentation. -/
theorem normalizing_keeps_relative_indentation (t : Text) :
    ∃ above kept below, splitLines t = above ++ kept.map Prod.fst ++ below ∧
      normalLines t = kept.map Prod.snd ∧ Normalizes above kept below := by
  obtain ⟨above, kept, below, hpairs, hkept, hempty⟩ := exists_kept t
  have hsays : ∀ pair ∈ above ++ kept ++ below, trim pair.2 = trim pair.1 := by
    intro pair hpair
    exact trim_of_mem_linePairs (hpairs ▸ hpair)
  have hnormal := isNormal_normalLines t
  rw [← hkept] at hnormal
  have hclean : ∀ pair ∈ kept, IsClean pair.2 := fun pair hpair =>
    hnormal.clean pair.2 (List.mem_map_of_mem hpair)
  have hink : ∀ pair ∈ kept, pair.2 ≠ [] → isBlank pair.2 = false := fun pair hpair hne =>
    Bool.eq_false_iff.mpr fun hblank => hne ((hclean pair hpair).blank_iff.mp hblank)
  refine ⟨above.map Prod.fst, kept, below.map Prod.fst, ?_, hkept.symm, ?_⟩
  · rw [← map_fst_linePairs, hpairs, List.map_append, List.map_append]
  · exact {
      dropped := by
        intro line hline
        rw [← List.map_append] at hline
        obtain ⟨pair, hpair, rfl⟩ := List.mem_map.mp hline
        have hsame := hsays pair (by simp only [List.mem_append] at hpair ⊢; tauto)
        rw [← isBlank_trim, ← hsame, hempty pair hpair]
        rfl
      text := fun pair hpair => hsays pair (by simp [hpair])
      trimmed := fun pair hpair => (hclean pair hpair).trimmed
      tabs := fun pair hpair => (hclean pair hpair).tab
      blank := fun pair hpair => (hclean pair hpair).blank_iff.mp
      opens := by
        intro pair hpair
        refine hink pair (List.mem_of_mem_head? hpair) (hnormal.opens pair.2 ?_)
        rw [List.head?_map]
        exact Option.mem_map_of_mem Prod.snd hpair
      ends := by
        intro pair hpair
        refine hink pair (List.mem_of_mem_getLast? hpair) (hnormal.ends pair.2 ?_)
        rw [List.getLast?_map]
        exact Option.mem_map_of_mem Prod.snd hpair
      indented := by
        intro p hp q hq hpink hqink
        have hpwidth := indentWidth_of_mem_laterPairs hpairs hp hpink
        have hqwidth := indentWidth_of_mem_laterPairs hpairs hq hqink
        omega }

example : normalLines "  One.\n\t  two\n\n        three \n  ".toList =
    ["One.".toList, "  two".toList, [], "three".toList] := by
  decide +kernel

end Docstring
