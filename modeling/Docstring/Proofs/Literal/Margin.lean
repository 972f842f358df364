-- Lines behind a margin. A margin of spaces and tabs comes off again as so many columns, whatever
-- mixture it is: reading the lines expands it, measures the least of them, and takes that away.
import Docstring.Proofs.NormalForm
import Docstring.Proofs.Text.Prose

namespace Docstring

open Text

namespace Text

/-! ## Indentation before a line -/

/-- Nothing but spaces and tabs. -/
def IsIndentation (t : Text) : Prop := ∀ c ∈ t, isIndent c = true

instance (t : Text) : Decidable (IsIndentation t) :=
  decidable_of_iff (t.all isIndent = true) List.all_eq_true

variable {margin line : Text}

theorem isIndentation_indentOf (line : Line) : IsIndentation (indentOf line) :=
  fun _ hc => List.mem_takeWhile_imp hc

theorem isIndentation_spaces (n : Nat) : IsIndentation (spaces n) := fun c hc => by
  rw [List.eq_of_mem_replicate hc]
  decide

theorem IsIndentation.newline (h : IsIndentation margin) : '\n' ∉ margin :=
  fun hmem => absurd (h _ hmem) (by decide)

theorem IsIndentation.isBlank (h : IsIndentation margin) : isBlank margin = true :=
  List.all_eq_true.mpr fun c hc => isSpace_of_isIndent (h c hc)

theorem indentOf_append (h : IsIndentation margin) (line : Line) :
    indentOf (margin ++ line) = margin ++ indentOf line :=
  List.takeWhile_append_of_pos h

theorem IsIndentation.indentOf_eq (h : IsIndentation margin) : indentOf margin = margin := by
  simpa [indentOf] using indentOf_append h []

/-- The rest of a line stands behind as many spaces as the line is indented by. -/
theorem expandTabs_eq {rest : Text} (h : line = indentOf line ++ rest) :
    expandTabs line = spaces (indentWidth line) ++ rest := by
  unfold expandTabs
  split
  · rw [drop_length_indentOf h]
  · rename_i htab
    have hspaces : indentOf line = spaces (indentOf line).length := by
      refine List.eq_replicate_iff.mpr ⟨rfl, fun c hc => ?_⟩
      have hindent := isIndentation_indentOf line c hc
      have htab' : c ≠ '\t' := fun hc' => htab (hc' ▸ hc)
      simpa [isIndent, htab'] using hindent
    rw [indentWidth, foldl_advanceColumn htab, Nat.zero_add, ← hspaces, ← h]

theorem indentWidth_expandTabs (line : Line) : indentWidth (expandTabs line) = indentWidth line := by
  obtain ⟨rest, hline, hrest⟩ := exists_indented line
  rw [expandTabs_eq hline, indentWidth_spaces_append _ (by simp [hrest])]
  simp [indentWidth, hrest]

theorem trim_append_of_blank (h : isBlank margin = true) (line : Line) :
    trim (margin ++ line) = trim line := by
  induction margin with
  | nil => rfl
  | cons c margin ih =>
    rw [isBlank, List.all_cons, Bool.and_eq_true] at h
    rw [List.cons_append, trim_space_cons _ h.1, ih h.2]

theorem trim_expandTabs (line : Line) : trim (expandTabs line) = trim line := by
  obtain ⟨rest, hline, -⟩ := exists_indented line
  conv => rhs; rw [hline]
  rw [expandTabs_eq hline, trim_append_of_blank (isIndentation_spaces _).isBlank,
    trim_append_of_blank (isBlank_indentOf line)]

theorem trim_trimEnd (line : Line) : trim (trimEnd line) = trim line := by
  induction line using List.reverseRecOn with
  | nil => rfl
  | append_singleton line c ih =>
    cases hc : isSpace c with
    | true =>
      have hdrop : trimEnd (line ++ [c]) = trimEnd line := List.rdropWhile_concat_pos _ _ _ hc
      rw [hdrop, ih, trim_append_isSpace line hc]
    | false =>
      have hkept : trimEnd (line ++ [c]) = line ++ [c] :=
        List.rdropWhile_concat_neg _ _ _ (by simp [hc])
      rw [hkept]

theorem indentWidth_trimEnd (h : isBlank line = false) :
    indentWidth (trimEnd line) = indentWidth line := by
  obtain ⟨finish, hline⟩ := List.rdropWhile_prefix isSpace line
  have hline : trimEnd line ++ finish = line := hline
  have hink : ∃ c ∈ trimEnd line, isIndent c = false := by
    rw [← isBlank_trimEnd, isBlank, List.all_eq_false] at h
    obtain ⟨c, hc, hspace⟩ := h
    refine ⟨c, hc, ?_⟩
    by_contra hindent
    exact hspace (isSpace_of_isIndent (by simpa using hindent))
  have hsame : indentOf line = indentOf (trimEnd line) := by
    conv => lhs; rw [← hline]
    rw [indentOf, List.takeWhile_append, if_neg]
    · rfl
    · intro hlength
      obtain ⟨c, hc, hindent⟩ := hink
      have hall := List.takeWhile_eq_self_iff.mp
        ((List.takeWhile_prefix isIndent).eq_of_length hlength)
      exact Bool.false_ne_true (hindent.symm.trans (hall c hc))
  rw [indentWidth, indentWidth, hsame]

/-- A line behind a margin is read with the columns of the margin as spaces before it. -/
theorem expandTabs_append (h : IsIndentation margin) (hline : IsClean line) :
    expandTabs (margin ++ line) = spaces (indentWidth margin) ++ line := by
  obtain ⟨rest, hrest, -⟩ := exists_indented line
  have hsplit : margin ++ line = indentOf (margin ++ line) ++ rest := by
    rw [indentOf_append h, List.append_assoc, ← hrest]
  have hwidth : indentWidth (margin ++ line) = indentWidth margin + indentWidth line := by
    rw [indentWidth, indentOf_append h, List.foldl_append, foldl_advanceColumn hline.tab,
      indentWidth, h.indentOf_eq, indentWidth, foldl_advanceColumn hline.tab, Nat.zero_add]
  calc expandTabs (margin ++ line) = spaces (indentWidth margin + indentWidth line) ++ rest := by
        rw [expandTabs_eq hsplit, hwidth]
    _ = spaces (indentWidth margin) ++ (spaces (indentWidth line) ++ rest) := by
        simp [spaces, ← List.append_assoc, List.replicate_append_replicate]
    _ = spaces (indentWidth margin) ++ line := by
        rw [← expandTabs_eq hrest, expandTabs_of_clean hline]

/-- Columns that were taken off a line that is indented far enough can be put back. -/
theorem spaces_append_stripColumns {columns : Nat} (h : IsClean line)
    (hwidth : columns ≤ indentWidth line) : spaces columns ++ stripColumns columns line = line := by
  obtain ⟨rest, hrest, -⟩ := exists_indented line
  obtain ⟨more, hmore⟩ := Nat.exists_eq_add_of_le hwidth
  have hline : line = spaces columns ++ (spaces more ++ rest) := by
    rw [← expandTabs_of_clean h, expandTabs_eq hrest, hmore]
    simp [spaces, ← List.append_assoc, List.replicate_append_replicate]
  conv => lhs; rw [hline, stripColumns_spaces_append]
  exact hline.symm

end Text

/-! ## Lines at the ends -/

theorem trimEmptyLines_concat_nil (lines : List Line) :
    trimEmptyLines (lines ++ [[]]) = trimEmptyLines lines := by
  rw [trimEmptyLines_eq, List.rdropWhile_concat_pos _ _ _ rfl, ← trimEmptyLines_eq]

theorem trimEmptyLines_nil_cons (lines : List Line) :
    trimEmptyLines ([] :: lines) = trimEmptyLines lines := by
  induction lines using List.reverseRecOn with
  | nil => rfl
  | append_singleton init last ih =>
    by_cases hlast : last = []
    · subst hlast
      rw [← List.cons_append, trimEmptyLines_concat_nil, ih, trimEmptyLines_concat_nil]
    · rw [trimEmptyLines_eq, trimEmptyLines_eq, ← List.cons_append,
        List.rdropWhile_concat_neg _ _ _ (by simpa using hlast),
        List.rdropWhile_concat_neg _ _ _ (by simpa using hlast)]
      rfl

/-- Empty lines at the ends make no difference. -/
theorem trimEmptyLines_append {above below : List Line} (lines : List Line)
    (habove : ∀ line ∈ above, line = []) (hbelow : ∀ line ∈ below, line = []) :
    trimEmptyLines (above ++ lines ++ below) = trimEmptyLines lines := by
  have hstart : ∀ more, trimEmptyLines (above ++ more) = trimEmptyLines more := by
    intro more
    induction above with
    | nil => rfl
    | cons line above ih =>
      rw [habove line (by simp), List.cons_append, trimEmptyLines_nil_cons,
        ih fun line hl => habove line (by simp [hl])]
  rw [List.append_assoc, hstart]
  induction below using List.reverseRecOn with
  | nil => rw [List.append_nil]
  | append_singleton below line ih =>
    rw [hbelow line (by simp), ← List.append_assoc, trimEmptyLines_concat_nil,
      ih fun line hl => hbelow line (by simp [hl])]

/-- What is dropped are the empty lines at the start, and some at the end. -/
theorem exists_trimEmptyLines (lines : List Line) :
    ∃ below : List Line, (∀ line ∈ below, line = []) ∧
      lines = lines.takeWhile List.isEmpty ++ trimEmptyLines lines ++ below := by
  induction lines with
  | nil => exact ⟨[], by simp, rfl⟩
  | cons line lines ih =>
    by_cases hline : line = []
    · subst hline
      obtain ⟨below, hbelow, hlines⟩ := ih
      refine ⟨below, hbelow, ?_⟩
      conv => lhs; rw [hlines]
      rw [trimEmptyLines_nil_cons]
      rfl
    · refine ⟨lines.rtakeWhile List.isEmpty,
        fun line hl => List.isEmpty_iff.mp (List.mem_rtakeWhile_imp hl), ?_⟩
      rw [trimEmptyLines_cons _ hline, List.takeWhile_cons_of_neg (by simpa using hline),
        List.nil_append, List.cons_append, List.rdropWhile_append_rtakeWhile]

/-! ## Measuring the margin -/

theorem mem_trimEmptyLines {line : Line} (h : line ∈ lines) (hne : line ≠ []) :
    line ∈ trimEmptyLines lines := by
  obtain ⟨below, hbelow, hlines⟩ := exists_trimEmptyLines lines
  rw [hlines, List.mem_append, List.mem_append] at h
  rcases h with (habove | hmem) | hmem
  · exact absurd (List.isEmpty_iff.mp (List.mem_takeWhile_imp habove)) hne
  · exact hmem
  · exact absurd (hbelow line hmem) hne

/-- The margin of lines as they are written is the one that is measured once tabs are expanded. -/
theorem bodyMargin?_map_expandTabs (lines : List Line) :
    bodyMargin? (lines.map fun line => expandTabs (trimEnd line)) = bodyMargin? lines := by
  cases lines with
  | nil => rfl
  | cons first rest =>
    have hwidth : ∀ headed, ∀ line ∈ rest.filter fun line => !isBlank line,
        marginOf headed (expandTabs (trimEnd line)) = marginOf headed line := by
      intro headed line hline
      have hink : isBlank line = false := by simpa using (List.mem_filter.mp hline).2
      rw [marginOf, trim_expandTabs, trim_trimEnd, indentWidth_expandTabs, indentWidth_trimEnd hink,
        marginOf]
    simp only [List.map_cons, bodyMargin?, trim_expandTabs, trim_trimEnd, List.filter_map,
      List.map_map]
    congr 1
    have hfilter : rest.filter ((fun line => !isBlank line) ∘ fun line => expandTabs (trimEnd line)) =
        rest.filter fun line => !isBlank line :=
      List.filter_congr fun line _ => by simp [isBlank_expandTabs, isBlank_trimEnd]
    rw [hfilter]
    exact List.map_congr_left (hwidth _)

/-- The normal lines from the lines as they are written. -/
theorem normalLines_eq (t : Text) : normalLines t = trimEmptyLines (trim (firstLine t) ::
    ((laterLines t).map fun line => expandTabs (trimEnd line)).map
      (stripColumns ((bodyMargin? (splitLines t)).getD 0))) := by
  simp only [normalLines, bodyMargin?_map_expandTabs]
  rw [splitLines_eq_cons, List.map_cons, stripMargin, trim_expandTabs, trim_trimEnd]

/-- There is no margin to measure when only the first line says something. -/
theorem isBlank_of_bodyMargin?_eq_none {first line : Line} {rest : List Line}
    (h : bodyMargin? (first :: rest) = none) (hline : line ∈ rest) : isBlank line = true := by
  rw [bodyMargin?, List.min?_eq_none_iff, List.map_eq_nil_iff, List.filter_eq_nil_iff] at h
  simpa using h line hline

/-- Some line stands at the first column, or there are only empty ones. -/
def IsLevel (lines : List Line) : Prop :=
  (∃ line ∈ lines, isBlank line = false ∧ indentWidth line = 0) ∨ ∀ line ∈ lines, line = []

instance (lines : List Line) : Decidable (IsLevel lines) :=
  inferInstanceAs (Decidable (_ ∨ _))

theorem isLevel_of_head {lines : List Line} (h : ∀ line ∈ lines.head?, opensWithInk line = true) :
    IsLevel lines := by
  cases lines with
  | nil => exact .inr (by simp)
  | cons line rest =>
    have hink := h line rfl
    exact .inl ⟨line, by simp, not_blank_of_opensWithInk hink, indentWidth_of_opensWithInk hink⟩

theorem isLevel_append {above lines : List Line} (habove : ∀ line ∈ above, line = [])
    (h : IsLevel lines) : IsLevel (above ++ lines) := by
  refine h.imp (fun ⟨line, hline, hlevel⟩ => ⟨line, by simp [hline], hlevel⟩) fun hempty => ?_
  exact List.forall_mem_append.mpr ⟨habove, hempty⟩

/-- The indentation that counts is what a margin is added to. Below a header it may be nothing for
lines that are indented less than the body of a section is; these have no margin before them. -/
theorem marginOf_spaces_append {headed : Bool} {line : Line} {columns : Nat}
    (htab : '\t' ∉ indentOf line)
    (h : headed = true → columns = 0 ∨ Google.isHeader (trim line) = true ∨
      Google.bodyIndent ≤ indentWidth line) :
    marginOf headed (spaces columns ++ line) = columns + marginOf headed line := by
  rw [marginOf, marginOf, trim_append_of_blank (isIndentation_spaces columns).isBlank,
    indentWidth_spaces_append columns htab]
  cases headed with
  | false => rfl
  | true =>
    rcases h rfl with rfl | hheader | hdeep
    · simp
    · simp [hheader]
    · split
      · omega
      · rfl

/-- Lines below `first` that are found again when a margin is put before them: it adds to the
indentation of each of them, and what they share is nothing. -/
structure LevelBelow (first : Line) (columns : Nat) (lines : List Line) : Prop where
  shifted : ∀ line ∈ lines, isBlank line = false →
    marginOf (Google.isHeader (trim first)) (spaces columns ++ line) =
      columns + marginOf (Google.isHeader (trim first)) line
  level : (∃ line ∈ lines, isBlank line = false ∧
    marginOf (Google.isHeader (trim first)) line = 0) ∨ ∀ line ∈ lines, line = []

theorem IsLevel.levelBelow {first : Line} {lines : List Line} (h : IsLevel lines)
    (hheader : Google.isHeader (trim first) = false) (hclean : ∀ line ∈ lines, IsClean line)
    (columns : Nat) : LevelBelow first columns lines where
  shifted line hline _ := marginOf_spaces_append (hclean line hline).tab
    fun hheaded => absurd (hheader.symm.trans hheaded) Bool.false_ne_true
  level := h.imp_left fun ⟨line, hline, hink, hwidth⟩ =>
    ⟨line, hline, hink, Nat.le_zero.mp ((marginOf_le _ line).trans_eq hwidth)⟩

/-- Lines of which one has no indentation have the margin that they are put behind. -/
theorem bodyMargin?_indent {first line : Line} {rest : List Line} {columns : Nat}
    (h : LevelBelow first columns rest) (hline : line ∈ rest) (hink : isBlank line = false)
    (hwidth : marginOf (Google.isHeader (trim first)) line = 0) :
    bodyMargin? (first :: indent columns rest) = some columns := by
  have hne : line ≠ [] := by
    rintro rfl
    exact absurd hink (by decide)
  rw [bodyMargin?, List.min?_eq_some_iff]
  constructor
  · refine List.mem_map.mpr ⟨spaces columns ++ line, List.mem_filter.mpr ⟨?_, ?_⟩, ?_⟩
    · exact List.mem_map.mpr ⟨line, hline, by simp [hne]⟩
    · simp [hink]
    · rw [h.shifted line hline hink, hwidth, Nat.add_zero]
  · intro n hn
    obtain ⟨inner, hinner, rfl⟩ := List.mem_map.mp hn
    obtain ⟨hmem, hink'⟩ := List.mem_filter.mp hinner
    rcases mem_indent hmem with rfl | ⟨below, hbelow, _, rfl⟩
    · cases hink'
    · rw [h.shifted below hbelow (by simpa using hink')]
      exact Nat.le_add_right _ _

theorem stripColumns_indent (columns : Nat) (lines : List Line) :
    (indent columns lines).map (stripColumns columns) = lines := by
  rw [indent, List.map_map]
  conv => rhs; rw [← List.map_id lines]
  refine List.map_congr_left fun line _ => ?_
  by_cases hne : line = []
  · simp [hne, stripColumns]
  · simp [hne]

/-- The margin of lines of which some has no indentation comes off again, whatever it is. -/
theorem stripMargin_indent {first : Line} {rest : List Line} {columns : Nat}
    (h : LevelBelow first columns rest) :
    stripMargin ((bodyMargin? (first :: indent columns rest)).getD 0)
      (first :: indent columns rest) = trim first :: rest := by
  rcases h.level with ⟨line, hline, hink, hwidth⟩ | hempty
  · rw [bodyMargin?_indent h hline hink hwidth, Option.getD_some, stripMargin,
      stripColumns_indent]
  · have hindent : indent columns rest = rest := by
      conv => rhs; rw [← List.map_id rest]
      exact List.map_congr_left fun line hline => by simp [hempty line hline]
    have hmargin : HasNoMargin (first :: rest) := .inr hempty
    have hid : stripColumns 0 = id := funext stripColumns_zero
    rw [hindent, bodyMargin?_of_hasNoMargin hmargin, stripMargin, hid, List.map_id]

/-- The lines below the first one are its normal lines behind a margin. -/
theorem spaces_append_stripMargin (first : Line) {line : Line} {rest : List Line} (hline : line ∈ rest)
    (hclean : IsClean line) (hink : isBlank line = false) :
    spaces ((bodyMargin? (first :: rest)).getD 0) ++
      stripColumns ((bodyMargin? (first :: rest)).getD 0) line = line :=
  spaces_append_stripColumns hclean ((bodyMargin?_le first hline hink).trans (marginOf_le _ _))

theorem indent_stripMargin (first : Line) {rest : List Line}
    (hclean : ∀ line ∈ rest, IsClean line) :
    indent ((bodyMargin? (first :: rest)).getD 0)
      (rest.map (stripColumns ((bodyMargin? (first :: rest)).getD 0))) = rest := by
  rw [indent, List.map_map]
  conv => rhs; rw [← List.map_id rest]
  refine List.map_congr_left fun line hline => ?_
  cases hink : isBlank line with
  | true => simp [(hclean line hline).blank_iff.mp hink, stripColumns]
  | false =>
    have hne : stripColumns ((bodyMargin? (first :: rest)).getD 0) line ≠ [] := by
      intro hnil
      rw [← isBlank_stripColumns ((bodyMargin? (first :: rest)).getD 0), hnil] at hink
      exact absurd hink (by decide)
    simp [hne, spaces_append_stripMargin first hline (hclean line hline) hink]

/-- Below a header, the margin was added to the indentation of each line, too. -/
theorem marginOf_stripMargin (first : Line) {line : Line} {rest : List Line} (hline : line ∈ rest)
    (hclean : IsClean line) (hink : isBlank line = false) :
    let margin := (bodyMargin? (first :: rest)).getD 0
    marginOf (Google.isHeader (trim first)) (spaces margin ++ stripColumns margin line) =
      margin + marginOf (Google.isHeader (trim first)) (stripColumns margin line) := by
  intro margin
  have hle := bodyMargin?_le first hline hink
  have hwhole := spaces_append_stripMargin first hline hclean hink
  have htab := (isClean_stripColumns margin hclean).tab
  refine marginOf_spaces_append htab fun hheaded => ?_
  by_contra hneither
  obtain ⟨hmargin, hheader, hshallow⟩ : margin ≠ 0 ∧
      ¬Google.isHeader (trim (stripColumns margin line)) = true ∧
      ¬Google.bodyIndent ≤ indentWidth (stripColumns margin line) := by
    simpa only [not_or] using hneither
  rw [← hwhole, marginOf, trim_append_of_blank (isIndentation_spaces _).isBlank,
    indentWidth_spaces_append _ htab, hheaded, Bool.true_and, if_pos (by simpa using hheader)] at hle
  change margin ≤ _ at hle
  omega

end Docstring
