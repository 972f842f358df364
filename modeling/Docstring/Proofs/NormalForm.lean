-- Normalising text that is in normal form already. The first line is trimmed and has no say in the
-- margin. So a second pass changes something exactly when the first pass dropped a blank first
-- line: another line comes first then, and the lines below it may have a margin of their own.
import Docstring.Proofs.Normal
import Docstring.Proofs.Text.Margin

namespace Docstring

open Text

/-! ## What normal lines look like -/

/-- Clean lines that neither start nor end with an empty one. -/
structure IsNormal (lines : List Line) : Prop where
  clean : ∀ line ∈ lines, IsClean line
  opens : ∀ line ∈ lines.head?, line ≠ []
  ends : ∀ line ∈ lines.getLast?, line ≠ []

/-- The lines of a text before the margin is taken off. -/
def expandedLines (t : Text) : List Line := (splitLines t).map fun line => expandTabs (trimEnd line)

theorem isClean_of_mem_expandedLines {t : Text} {line : Line} (h : line ∈ expandedLines t) :
    IsClean line := by
  obtain ⟨raw, hraw, rfl⟩ := List.mem_map.mp h
  have hn : '\n' ∉ raw := newline_notMem_of_mem_splitLines hraw
  exact isClean_expandTabs (fun hmem => hn (mem_of_mem_trimEnd hmem)) (trimEnd_trimEnd raw)

theorem isClean_of_mem_stripMargin {margin : Nat} {lines : List Line} {line : Line}
    (hclean : ∀ l ∈ lines, IsClean l) (h : line ∈ stripMargin margin lines) : IsClean line := by
  cases lines with
  | nil => simp [stripMargin] at h
  | cons first rest =>
    rw [stripMargin, List.mem_cons] at h
    rcases h with rfl | h
    · exact isClean_trim (hclean first (by simp)).newline
    · obtain ⟨inner, hinner, rfl⟩ := List.mem_map.mp h
      exact isClean_stripColumns margin (hclean inner (by simp [hinner]))

theorem trimEmptyLines_eq (lines : List Line) :
    trimEmptyLines lines = (lines.rdropWhile List.isEmpty).dropWhile List.isEmpty := rfl

theorem isInfix_trimEmptyLines (lines : List Line) : trimEmptyLines lines <:+: lines :=
  (List.dropWhile_suffix _).isInfix.trans (List.rdropWhile_prefix _ _).isInfix

theorem opens_trimEmptyLines (lines : List Line) :
    ∀ line ∈ (trimEmptyLines lines).head?, line ≠ [] := by
  rintro line hl rfl
  have hhead := List.head?_dropWhile_not List.isEmpty (lines.rdropWhile List.isEmpty)
  rw [← trimEmptyLines_eq, hl] at hhead
  simp at hhead

theorem ends_trimEmptyLines (lines : List Line) :
    ∀ line ∈ (trimEmptyLines lines).getLast?, line ≠ [] := by
  rintro line hl rfl
  have hsuffix : trimEmptyLines lines <:+ lines.rdropWhile List.isEmpty := List.dropWhile_suffix _
  have hne : trimEmptyLines lines ≠ [] := by
    intro hnil
    simp [hnil] at hl
  have hkept : lines.rdropWhile List.isEmpty ≠ [] := fun hnil => hne (by simp_all)
  have hlast : (lines.rdropWhile List.isEmpty).getLast hkept = [] := by
    rw [← hsuffix.getLast hne]
    exact Option.some.inj ((List.getLast?_eq_some_getLast hne).symm.trans hl)
  have hink := List.rdropWhile_last_not List.isEmpty lines hkept
  rw [hlast] at hink
  exact hink rfl

theorem mem_dropWhile_isEmpty {lines : List Line} {line : Line} (h : line ∈ lines)
    (hne : line ≠ []) : line ∈ lines.dropWhile List.isEmpty := by
  rw [← List.takeWhile_append_dropWhile (p := List.isEmpty) (l := lines), List.mem_append] at h
  rcases h with h | h
  · exact absurd (List.isEmpty_iff.mp (List.mem_takeWhile_imp h)) hne
  · exact h

theorem mem_rdropWhile_isEmpty {lines : List Line} {line : Line} (h : line ∈ lines)
    (hne : line ≠ []) : line ∈ lines.rdropWhile List.isEmpty := by
  rw [List.rdropWhile, List.mem_reverse]
  exact mem_dropWhile_isEmpty (List.mem_reverse.mpr h) hne

/-- Lines at the ends are dropped up to a line that is not empty. -/
theorem trimEmptyLines_append_ink (above : List Line) {line : Line} (below : List Line)
    (h : line ≠ []) :
    trimEmptyLines (above ++ line :: below) =
      above.dropWhile List.isEmpty ++ line :: below.rdropWhile List.isEmpty := by
  rw [trimEmptyLines_eq, rdropWhile_append_cons above below (by simpa using h),
    List.dropWhile_append]
  split
  · rename_i hnone
    rw [List.isEmpty_iff.mp hnone]
    simp [h]
  · rfl

/-- A first line that is not empty stays, and only lines at the end are dropped. -/
theorem trimEmptyLines_cons {first : Line} (rest : List Line) (h : first ≠ []) :
    trimEmptyLines (first :: rest) = first :: rest.rdropWhile List.isEmpty :=
  trimEmptyLines_append_ink [] rest h

theorem isNormal_normalLines (t : Text) : IsNormal (normalLines t) where
  clean _ h := isClean_of_mem_stripMargin (fun _ => isClean_of_mem_expandedLines)
    ((isInfix_trimEmptyLines _).subset h)
  opens := opens_trimEmptyLines _
  ends := ends_trimEmptyLines _

/-- Normal lines are determined by the text that they make up. -/
theorem IsNormal.joinLines_inj {lines lines' : List Line} (h : IsNormal lines)
    (h' : IsNormal lines') (heq : joinLines lines = joinLines lines') : lines = lines' := by
  have hsplit : ∀ {l : List Line}, IsNormal l → l ≠ [] → splitLines (joinLines l) = l :=
    fun hl hne => splitLines_joinLines hne fun line hmem => (hl.clean line hmem).newline
  have hempty : ∀ {l : List Line}, IsNormal l → joinLines l = [] → l = [] := by
    intro l hl hnil
    by_contra hne
    have hone := hsplit hl hne
    rw [hnil, splitLines_nil] at hone
    exact hl.opens [] (by simp [← hone]) rfl
  by_cases hnil : lines = []
  · subst hnil
    exact (hempty h' heq.symm).symm
  · have hnil' : lines' ≠ [] := by
      rintro rfl
      exact hnil (hempty h heq)
    rw [← hsplit h hnil, heq, hsplit h' hnil']

/-! ## Lines from which nothing is taken -/

/-- Lines of which the first is not indented and the others have no margin: if some are not blank,
one of these counts as not indented. Below a section header on the first line, lines that are no
headers count one level less. -/
def IsFlush : List Line → Prop
  | [] => True
  | first :: rest =>
    opensWithInk first = true ∧
      ((∃ line ∈ rest, isBlank line = false ∧ marginOf (Google.isHeader first) line = 0) ∨
        ∀ line ∈ rest, isBlank line = true)

/-- The margin is that of some line, unless all lines are blank. -/
theorem exists_bodyMargin? (first : Line) (rest : List Line) :
    (∃ line ∈ rest, isBlank line = false ∧
        marginOf (Google.isHeader (trim first)) line = (bodyMargin? (first :: rest)).getD 0) ∨
      ((∀ line ∈ rest, isBlank line = true) ∧ (bodyMargin? (first :: rest)).getD 0 = 0) := by
  simp only [bodyMargin?]
  cases hmin : ((rest.filter fun line => !isBlank line).map
      (marginOf (Google.isHeader (trim first)))).min? with
  | none =>
    right
    rw [List.min?_eq_none_iff, List.map_eq_nil_iff, List.filter_eq_nil_iff] at hmin
    exact ⟨by simpa using hmin, rfl⟩
  | some margin =>
    left
    obtain ⟨line, hline, hmargin⟩ := List.mem_map.mp (List.min?_mem hmin)
    rw [List.mem_filter] at hline
    exact ⟨line, hline.1, by simpa using hline.2, hmargin⟩

theorem marginOf_le (headed : Bool) (line : Line) : marginOf headed line ≤ indentWidth line := by
  unfold marginOf
  split <;> omega

/-- No line that is not blank has less than the margin. -/
theorem bodyMargin?_le (first : Line) {line : Line} {rest : List Line} (h : line ∈ rest)
    (hink : isBlank line = false) :
    (bodyMargin? (first :: rest)).getD 0 ≤ marginOf (Google.isHeader (trim first)) line := by
  have hmem : marginOf (Google.isHeader (trim first)) line ∈
      (rest.filter fun line => !isBlank line).map (marginOf (Google.isHeader (trim first))) :=
    List.mem_map.mpr ⟨line, List.mem_filter.mpr ⟨h, by simp [hink]⟩, rfl⟩
  simp only [bodyMargin?]
  cases hmin : ((rest.filter fun line => !isBlank line).map
      (marginOf (Google.isHeader (trim first)))).min? with
  | none => exact Nat.zero_le _
  | some margin => exact (List.min?_eq_some_iff.mp hmin).2 _ hmem

/-- There is no margin exactly when some line counts as not indented or all are blank. -/
theorem bodyMargin?_eq_zero_iff {first : Line} {rest : List Line} (h : trim first = first) :
    (bodyMargin? (first :: rest)).getD 0 = 0 ↔
      (∃ line ∈ rest, isBlank line = false ∧ marginOf (Google.isHeader first) line = 0) ∨
        ∀ line ∈ rest, isBlank line = true := by
  rcases exists_bodyMargin? first rest with ⟨line, hline, hink, hmargin⟩ | ⟨hblank, hzero⟩
  · constructor
    · intro hzero
      exact Or.inl ⟨line, hline, hink, by rw [← h, hmargin, hzero]⟩
    · rintro (⟨other, hother, hink', hmargin'⟩ | hblank)
      · have hle := bodyMargin?_le first hother hink'
        rw [h, hmargin'] at hle
        exact Nat.le_zero.mp hle
      · exact absurd (hblank line hline) (by simp [hink])
  · exact iff_of_true hzero (Or.inr hblank)

/-- Taking a margin off lines changes one of them, unless there is no margin. -/
theorem isFlush_of_stripMargin {first : Line} {rest : List Line}
    (hclean : ∀ line ∈ first :: rest, IsClean line) (hne : first ≠ [])
    (h : stripMargin ((bodyMargin? (first :: rest)).getD 0) (first :: rest) = first :: rest) :
    IsFlush (first :: rest) := by
  rw [stripMargin, List.cons.injEq] at h
  obtain ⟨htrim, hrest⟩ := h
  refine ⟨(ink_of_trim htrim hne).1, (bodyMargin?_eq_zero_iff htrim).mp ?_⟩
  by_cases hblank : ∀ line ∈ rest, isBlank line = true
  · exact (bodyMargin?_eq_zero_iff htrim).mpr (Or.inr hblank)
  · simp only [not_forall, Bool.not_eq_true] at hblank
    obtain ⟨line, hline, hink⟩ := hblank
    have hmargin : (bodyMargin? (first :: rest)).getD 0 ≤ indentWidth line :=
      (bodyMargin?_le first hline hink).trans (marginOf_le _ line)
    have hkept : stripColumns ((bodyMargin? (first :: rest)).getD 0) line = line :=
      List.map_inj_left.mp (hrest.trans (List.map_id rest).symm) line hline
    have hwidth := indentWidth_stripColumns ((bodyMargin? (first :: rest)).getD 0)
      (hclean line (by simp [hline])).tab
    rw [hkept] at hwidth
    omega

/-- Normal lines are their own normal form exactly when nothing is taken from them. -/
theorem IsNormal.normalLines_joinLines_iff {lines : List Line} (h : IsNormal lines) :
    normalLines (joinLines lines) = lines ↔ IsFlush lines := by
  cases lines with
  | nil => exact iff_of_true (by decide) trivial
  | cons first rest =>
    rw [normalLines_joinLines_of_clean (by simp) h.clean]
    constructor
    · intro heq
      have hlength : (first :: rest).length =
          (stripMargin ((bodyMargin? (first :: rest)).getD 0) (first :: rest)).length := by
        simp [stripMargin]
      have hwhole := (isInfix_trimEmptyLines _).eq_of_length
        ((congrArg List.length heq).trans hlength)
      exact isFlush_of_stripMargin h.clean (h.opens first rfl) (hwhole.symm.trans heq)
    · rintro ⟨hink, hmargin⟩
      have htrim : trim first = first := trim_of_ink hink (h.clean first (by simp)).trimmed
      rw [(bodyMargin?_eq_zero_iff htrim).mpr hmargin, stripMargin_zero rest htrim]
      exact trimEmptyLines_of_ends h.opens h.ends

/-! ## Texts that start on their first line -/

theorem marginOf_stripColumns {line : Line} (headed : Bool) (columns : Nat) (h : IsClean line) :
    marginOf headed (stripColumns columns line) = marginOf headed line - columns := by
  unfold marginOf
  rw [trim_stripColumns, indentWidth_stripColumns columns h.tab]
  split <;> omega

/-- Once the margin is taken off lines of which the first is kept, they have none. -/
theorem isFlush_stripMargin {first : Line} {rest : List Line}
    (hclean : ∀ line ∈ first :: rest, IsClean line) (hink : isBlank first = false) :
    IsFlush (trimEmptyLines
      (stripMargin ((bodyMargin? (first :: rest)).getD 0) (first :: rest))) := by
  have hne : trim first ≠ [] := by
    intro hnil
    rw [← isBlank_trim, hnil] at hink
    exact absurd hink (by decide)
  rw [stripMargin, trimEmptyLines_cons _ hne]
  refine ⟨(ink_of_trim (trim_trim first) hne).1, ?_⟩
  rcases exists_bodyMargin? first rest with ⟨line, hline, hkept, hmargin⟩ | ⟨hblank, _⟩
  · left
    have hink' : isBlank (stripColumns ((bodyMargin? (first :: rest)).getD 0) line) = false := by
      rw [isBlank_stripColumns, hkept]
    refine ⟨_, mem_rdropWhile_isEmpty (List.mem_map_of_mem hline) ?_, hink', ?_⟩
    · intro hnil
      rw [hnil] at hink'
      exact absurd hink' (by decide)
    · rw [marginOf_stripColumns _ _ (hclean line (by simp [hline])), hmargin, Nat.sub_self]
  · right
    intro line hline
    obtain ⟨inner, hinner, rfl⟩ :=
      List.mem_map.mp ((List.rdropWhile_prefix _ _).subset hline)
    rw [isBlank_stripColumns, hblank inner hinner]

theorem isFlush_normalLines {t : Text} (h : isBlank (firstLine t) = false) :
    IsFlush (normalLines t) := by
  have hexpanded : expandedLines t = expandTabs (trimEnd (firstLine t)) ::
      (laterLines t).map fun line => expandTabs (trimEnd line) := by
    rw [expandedLines, splitLines_eq_cons, List.map_cons]
  change IsFlush (trimEmptyLines
    (stripMargin ((bodyMargin? (expandedLines t)).getD 0) (expandedLines t)))
  rw [hexpanded]
  apply isFlush_stripMargin
  · intro line hl
    rw [← hexpanded] at hl
    exact isClean_of_mem_expandedLines hl
  · rw [isBlank_expandTabs, isBlank_trimEnd, h]

/-! ## Normalising twice -/

/-- The first line of a normal text is not blank. -/
theorem firstLine_normalText {t : Text} {first : Line} {rest : List Line}
    (h : normalLines t = first :: rest) : isBlank (firstLine (normalText t)) = false := by
  have hnormal := isNormal_normalLines t
  rw [h] at hnormal
  have hsplit : splitLines (joinLines (first :: rest)) = first :: rest :=
    splitLines_joinLines (by simp) fun line hl => (hnormal.clean line hl).newline
  rw [normalText, h, firstLine, hsplit, List.headD_cons, ← Bool.not_eq_true,
    (hnormal.clean first (by simp)).blank_iff]
  exact hnormal.opens first rfl

/-- Normalising a text again changes nothing exactly when its normal lines are flush. They are
whenever the text starts on its first line; so the third pass never changes anything. -/
theorem normalizing_again_changes_nothing (t : Text) :
    (normalText (normalText t) = normalText t ↔ IsFlush (normalLines t)) ∧
      (isBlank (firstLine t) = false → normalText (normalText t) = normalText t) ∧
      normalText (normalText (normalText t)) = normalText (normalText t) := by
  have hiff : ∀ s, normalText (normalText s) = normalText s ↔ IsFlush (normalLines s) := by
    intro s
    rw [← (isNormal_normalLines s).normalLines_joinLines_iff]
    constructor
    · exact (isNormal_normalLines _).joinLines_inj (isNormal_normalLines s)
    · exact congrArg joinLines
  refine ⟨hiff t, fun h => (hiff t).mpr (isFlush_normalLines h), ?_⟩
  cases hlines : normalLines t with
  | nil =>
    have hnil : normalText t = [] := by rw [normalText, hlines, joinLines]
    rw [hnil]
    decide
  | cons first rest => exact (hiff _).mpr (isFlush_normalLines (firstLine_normalText hlines))

theorem a_list_below_its_summary_is_normalized_once :
    let t := "Run it.\n\n    make all\n      make test\n    ".toList
    isBlank (firstLine t) = false ∧ normalText t = "Run it.\n\nmake all\n  make test".toList ∧
      normalText (normalText t) = normalText t := by
  intro t
  have hfirst : isBlank (firstLine t) = false := by decide
  exact ⟨hfirst, by decide, (normalizing_again_changes_nothing t).2.1 hfirst⟩

/-- Below a blank first line, the first pass counts the summary's line into the margin. On the
second the summary stands on the first line, which does not count: what the lines below it are
indented by is taken from them as well, and a summary that was the deeper one is trimmed. -/
theorem normalizing_again_can_change_more :
    let t := "\n    Run it.\n\n        make all\n    ".toList
    let t' := "\n      Run it.\n    Twice.".toList
    (normalText t = "Run it.\n\n    make all".toList ∧
      normalText (normalText t) = "Run it.\n\nmake all".toList) ∧
    (normalText t' = "  Run it.\nTwice.".toList ∧
      normalText (normalText t') = "Run it.\nTwice.".toList) := by
  decide +kernel

end Docstring
