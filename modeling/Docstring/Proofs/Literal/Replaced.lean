-- Reading a literal with replaced lines. What was put in stands between the lines as they were,
-- except where it comes before a first line that stood on the line of the opening quotes: that one is
-- then a line like the others, behind whatever it was written behind.
import Docstring.Proofs.Literal.ReadBack

namespace Docstring

open Text

namespace Literal

variable {q : Quote} {l : Literal} {t raw s newBody : Text} {lines newLines : List Line}
  {line : Line} {siteIndent : Text}

/-- A first line that is dropped is blank, and so it is no header. -/
theorem isHeader_firstLine (h : Google.isHeader ((normalLines t).headD []) = false) :
    Google.isHeader (trim (firstLine t)) = false := by
  by_cases hnil : trim (firstLine t) = []
  · rw [hnil]
    decide
  · rwa [normalLines_eq, trimEmptyLines_cons _ hnil, List.headD_cons] at h

/-- Where the line of the opening quotes is blank, the margin is taken off every line. -/
theorem isLevel_normalLines_of_blank (h : isBlank (firstLine t) = true) :
    IsLevel (normalLines t) := by
  have hnil : trim (firstLine t) = [] :=
    eq_nil_of_blank (trimEnd_trimEnd _) (by rw [isBlank_trim, h])
  have hlines : normalLines t = trimEmptyLines (((laterLines t).map fun line =>
      expandTabs (trimEnd line)).map (stripColumns ((bodyMargin? (splitLines t)).getD 0))) := by
    rw [normalLines_eq, hnil, trimEmptyLines_nil_cons]
  rw [splitLines_eq_cons] at hlines
  rcases exists_bodyMargin? (firstLine t) (laterLines t) with ⟨line, hline, hink, hmargin⟩ | ⟨hblank, _⟩
  · have hwidth : indentWidth line = (bodyMargin? (firstLine t :: laterLines t)).getD 0 := by
      rw [← hmargin, hnil, Docstring.marginOf]
      rfl
    have hexpanded : IsClean (expandTabs (trimEnd line)) := by
      refine isClean_of_mem_expandedLines (t := t) ?_
      rw [expandedLines, splitLines_eq_cons]
      exact List.mem_map_of_mem (List.mem_cons_of_mem _ hline)
    have hstripped : isBlank (stripColumns (indentWidth line) (expandTabs (trimEnd line))) = false := by
      rw [isBlank_stripColumns, isBlank_expandTabs, isBlank_trimEnd, hink]
    refine .inl ⟨_, ?_, hstripped, ?_⟩
    · rw [hlines, ← hwidth]
      refine mem_trimEmptyLines (List.mem_map_of_mem (List.mem_map_of_mem hline)) fun hempty => ?_
      rw [hempty] at hstripped
      cases hstripped
    · rw [indentWidth_stripColumns _ hexpanded.tab, indentWidth_expandTabs,
        indentWidth_trimEnd hink, Nat.sub_self]
  · refine .inr fun line hl => ?_
    rw [hlines] at hl
    obtain ⟨expanded, hexpanded, rfl⟩ := List.mem_map.mp ((isInfix_trimEmptyLines _).subset hl)
    obtain ⟨inner, hinner, rfl⟩ := List.mem_map.mp hexpanded
    rw [expandTabs_trimEnd_of_blank (hblank inner hinner)]
    simp [stripColumns]

theorem isLevel_normalLines (t : Text) : IsLevel (normalLines t) := by
  cases hfirst : isBlank (firstLine t) with
  | true => exact isLevel_normalLines_of_blank hfirst
  | false =>
    refine isLevel_of_head fun line hline => ?_
    obtain ⟨rest, hlines⟩ := List.head?_eq_some_iff.mp hline
    have hflush := isFlush_normalLines hfirst
    rw [hlines] at hflush
    exact hflush.1

/-- The lines below the first one stand behind the margin, and in normal form they do not. -/
theorem exists_indented_lines (hmargin : l.margin = marginOf l.rawLines siteIndent) :
    ∃ rest, (∀ line ∈ rest, IsClean line) ∧
      (∀ line ∈ rest, isBlank line = false →
        Docstring.marginOf (Google.isHeader (trim (firstLine l.raw)))
            (spaces l.marginWidth ++ line) =
          l.marginWidth + Docstring.marginOf (Google.isHeader (trim (firstLine l.raw))) line) ∧
      (laterLines l.raw).map (fun line => expandTabs (trimEnd line)) = indent l.marginWidth rest ∧
      normalLines l.raw = trimEmptyLines (trim (firstLine l.raw) :: rest) := by
  have hexpanded : expandedLines l.raw = expandTabs (trimEnd (firstLine l.raw)) ::
      (laterLines l.raw).map fun line => expandTabs (trimEnd line) := by
    rw [expandedLines, splitLines_eq_cons, List.map_cons]
  have hclean : ∀ line ∈ (laterLines l.raw).map fun line => expandTabs (trimEnd line),
      IsClean line := fun line hl =>
    isClean_of_mem_expandedLines (hexpanded ▸ List.mem_cons_of_mem _ hl)
  have hfirst : trim (expandTabs (trimEnd (firstLine l.raw))) = trim (firstLine l.raw) := by
    rw [trim_expandTabs, trim_trimEnd]
  have hindent := indent_stripMargin (expandTabs (trimEnd (firstLine l.raw))) hclean
  have hshifted := fun line hl =>
    marginOf_stripMargin (expandTabs (trimEnd (firstLine l.raw))) hl (hclean line hl)
  rw [← hexpanded, expandedLines, bodyMargin?_map_expandTabs] at hindent hshifted
  rw [hfirst] at hshifted
  have hwidth : ∀ width, bodyMargin? (splitLines l.raw) = some width → l.marginWidth = width :=
    fun width hwidth => by rw [marginWidth, hmargin, rawLines, indentWidth_marginOf hwidth]
  have hnone : bodyMargin? (splitLines l.raw) = none → ∀ line ∈ laterLines l.raw,
      expandTabs (trimEnd line) = [] := by
    intro hnone line hl
    rw [splitLines_eq_cons] at hnone
    exact expandTabs_trimEnd_of_blank (isBlank_of_bodyMargin?_eq_none hnone hl)
  refine ⟨_, fun line hl => ?_, fun line hl hink => ?_, ?_, normalLines_eq l.raw⟩
  · obtain ⟨inner, hinner, rfl⟩ := List.mem_map.mp hl
    exact isClean_stripColumns _ (hclean inner hinner)
  · obtain ⟨inner, hinner, rfl⟩ := List.mem_map.mp hl
    rw [isBlank_stripColumns] at hink
    cases hmargin? : bodyMargin? (splitLines l.raw) with
    | some width =>
      rw [hmargin?, Option.getD_some] at hshifted
      rw [hwidth width hmargin?]
      exact hshifted inner hinner hink
    | none =>
      obtain ⟨line, hline, rfl⟩ := List.mem_map.mp hinner
      rw [hnone hmargin? line hline] at hink
      cases hink
  · cases hmargin? : bodyMargin? (splitLines l.raw) with
    | some width =>
      rw [hmargin?, Option.getD_some] at hindent
      rw [Option.getD_some, hwidth width hmargin?, hindent]
    | none =>
      rw [indent, List.map_map, List.map_map]
      refine List.map_congr_left fun line hl => ?_
      simp [hnone hmargin? line hl, stripColumns]

/-- On the line of the opening quotes stands the first line in normal form, and the others stand
behind the margin. -/
theorem shifted_of_beside (hmargin : l.margin = marginOf l.rawLines siteIndent)
    (hbeside : l.startsBelow = false) {first : Line} {rest : List Line}
    (h : normalLines l.raw = first :: rest) : first = trim (firstLine l.raw) ∧
      ∀ line ∈ rest, isBlank line = false →
        Docstring.marginOf (Google.isHeader first) (spaces l.marginWidth ++ line) =
          l.marginWidth + Docstring.marginOf (Google.isHeader first) line := by
  obtain ⟨written, _, hshifted, hlines, hnormal⟩ := exists_indented_lines hmargin
  rw [h] at hnormal
  by_cases hnil : trim (firstLine l.raw) = []
  · have hlater : laterLines l.raw = [] := by
      have hblank : isBlank (firstLine l.raw) = true := by rw [← isBlank_trim, hnil]; rfl
      rw [startsBelow, rawLines, splitLines_eq_cons] at hbeside
      simpa [hblank] using hbeside
    rw [hlater, List.map_nil] at hlines
    obtain rfl : written = [] := by simpa [indent] using hlines.symm
    rw [hnil] at hnormal
    cases hnormal
  · rw [trimEmptyLines_cons _ hnil] at hnormal
    obtain ⟨rfl, rfl⟩ := List.cons.inj hnormal
    exact ⟨rfl, fun line hline => hshifted line ((List.rdropWhile_prefix _ _).subset hline)⟩

/-- The lines that are dropped at the start are those that are blank as written. -/
theorem length_takeWhile_isEmpty {rest : List Line}
    (hlines : (laterLines l.raw).map (fun line => expandTabs (trimEnd line)) =
      indent l.marginWidth rest) :
    ((trim (firstLine l.raw) :: rest).takeWhile List.isEmpty).length = l.lead := by
  have hblank : ∀ line : Line, (expandTabs (trimEnd line)).isEmpty = isBlank line := by
    intro line
    rw [Bool.eq_iff_iff, List.isEmpty_iff]
    refine ⟨fun hnil => ?_, expandTabs_trimEnd_of_blank⟩
    rw [← isBlank_trimEnd, ← isBlank_expandTabs, hnil]
    rfl
  have hfirst : (trim (firstLine l.raw)).isEmpty = isBlank (firstLine l.raw) := by
    have htrim : trimEnd (trim (firstLine l.raw)) = trim (firstLine l.raw) := trimEnd_trimEnd _
    rw [← isBlank_trim, Bool.eq_iff_iff, List.isEmpty_iff, blank_iff_of_trimEnd htrim]
  have hrest : (rest.takeWhile List.isEmpty).length =
      ((laterLines l.raw).takeWhile isBlank).length := by
    calc (rest.takeWhile List.isEmpty).length
        = ((indent l.marginWidth rest).takeWhile List.isEmpty).length := by
          rw [indent, List.takeWhile_map, List.length_map]
          congr 2
          funext line
          cases line <;> simp
      _ = ((laterLines l.raw).takeWhile isBlank).length := by
          rw [← hlines, List.takeWhile_map, List.length_map]
          congr 2
          exact funext hblank
  rw [lead, rawLines, splitLines_eq_cons, List.takeWhile_cons, List.takeWhile_cons, hfirst]
  split <;> simp [hrest]

theorem lead_pos_iff : 0 < l.lead ↔ isBlank (firstLine l.raw) = true := by
  rw [lead, rawLines, splitLines_eq_cons, List.takeWhile_cons]
  split <;> simp_all

theorem isBlank_firstLine_of_lead (h : l.lead = 0) : isBlank (firstLine l.raw) = false := by
  by_contra hblank
  have hpos := lead_pos_iff.mpr (Bool.not_eq_false _ ▸ hblank)
  omega

theorem lead_pos (h : l.startsBelow = true) : 0 < l.lead := by
  rw [startsBelow, rawLines, splitLines_eq_cons, Bool.and_eq_true] at h
  exact lead_pos_iff.mpr h.2

/-- Where nothing is left in normal form, all lines as written come before it. -/
theorem lead_of_normalLines_eq_nil (h : normalLines l.raw = []) : l.lead = l.rawLines.length := by
  obtain ⟨below, hbelow, hlines⟩ := exists_trimEmptyLines (trim (firstLine l.raw) ::
    ((laterLines l.raw).map fun line => expandTabs (trimEnd line)).map
      (stripColumns ((bodyMargin? (splitLines l.raw)).getD 0)))
  rw [← normalLines_eq, h, List.append_nil] at hlines
  have hempty : ∀ line ∈ trim (firstLine l.raw) ::
      ((laterLines l.raw).map fun line => expandTabs (trimEnd line)).map
        (stripColumns ((bodyMargin? (splitLines l.raw)).getD 0)), line = [] := by
    intro line hl
    rw [hlines] at hl
    rcases List.mem_append.mp hl with hl | hl
    · exact List.isEmpty_iff.mp (List.mem_takeWhile_imp hl)
    · exact hbelow line hl
  have hblank : ∀ line ∈ l.rawLines, isBlank line = true := by
    intro line hl
    rw [rawLines, splitLines_eq_cons] at hl
    rcases List.mem_cons.mp hl with rfl | hl
    · rw [← isBlank_trim, hempty _ List.mem_cons_self]
      rfl
    · have hnil := hempty _ (List.mem_cons_of_mem _
        (List.mem_map_of_mem (List.mem_map_of_mem hl)))
      rw [← isBlank_trimEnd, ← isBlank_expandTabs, ← isBlank_stripColumns _, hnil]
      rfl
  rw [lead, List.takeWhile_eq_self_iff.mpr hblank]

/-- Lines as written are counted with the blank ones at the start, lines in normal form without. -/
theorem take_drop_of_lead {lines above kept below : List Line} (h : lines = above ++ kept ++ below)
    {n : Nat} (hn : n ≤ kept.length) :
    lines.take (n + above.length) = above ++ kept.take n ∧
      lines.drop (n + above.length) = kept.drop n ++ below := by
  rw [h, List.append_assoc, Nat.add_comm]
  constructor
  · rw [List.take_length_add_append, List.take_append_of_le_length hn]
  · rw [List.drop_length_add_append, List.drop_append_of_le_length hn]

theorem spliceLines_eq_cons {first last k j : Nat} (newLines : List Line)
    (hk : first + l.lead = k + 1) (hj : last + l.lead = j + 1) :
    l.spliceLines first last newLines = firstLine l.raw ::
      ((laterLines l.raw).take k ++ newLines.map l.marginLine ++ (laterLines l.raw).drop j) := by
  rw [spliceLines, linesThrough, hk, hj, rawLines, splitLines_eq_cons]
  simp

theorem newline_notMem_of_mem_spliceLines {first last : Nat} (hindentation : IsIndentation l.margin)
    (hclean : ∀ line ∈ newLines, IsClean line) :
    ∀ line ∈ l.spliceLines first last newLines, '\n' ∉ line := by
  intro line hl
  simp only [spliceLines, linesThrough, List.mem_append, List.mem_map] at hl
  rcases hl with (hl | ⟨old, hold, rfl⟩) | hl
  · exact newline_notMem_of_mem_rawLines (List.mem_of_mem_take hl)
  · exact newline_notMem_marginLine hindentation (hclean old hold).newline
  · exact newline_notMem_of_mem_rawLines (List.mem_of_mem_drop hl)

/-- New lines of which one stands at the first column come to stand between the old ones, as long as
the first line as written stays the first. Below a header that stands there, they must be headers or
be indented as a section is. -/
theorem normalLines_spliceLines_of_pos (hmargin : l.margin = marginOf l.rawLines siteIndent)
    {first last : Nat} (hle : first ≤ last) (hlast : last ≤ (normalLines l.raw).length)
    (hfront : 0 < first + l.lead) (hindentation : IsIndentation l.margin)
    (hclean : ∀ line ∈ newLines, IsClean line)
    (hheaded : Google.isHeader (trim (firstLine l.raw)) = true → ∀ line ∈ newLines,
      isBlank line = false →
        Google.isHeader (trim line) = true ∨ Google.bodyIndent ≤ indentWidth line)
    (hink : ∃ line ∈ newLines, isBlank line = false ∧ indentWidth line = 0) :
    normalLines (joinLines (l.spliceLines first last newLines)) = trimEmptyLines
      ((normalLines l.raw).take first ++ newLines ++ (normalLines l.raw).drop last) := by
  obtain ⟨rest, hrest, hshifted, hlines, hnormal⟩ := exists_indented_lines hmargin
  obtain ⟨below, hbelow, hwhole⟩ := exists_trimEmptyLines (trim (firstLine l.raw) :: rest)
  rw [← hnormal] at hwhole
  have hlead := length_takeWhile_isEmpty hlines
  obtain ⟨k, hk⟩ : ∃ k, first + l.lead = k + 1 := ⟨first + l.lead - 1, by omega⟩
  obtain ⟨j, hj⟩ : ∃ j, last + l.lead = j + 1 := ⟨last + l.lead - 1, by omega⟩
  have hsplice := spliceLines_eq_cons newLines hk hj
  have hread : (l.spliceLines first last newLines).map (fun line => expandTabs (trimEnd line)) =
      expandTabs (trimEnd (firstLine l.raw)) ::
        indent l.marginWidth (rest.take k ++ newLines ++ rest.drop j) := by
    rw [hsplice, List.map_cons, List.map_append, List.map_append, List.map_take, List.map_drop,
      map_expandTabs_marginLine hindentation hclean, hlines]
    simp [indent, List.map_take, List.map_drop]
  have hnewline : ∀ line ∈ l.spliceLines first last newLines, '\n' ∉ line :=
    newline_notMem_of_mem_spliceLines hindentation hclean
  have hfirst : trim (expandTabs (trimEnd (firstLine l.raw))) = trim (firstLine l.raw) := by
    rw [trim_expandTabs, trim_trimEnd]
  obtain ⟨line, hline, hink, hwidth⟩ := hink
  have hlevel : LevelBelow (expandTabs (trimEnd (firstLine l.raw))) l.marginWidth
      (rest.take k ++ newLines ++ rest.drop j) := by
    refine ⟨fun line hl hink => ?_, .inl ⟨line, by simp [hline], hink, ?_⟩⟩
    · rw [hfirst]
      simp only [List.mem_append] at hl
      rcases hl with (hl | hl) | hl
      · exact hshifted line (List.mem_of_mem_take hl) hink
      · exact marginOf_spaces_append (hclean line hl).tab fun h => .inr (hheaded h line hl hink)
      · exact hshifted line (List.mem_of_mem_drop hl) hink
    · exact Nat.le_zero.mp ((marginOf_le _ line).trans_eq hwidth)
  have hnormal' : normalLines (joinLines (l.spliceLines first last newLines ++ [])) =
      trimEmptyLines (trim (firstLine l.raw) :: (rest.take k ++ newLines ++ rest.drop j)) :=
    hfirst ▸ normalLines_of_indented (hsplice ▸ List.cons_ne_nil _ _) (by simpa using hnewline)
      hread hlevel (by simp)
  rw [List.append_nil] at hnormal'
  rw [hnormal']
  obtain ⟨htake, -⟩ := take_drop_of_lead hwhole (hle.trans hlast)
  obtain ⟨-, hdrop⟩ := take_drop_of_lead hwhole hlast
  rw [hlead, hk, List.take_succ_cons] at htake
  rw [hlead, hj, List.drop_succ_cons] at hdrop
  have habove : ∀ line ∈ (trim (firstLine l.raw) :: rest).takeWhile List.isEmpty, line = [] :=
    fun line hl => List.isEmpty_iff.mp (List.mem_takeWhile_imp hl)
  calc trimEmptyLines (trim (firstLine l.raw) :: (rest.take k ++ newLines ++ rest.drop j))
      = trimEmptyLines ((trim (firstLine l.raw) :: rest).takeWhile List.isEmpty ++
          ((normalLines l.raw).take first ++ newLines ++ (normalLines l.raw).drop last) ++ below) := by
        rw [hdrop, ← List.cons_append, ← List.cons_append, htake]
        simp only [List.append_assoc]
    _ = _ := trimEmptyLines_append _ habove hbelow

/-! ## Lines before the first one -/

/-- What a first line on the line of the opening quotes has to be like for lines to come before it.
The first of these takes its place there, and it comes to stand below them as it is written. -/
structure GivesWay (l : Literal) (newLines : List Line) : Prop where
  flush : trim (newLines.headD []) = newLines.headD []
  /-- Nothing but spaces and tabs stands before it. -/
  indentation : opensWithInk ((firstLine l.raw).dropWhile isIndent) = true
  /-- Below a header, what is no header counts as less indented. -/
  header : Google.isHeader (newLines.headD []) = true →
    Google.isHeader (trim (firstLine l.raw)) = true ∨ indentWidth (firstLine l.raw) = 0
  /-- It is indented by the margin, unless no line is below the new first one. -/
  aligned : indentWidth (firstLine l.raw) = l.marginWidth ∨
    ∀ line ∈ newLines.tail ++ laterLines l.raw, isBlank line = true

/-- Empty lines may follow those that come first. -/
theorem GivesWay.append {below : List Line} (h : l.GivesWay newLines) (hne : newLines ≠ [])
    (hbelow : ∀ line ∈ below, line = []) : l.GivesWay (newLines ++ below) := by
  obtain ⟨new, more, rfl⟩ := List.exists_cons_of_ne_nil hne
  refine ⟨h.flush, h.indentation, h.header, h.aligned.imp_right fun hblank line hl => ?_⟩
  simp only [List.cons_append, List.tail_cons, List.mem_append] at hl hblank
  rcases hl with (hl | hl) | hl
  · exact hblank line (.inl hl)
  · rw [hbelow line hl]
    rfl
  · exact hblank line (.inr hl)

section Front

variable {new : Line} {more rest : List Line}

theorem opensWithInk_trim (h : isBlank line = false) : opensWithInk (trim line) = true := by
  refine (ink_of_trim (trim_trim line) fun hnil => ?_).1
  rw [← isBlank_trim, hnil] at h
  cases h

theorem newline_notMem_firstLine (t : Text) : '\n' ∉ firstLine t :=
  newline_notMem_of_mem_splitLines (by rw [splitLines_eq_cons]; exact List.mem_cons_self)

/-- Nothing but spaces and tabs stands before a line exactly when they come off as columns. -/
theorem stripColumns_expanded_iff (h : isBlank line = false) :
    stripColumns (indentWidth line) (expandTabs (trimEnd line)) = trim line ↔
      opensWithInk (line.dropWhile isIndent) = true := by
  obtain ⟨finish, hfinish⟩ := List.rdropWhile_prefix isSpace line
  have hfinish : trimEnd line ++ finish = line := hfinish
  obtain ⟨rest, hrest, hlevel⟩ := exists_indented (trimEnd line)
  have hstripped : stripColumns (indentWidth line) (expandTabs (trimEnd line)) = rest := by
    rw [expandTabs_eq hrest, indentWidth_trimEnd h, stripColumns_spaces_append]
  have htrim : trim rest = trim line := by
    rw [← hstripped, trim_stripColumns, trim_expandTabs, trim_trimEnd]
  have htrimmed : trimEnd rest = rest :=
    trimEnd_of_suffix (trimEnd_trimEnd line) ⟨indentOf (trimEnd line), hrest.symm⟩
  cases rest with
  | nil => rw [← isBlank_trim, ← htrim] at h; cases h
  | cons c rest =>
    have hc : isIndent c = false := by
      by_contra hindent
      simp [indentOf, hindent] at hlevel
    have hdropped : line.dropWhile isIndent = c :: (rest ++ finish) := by
      rw [← hfinish, hrest, List.append_assoc,
        List.dropWhile_append_of_pos (isIndentation_indentOf (trimEnd line)), List.cons_append,
        List.dropWhile_cons_of_neg (by simp [hc])]
    rw [hstripped, hdropped, ← htrim]
    exact ⟨fun hsame => (ink_of_trim hsame.symm (List.cons_ne_nil c rest)).1,
      fun hopens => (trim_of_ink (t := c :: rest) hopens htrimmed).symm⟩

/-- The first line as it is read once it stands below others. -/
theorem isClean_expanded_firstLine (t : Text) : IsClean (expandTabs (trimEnd (firstLine t))) := by
  refine isClean_of_mem_expandedLines (t := t) ?_
  rw [expandedLines, splitLines_eq_cons]
  exact List.mem_cons_self

theorem indentWidth_expanded (h : isBlank line = false) :
    indentWidth (expandTabs (trimEnd line)) = indentWidth line := by
  rw [indentWidth_expandTabs, indentWidth_trimEnd h]

/-- What stands below a new first line: the other new ones, then the old lines as they are written. -/
def belowFirst (l : Literal) (more rest : List Line) : List Line :=
  indent l.marginWidth more ++ expandTabs (trimEnd (firstLine l.raw)) :: indent l.marginWidth rest

/-- The new lines take the place of the first one beside the quotes, which goes below them. -/
theorem map_expandTabs_spliceLines_front (hlead : l.lead = 0) (hmargin : IsIndentation l.margin)
    (hclean : ∀ line ∈ new :: more, IsClean line)
    (hlines : (laterLines l.raw).map (fun line => expandTabs (trimEnd line)) =
      indent l.marginWidth rest) :
    (l.spliceLines 0 0 (new :: more)).map (fun line => expandTabs (trimEnd line)) =
      expandTabs (trimEnd (l.marginLine new)) :: l.belowFirst more rest := by
  have hmore : ∀ line ∈ more, IsClean line := fun line hl => hclean line (List.mem_cons_of_mem _ hl)
  have hsplice : l.spliceLines 0 0 (new :: more) = l.marginLine new ::
      (more.map l.marginLine ++ firstLine l.raw :: laterLines l.raw) := by
    simp [spliceLines, linesThrough, hlead, rawLines, ← splitLines_eq_cons]
  rw [hsplice, List.map_cons, List.map_append, List.map_cons, hlines,
    map_expandTabs_marginLine hmargin hmore, belowFirst]

theorem trim_expanded_marginLine (hmargin : IsIndentation l.margin) (line : Line) :
    trim (expandTabs (trimEnd (l.marginLine line))) = trim line := by
  rw [trim_expandTabs, trim_trimEnd, marginLine]
  split
  · rename_i hnil
    rw [List.isEmpty_iff.mp hnil]
  · exact trim_append_of_blank hmargin.isBlank line

theorem trimEmptyLines_append_trimEmptyLines (above rest : List Line) (h : line ≠ []) :
    trimEmptyLines (above ++ trimEmptyLines (line :: rest)) = trimEmptyLines (above ++ line :: rest) := by
  obtain ⟨below, hbelow, hwhole⟩ := exists_trimEmptyLines (line :: rest)
  rw [List.takeWhile_cons_of_neg (by simpa using h), List.nil_append] at hwhole
  conv => rhs; rw [hwhole, ← List.append_assoc]
  have hnothing : ∀ line ∈ ([] : List Line), line = [] := by simp
  exact (trimEmptyLines_append (above ++ trimEmptyLines (line :: rest)) hnothing hbelow).symm

/-- Blank lines are indented by any columns alike. -/
theorem indent_of_blank {columns columns' : Nat} (hclean : ∀ line ∈ lines, IsClean line)
    (h : columns = columns' ∨ ∀ line ∈ lines, isBlank line = true) :
    indent columns lines = indent columns' lines := by
  rcases h with rfl | hblank
  · rfl
  · refine List.map_congr_left fun line hl => ?_
    simp [(hclean line hl).blank_iff.mp (hblank line hl)]

theorem forall_blank_iff (hlines : (laterLines l.raw).map (fun line => expandTabs (trimEnd line)) =
    indent l.marginWidth rest) :
    (∀ line ∈ rest, isBlank line = true) ↔ ∀ line ∈ laterLines l.raw, isBlank line = true := by
  have hindented : ∀ line : Line, isBlank (if line.isEmpty then line else
      spaces l.marginWidth ++ line) = isBlank line := by
    intro line
    split <;> simp
  have hsame : (laterLines l.raw).map isBlank = rest.map isBlank := by
    calc (laterLines l.raw).map isBlank
        = ((laterLines l.raw).map fun line => expandTabs (trimEnd line)).map isBlank := by
          rw [List.map_map]
          exact List.map_congr_left fun line _ => by simp [isBlank_expandTabs, isBlank_trimEnd]
      _ = rest.map isBlank := by
          rw [hlines, indent, List.map_map]
          exact List.map_congr_left fun line _ => hindented line
  have hall := congrArg (fun blanks => ∀ blank ∈ blanks, blank = true) hsame
  simpa using hall.symm

section Found

variable {first : Line} (h : l.GivesWay (new :: more)) (hfirst : trim first = new)
  (hink : isBlank (firstLine l.raw) = false)
  (hclean : ∀ line ∈ more, IsClean line) (hrest : ∀ line ∈ rest, IsClean line)
  (hheaded : Google.isHeader (trim (firstLine l.raw)) = true → ∀ line ∈ more,
    isBlank line = false →
      Google.isHeader (trim line) = true ∨ Google.bodyIndent ≤ indentWidth line)
  (hshifted : ∀ line ∈ rest, isBlank line = false →
    Docstring.marginOf (Google.isHeader (trim (firstLine l.raw))) (spaces l.marginWidth ++ line) =
      l.marginWidth + Docstring.marginOf (Google.isHeader (trim (firstLine l.raw))) line)
  (haligned : indentWidth (firstLine l.raw) = l.marginWidth ∨ ∀ line ∈ rest, isBlank line = true)

include h hfirst hink hclean hrest hheaded hshifted haligned

/-- Behind the columns of the old first line, the lines below the new one are found again. -/
theorem GivesWay.levelBelow :
    LevelBelow first (indentWidth (firstLine l.raw)) (more ++ trim (firstLine l.raw) :: rest) := by
  have hopens := opensWithInk_trim hink
  have hwhole : ∀ line ∈ more ++ trim (firstLine l.raw) :: rest, IsClean line := by
    intro line hl
    rcases List.mem_append.mp hl with hl | hl
    · exact hclean line hl
    · rcases List.mem_cons.mp hl with rfl | hl
      · exact isClean_trim (newline_notMem_firstLine l.raw)
      · exact hrest line hl
  refine ⟨fun line hl hkept => ?_, .inl ⟨trim (firstLine l.raw), by simp, ?_,
    marginOf_of_opensWithInk _ hopens⟩⟩
  · rw [hfirst]
    cases hnew : Google.isHeader new with
    | false => exact marginOf_spaces_append (hwhole line hl).tab nofun
    | true =>
      rcases h.header hnew with hheader | hzero
      · simp only [List.mem_append, List.mem_cons] at hl
        rcases hl with hl | rfl | hl
        · exact marginOf_spaces_append (hclean line hl).tab fun _ =>
            .inr (hheaded hheader line hl hkept)
        · exact marginOf_spaces_append (hwhole _ (by simp)).tab fun _ =>
            .inr (.inl (by rw [trim_trim, hheader]))
        · rcases haligned with hwidth | hblank
          · rw [hwidth, ← hheader]
            exact hshifted line hl hkept
          · rw [hblank line hl] at hkept
            cases hkept
      · rw [hzero]
        exact marginOf_spaces_append (hwhole line hl).tab fun _ => .inl rfl
  · rw [isBlank_trim, hink]

end Found

/-- Lines come before the first one if that gives way to them. -/
theorem normalLines_spliceLines_front (hmargin : l.margin = marginOf l.rawLines siteIndent)
    (hlead : l.lead = 0) (hindentation : IsIndentation l.margin)
    (hclean : ∀ line ∈ new :: more, IsClean line)
    (hheaded : Google.isHeader (trim (firstLine l.raw)) = true → ∀ line ∈ new :: more,
      isBlank line = false →
        Google.isHeader (trim line) = true ∨ Google.bodyIndent ≤ indentWidth line)
    (hgives : l.GivesWay (new :: more)) :
    normalLines (joinLines (l.spliceLines 0 0 (new :: more))) =
      trimEmptyLines (new :: more ++ normalLines l.raw) := by
  have hmore : ∀ line ∈ more, IsClean line := fun line hl => hclean line (List.mem_cons_of_mem _ hl)
  have hink := isBlank_firstLine_of_lead hlead
  obtain ⟨rest, hrest, hshifted, hlines, hnormal⟩ := exists_indented_lines hmargin
  have haligned : indentWidth (firstLine l.raw) = l.marginWidth ∨
      (∀ line ∈ more, isBlank line = true) ∧ ∀ line ∈ rest, isBlank line = true := by
    refine hgives.aligned.imp_right fun hblank => ?_
    rw [List.tail_cons, List.forall_mem_append] at hblank
    exact ⟨hblank.1, (forall_blank_iff hlines).mpr hblank.2⟩
  have hfirst : expandTabs (trimEnd (firstLine l.raw)) =
      spaces (indentWidth (firstLine l.raw)) ++ trim (firstLine l.raw) := by
    rw [← (stripColumns_expanded_iff hink).mpr hgives.indentation]
    exact (spaces_append_stripColumns (isClean_expanded_firstLine l.raw)
      (indentWidth_expanded hink).ge).symm
  have hread := map_expandTabs_spliceLines_front hlead hindentation hclean hlines
  have hne : trim (firstLine l.raw) ≠ [] := ne_nil_of_opensWithInk (opensWithInk_trim hink)
  have hwide : l.belowFirst more rest = indent (indentWidth (firstLine l.raw))
      (more ++ trim (firstLine l.raw) :: rest) := by
    rw [belowFirst, indent_of_blank hmore (haligned.imp Eq.symm And.left),
      indent_of_blank hrest (haligned.imp Eq.symm And.right), hfirst]
    simp [indent, hne]
  rw [hwide] at hread
  have htrim : trim (expandTabs (trimEnd (l.marginLine new))) = new :=
    (trim_expanded_marginLine hindentation new).trans hgives.flush
  have hlevel := hgives.levelBelow htrim hink hmore hrest
    (fun hheader line hl => hheaded hheader line (List.mem_cons_of_mem _ hl)) hshifted
    (haligned.imp_right And.right)
  have hnewline : ∀ line ∈ l.spliceLines 0 0 (new :: more), '\n' ∉ line :=
    newline_notMem_of_mem_spliceLines hindentation hclean
  have hread' : normalLines (joinLines (l.spliceLines 0 0 (new :: more) ++ [])) = trimEmptyLines _ :=
    normalLines_of_indented (by simp [spliceLines, linesThrough]) (by simpa using hnewline) hread
      hlevel (by simp)
  rw [List.append_nil, htrim] at hread'
  rw [hread', hnormal]
  exact (trimEmptyLines_append_trimEmptyLines (new :: more) rest hne).symm

/-- Lines with the same ones blank are the same if they are so up to blank ones at the ends. -/
theorem eq_of_trimEmptyLines {others : List Line} (hlines : ∀ line ∈ lines, IsClean line)
    (hothers : ∀ line ∈ others, IsClean line) (hsame : lines.map isBlank = others.map isBlank)
    (h : trimEmptyLines lines = trimEmptyLines others) : lines = others := by
  have hblank : ∀ {lines : List Line}, (∀ line ∈ lines, IsClean line) →
      lines.map List.isEmpty = lines.map isBlank := by
    refine fun hclean => List.map_congr_left fun line hl => ?_
    rw [Bool.eq_iff_iff, List.isEmpty_iff, (hclean line hl).blank_iff]
  have hempty : lines.map List.isEmpty = others.map List.isEmpty := by
    rw [hblank hlines, hblank hothers, hsame]
  have hdropped : ∀ lines : List Line, (lines.takeWhile List.isEmpty).length =
      ((lines.map List.isEmpty).takeWhile id).length := fun lines => by
    rw [List.takeWhile_map, List.length_map]
    rfl
  obtain ⟨below, hbelow, hwhole⟩ := exists_trimEmptyLines lines
  obtain ⟨below', hbelow', hwhole'⟩ := exists_trimEmptyLines others
  have hfront : lines.takeWhile List.isEmpty = others.takeWhile List.isEmpty := by
    rw [List.eq_replicate_of_mem fun line hl => List.isEmpty_iff.mp (List.mem_takeWhile_imp hl),
      hdropped, hempty, ← hdropped]
    exact (List.eq_replicate_of_mem fun line hl =>
      List.isEmpty_iff.mp (List.mem_takeWhile_imp hl)).symm
  have hback : below = below' := by
    have hlength : lines.length = others.length := by simpa using congrArg List.length hsame
    rw [hwhole, hwhole', hfront, h] at hlength
    rw [List.eq_replicate_of_mem hbelow, List.eq_replicate_of_mem hbelow']
    simp only [List.length_append] at hlength
    congr 1
    omega
  rw [hwhole, hwhole', hfront, h, hback]

/-- A line that comes back once a margin is taken off stood behind that margin. -/
theorem eq_of_stripColumns_eq {columns margin : Nat} (hclean : IsClean line)
    (hle : margin ≤ indentWidth (spaces columns ++ line))
    (h : stripColumns margin (spaces columns ++ line) = line) : margin = columns := by
  have hwidth := indentWidth_spaces_append columns hclean.tab
  have htab : '\t' ∉ indentOf (spaces columns ++ line) := by
    simp [indentOf_spaces_append, tab_notMem_spaces, hclean.tab]
  have hstripped := indentWidth_stripColumns margin htab
  rw [h] at hstripped
  omega

theorem eq_of_stripColumns_indent {columns margin : Nat} (hclean : ∀ line ∈ lines, IsClean line)
    (hle : ∀ line ∈ indent columns lines, isBlank line = false → margin ≤ indentWidth line)
    (h : (indent columns lines).map (stripColumns margin) = lines) :
    margin = columns ∨ ∀ line ∈ lines, isBlank line = true := by
  by_contra hneither
  simp only [not_or, not_forall, Bool.not_eq_true] at hneither
  obtain ⟨hmargin, line, hline, hink⟩ := hneither
  have hne : line ≠ [] := by rintro rfl; cases hink
  have hmem : spaces columns ++ line ∈ indent columns lines :=
    List.mem_map.mpr ⟨line, hline, by simp [hne]⟩
  rw [indent, List.map_map] at h
  have hback := List.map_inj_left.mp (h.trans (List.map_id lines).symm) line hline
  refine hmargin (eq_of_stripColumns_eq (hclean line hline) (hle _ hmem (by simp [hink])) ?_)
  simpa [hne] using hback

section Below

variable (hmore : ∀ line ∈ more, IsClean line) (hrest : ∀ line ∈ rest, IsClean line)

include hmore hrest

theorem isClean_belowFirst : ∀ line ∈ l.belowFirst more rest, IsClean line := by
  intro line hl
  rcases List.mem_append.mp hl with hl | hl
  · exact isClean_of_mem_indent hmore hl
  · rcases List.mem_cons.mp hl with rfl | hl
    · exact isClean_expanded_firstLine l.raw
    · exact isClean_of_mem_indent hrest hl

/-- The lines below the new first one come back as they were. -/
theorem belowFirst_of_trimEmptyLines_eq {margin : Nat} (hnew : IsClean new)
    (h : trimEmptyLines (trim new :: (l.belowFirst more rest).map (stripColumns margin)) =
      trimEmptyLines (new :: more ++ trim (firstLine l.raw) :: rest)) :
    trim new = new ∧ (indent l.marginWidth more).map (stripColumns margin) = more ∧
      stripColumns margin (expandTabs (trimEnd (firstLine l.raw))) = trim (firstLine l.raw) ∧
      (indent l.marginWidth rest).map (stripColumns margin) = rest := by
  have hindented : ∀ lines : List Line, ((indent l.marginWidth lines).map
      (stripColumns margin)).map isBlank = lines.map isBlank := fun lines => by
    rw [indent, List.map_map, List.map_map]
    refine List.map_congr_left fun line _ => ?_
    by_cases hne : line = [] <;> simp [hne, isBlank_stripColumns]
  have hsame := eq_of_trimEmptyLines ?_ ?_ ?_ h
  · obtain ⟨hflush, hsame⟩ := List.cons.inj hsame
    rw [belowFirst, List.map_append, List.map_cons] at hsame
    obtain ⟨hmore, hsame⟩ := List.append_inj hsame (by simp [indent])
    exact ⟨hflush, hmore, List.cons.inj hsame⟩
  · intro line hl
    rcases List.mem_cons.mp hl with rfl | hl
    · exact isClean_trim hnew.newline
    · obtain ⟨inner, hinner, rfl⟩ := List.mem_map.mp hl
      exact isClean_stripColumns _ (isClean_belowFirst hmore hrest inner hinner)
  · simp only [List.cons_append, List.forall_mem_cons, List.forall_mem_append]
    exact ⟨hnew, hmore, isClean_trim (newline_notMem_firstLine l.raw), hrest⟩
  · rw [belowFirst, List.map_append, List.map_cons, List.map_cons, List.map_append, List.map_cons,
      hindented, hindented, List.cons_append, List.map_cons, List.map_append, List.map_cons]
    simp [isBlank_trim, isBlank_stripColumns, isBlank_expandTabs, isBlank_trimEnd]

end Below

theorem isNormal_trimEmptyLines (hclean : ∀ line ∈ lines, IsClean line) :
    IsNormal (trimEmptyLines lines) where
  clean _ h := hclean _ ((isInfix_trimEmptyLines _).subset h)
  opens := opens_trimEmptyLines _
  ends := ends_trimEmptyLines _

/-- If lines that come before the first one are read back, that gives way to them. -/
theorem givesWay_of_normalLines_eq (hmargin : l.margin = marginOf l.rawLines siteIndent)
    (hlead : l.lead = 0) (hindentation : IsIndentation l.margin)
    (hclean : ∀ line ∈ new :: more, IsClean line)
    (h : normalLines (joinLines (l.spliceLines 0 0 (new :: more))) =
      trimEmptyLines (new :: more ++ normalLines l.raw)) : l.GivesWay (new :: more) := by
  have hmore : ∀ line ∈ more, IsClean line := fun line hl => hclean line (List.mem_cons_of_mem _ hl)
  have hink := isBlank_firstLine_of_lead hlead
  have hopens := opensWithInk_trim hink
  have hfirst := isClean_expanded_firstLine l.raw
  obtain ⟨rest, hrest, -, hlines, hnormal⟩ := exists_indented_lines hmargin
  have hnewline : ∀ line ∈ l.spliceLines 0 0 (new :: more), '\n' ∉ line :=
    newline_notMem_of_mem_spliceLines hindentation hclean
  rw [hnormal, trimEmptyLines_append_trimEmptyLines _ _ (ne_nil_of_opensWithInk hopens)] at h
  simp only [normalLines] at h
  rw [splitLines_joinLines (by simp [spliceLines, linesThrough]) hnewline,
    map_expandTabs_spliceLines_front hlead hindentation hclean hlines, stripMargin,
    trim_expanded_marginLine hindentation] at h
  obtain ⟨hflush, hmoreBack, hfirstBack, hrestBack⟩ :=
    belowFirst_of_trimEmptyLines_eq hmore hrest (hclean new List.mem_cons_self) h
  generalize hshared : (bodyMargin? (expandTabs (trimEnd (l.marginLine new)) ::
    l.belowFirst more rest)).getD 0 = margin at *
  have hle : ∀ line ∈ l.belowFirst more rest, isBlank line = false →
      margin ≤ Docstring.marginOf (Google.isHeader new) line := by
    intro line hl hkept
    have hle := bodyMargin?_le (expandTabs (trimEnd (l.marginLine new))) hl hkept
    rwa [trim_expanded_marginLine hindentation, hflush, hshared] at hle
  have hfirstLe := hle (expandTabs (trimEnd (firstLine l.raw))) (by simp [belowFirst])
    (by rw [isBlank_expandTabs, isBlank_trimEnd, hink])
  have hwidth : margin = indentWidth (firstLine l.raw) := by
    have hstripped := indentWidth_stripColumns margin hfirst.tab
    rw [hfirstBack, indentWidth_of_opensWithInk hopens, indentWidth_expanded hink] at hstripped
    have hle := hfirstLe.trans (marginOf_le _ _)
    rw [indentWidth_expanded hink] at hle
    omega
  have hdeep : ∀ lines, indent l.marginWidth lines ⊆ l.belowFirst more rest →
      ∀ line ∈ indent l.marginWidth lines, isBlank line = false → margin ≤ indentWidth line :=
    fun lines hsubset line hl hkept => (hle line (hsubset hl) hkept).trans (marginOf_le _ _)
  refine ⟨hflush, (stripColumns_expanded_iff hink).mp (hwidth ▸ hfirstBack), fun hheader => ?_, ?_⟩
  · rw [List.headD_cons] at hheader
    rw [hheader, Docstring.marginOf, trim_expandTabs, trim_trimEnd, indentWidth_expanded hink,
      hwidth] at hfirstLe
    by_cases hold : Google.isHeader (trim (firstLine l.raw)) = true
    · exact .inl hold
    · rw [if_pos (by simpa using hold)] at hfirstLe
      have hpos : 0 < Google.bodyIndent := by decide
      omega
  · rw [← hwidth, List.tail_cons, List.forall_mem_append, ← forall_blank_iff hlines]
    have hmoreAligned := eq_of_stripColumns_indent hmore (hdeep more (by simp [belowFirst])) hmoreBack
    have hrestAligned := eq_of_stripColumns_indent hrest (hdeep rest (by simp [belowFirst])) hrestBack
    tauto

end Front

/-- New lines of which one stands at the first column come to stand between the old ones, unless they
come before a first line that does not give way to them. -/
theorem normalLines_spliceLines (hmargin : l.margin = marginOf l.rawLines siteIndent)
    {first last : Nat} (hle : first ≤ last) (hlast : last ≤ (normalLines l.raw).length)
    (hpoint : first + l.lead = 0 → first = last)
    (hfront : first + l.lead = 0 → l.GivesWay newLines) (hindentation : IsIndentation l.margin)
    (hclean : ∀ line ∈ newLines, IsClean line)
    (hheaded : Google.isHeader (trim (firstLine l.raw)) = true → ∀ line ∈ newLines,
      isBlank line = false →
        Google.isHeader (trim line) = true ∨ Google.bodyIndent ≤ indentWidth line)
    (hink : ∃ line ∈ newLines, isBlank line = false ∧ indentWidth line = 0) :
    normalLines (joinLines (l.spliceLines first last newLines)) = trimEmptyLines
      ((normalLines l.raw).take first ++ newLines ++ (normalLines l.raw).drop last) := by
  rcases Nat.eq_zero_or_pos (first + l.lead) with hzero | hpos
  · obtain ⟨rfl, hlead⟩ : first = 0 ∧ l.lead = 0 := by omega
    obtain rfl : 0 = last := hpoint hzero
    obtain ⟨line, hline, -⟩ := hink
    obtain ⟨new, more, rfl⟩ := List.exists_cons_of_ne_nil (List.ne_nil_of_mem hline)
    simpa using normalLines_spliceLines_front hmargin hlead hindentation hclean hheaded (hfront hzero)
  · exact normalLines_spliceLines_of_pos hmargin hle hlast hpos hindentation hclean hheaded hink

theorem beside_of_lead (h : l.lead = 0) : l.startsBelow = false := by
  by_contra hbelow
  have hpos := lead_pos (Bool.not_eq_false _ ▸ hbelow)
  omega

/-- Around replaced lines, the same quotes are read. -/
theorem delimits_spliceLines (h : l.quote.Delimits l.raw) (hindentation : IsIndentation l.margin)
    (hsafe : l.isSafe (joinLines newLines) = true) (hne : newLines ≠ []) {first last : Nat}
    (hle : first ≤ last) : l.quote.Delimits (joinLines (l.spliceLines first last newLines)) := by
  rcases Nat.eq_zero_or_pos (first + l.lead) with hzero | hpos
  · obtain ⟨new, more, rfl⟩ := List.exists_cons_of_ne_nil hne
    rcases (isSafe_iff.mp hsafe).2.2 with htriple | ⟨-, hquote⟩
    · exact .inl htriple
    · have hnew : l.quote.char ∉ l.marginLine new := by
        have hmargin : l.quote.char ∉ l.margin := fun hmem =>
          absurd (hindentation _ hmem) (by cases l.quote <;> decide)
        have hline : l.quote.char ∉ new := fun hmem =>
          hquote ((isInfix_joinLines List.mem_cons_self).subset hmem)
        unfold marginLine
        split
        · simp
        · simp [hmargin, hline]
      have hsplice : l.spliceLines first last (new :: more) = l.marginLine new ::
          (more.map l.marginLine ++ l.rawLines.drop (last + l.lead)) := by
        simp [spliceLines, linesThrough, hzero]
      rw [hsplice]
      refine delimits_of_head? fun c hc hchar => ?_
      rcases head?_joinLines _ _ c hc with hmem | hmem
      · exact hnew (hchar ▸ hmem)
      · exact l.quote.char_ne_newline (hchar.symm.trans hmem)
  · obtain ⟨k, hk⟩ : ∃ k, first + l.lead = k + 1 := ⟨first + l.lead - 1, by omega⟩
    obtain ⟨j, hj⟩ : ∃ j, last + l.lead = j + 1 := ⟨last + l.lead - 1, by omega⟩
    rw [← joinLines_splitLines l.raw, splitLines_eq_cons] at h
    rw [spliceLines_eq_cons newLines hk hj]
    exact delimits_of_firstLine h (by simp [hne])

/-- The literal with replaced lines can be read. -/
theorem exists_of_splice? (h : ofText? t siteIndent = some l) {first last : Nat}
    (hs : l.splice? first last newLines = some s) (hne : newLines ≠ [])
    (hindent : bodyMargin? l.rawLines = none → IsIndentation siteIndent) (indent : Text) :
    IsIndentation l.margin ∧ ∃ l', ofText? s indent = some l' ∧ l'.letters = l.letters ∧
      l'.quote = l.quote ∧ l'.raw = joinLines (l.spliceLines first last newLines) := by
  obtain ⟨-, hmargin, -⟩ := ofText?_eq_some h
  obtain ⟨-, -, hquote⟩ := delimits_of_ofText? h
  obtain ⟨hle, -, -, hsafe, rfl⟩ := splice?_eq_some hs
  have hindentation : IsIndentation l.margin := hmargin ▸ isIndentation_marginOf hindent
  exact ⟨hindentation, _, ofText?_enclose h (delimits_spliceLines hquote hindentation hsafe hne hle)
    indent, rfl, rfl, rfl⟩

/-- Lines of a body are replaced by new ones, and nothing else about the body is changed, except where
the new lines come before a first line on the line of the opening quotes. There they are read back
exactly if that line gives way to them: it gets no margin when it comes to stand below. -/
theorem replaced_lines_read_back (source : Text) (site : DocstringSite) (l : Literal)
    (h : ofSource? source site = some l)
    (hheader : Google.isHeader ((normalLines l.raw).headD []) = false) (first last : Nat)
    (newLines : List Line) (s : Text) (hlast : last ≤ (normalLines l.raw).length)
    (hindent : bodyMargin? l.rawLines = none → IsIndentation site.indent)
    (hclean : ∀ line ∈ newLines, IsClean line)
    (hink : ∃ line ∈ newLines, isBlank line = false ∧ indentWidth line = 0)
    (hs : l.splice? first last newLines = some s) (indent : Text) :
    ∃ l', ofSource? s ⟨⟨0, byteLength s⟩, indent⟩ = some l' ∧ l'.letters = l.letters ∧
      l'.quote = l.quote ∧ (l'.body = joinLines (trimEmptyLines
        ((normalLines l.raw).take first ++ newLines ++ (normalLines l.raw).drop last)) ↔
          (first + l.lead = 0 → l.GivesWay newLines)) := by
  rw [ofSource?, Option.bind_eq_some_iff] at h
  obtain ⟨t, -, h⟩ := h
  obtain ⟨-, hmargin, -⟩ := ofText?_eq_some h
  obtain ⟨hle, -, hpoint, -⟩ := splice?_eq_some hs
  have hheaded : Google.isHeader (trim (firstLine l.raw)) ≠ true :=
    (isHeader_firstLine hheader).symm ▸ Bool.false_ne_true
  obtain ⟨line, hline, -⟩ := id hink
  obtain ⟨hindentation, l', hl', hletters, hquote, hraw⟩ :=
    exists_of_splice? h hs (List.ne_nil_of_mem hline) hindent indent
  refine ⟨l', (ofSource?_whole _ _).trans hl', hletters, hquote, ?_⟩
  rw [body, normalText, hraw]
  constructor
  · intro hbody hzero
    obtain ⟨rfl, hlead⟩ : first = 0 ∧ l.lead = 0 := by omega
    obtain rfl : 0 = last := hpoint hzero (beside_of_lead hlead)
    obtain ⟨new, more, rfl⟩ := List.exists_cons_of_ne_nil (List.ne_nil_of_mem hline)
    refine givesWay_of_normalLines_eq hmargin hlead hindentation hclean ?_
    have hnormal := isNormal_trimEmptyLines
      (List.forall_mem_append.mpr ⟨hclean, (isNormal_normalLines l.raw).clean⟩)
    exact (isNormal_normalLines _).joinLines_inj hnormal (by simpa using hbody)
  · intro hfront
    rw [normalLines_spliceLines hmargin hle hlast
      (fun hzero => hpoint hzero (beside_of_lead (Nat.eq_zero_of_add_eq_zero_left hzero))) hfront
      hindentation hclean (fun hheaded' => absurd hheaded' hheaded) hink]

/-- The last field of a list below two blank lines, behind a margin of tabs, and a field before the
only line of a body. -/
theorem a_field_behind_tabs_is_replaced :
    let source := "\"\"\"\n\n\tSum.\n\n\t:returns: It.\n\t\"\"\"".toList
    let newLines := [":returns: It.".toList, ":rtype: int".toList]
    (∃ l s, ofSource? source ⟨⟨0, 31⟩, "\t".toList⟩ = some l ∧ l.splice? 2 3 newLines = some s ∧
      ∃ l', ofSource? s ⟨⟨0, byteLength s⟩, []⟩ = some l' ∧ l'.letters = l.letters ∧
        l'.quote = l.quote ∧ l'.body = "Sum.\n\n:returns: It.\n:rtype: int".toList) ∧
    ∃ l s, ofSource? "\"\"\":raises A: x\"\"\"".toList ⟨⟨0, 18⟩, "\t".toList⟩ = some l ∧
      l.splice? 0 0 [":rtype: int".toList] = some s ∧
        ∃ l', ofSource? s ⟨⟨0, byteLength s⟩, []⟩ = some l' ∧ l'.letters = l.letters ∧
          l'.quote = l.quote ∧ l'.body = ":rtype: int\n:raises A: x".toList := by
  intro source newLines
  constructor
  · have hl : ofSource? source ⟨⟨0, 31⟩, "\t".toList⟩ = some ⟨[], .tripleDouble,
        "\n\n\tSum.\n\n\t:returns: It.\n\t".toList, "\t".toList, "\t".toList⟩ := by decide +kernel
    have hs : Literal.splice? ⟨[], .tripleDouble, "\n\n\tSum.\n\n\t:returns: It.\n\t".toList,
        "\t".toList, "\t".toList⟩ 2 3 newLines = some
          "\"\"\"\n\n\tSum.\n\n\t:returns: It.\n\t:rtype: int\n\t\"\"\"".toList := by decide +kernel
    obtain ⟨l', hread, hletters, hquote, hbody⟩ := replaced_lines_read_back source _ _ hl
      (by decide +kernel) 2 3 newLines _ (by decide +kernel)
      (by decide +kernel) (by decide +kernel) ⟨":rtype: int".toList, by decide +kernel⟩ hs []
    exact ⟨_, _, hl, hs, l', hread, hletters, hquote,
      (hbody.mpr fun hzero => absurd hzero (by decide)).trans (by decide +kernel)⟩
  · have hl : ofSource? "\"\"\":raises A: x\"\"\"".toList ⟨⟨0, 18⟩, "\t".toList⟩ = some
        ⟨[], .tripleDouble, ":raises A: x".toList, "\t".toList, "\t".toList⟩ := by decide +kernel
    have hs : Literal.splice? ⟨[], .tripleDouble, ":raises A: x".toList, "\t".toList, "\t".toList⟩
        0 0 [":rtype: int".toList] = some
          "\"\"\"\t:rtype: int\n:raises A: x\"\"\"".toList := by decide +kernel
    obtain ⟨l', hread, hletters, hquote, hbody⟩ := replaced_lines_read_back _ _ _ hl
      (by decide +kernel) 0 0 _ _ (by decide +kernel)
      (by decide +kernel) (by decide +kernel) ⟨":rtype: int".toList, by decide +kernel⟩ hs []
    exact ⟨_, _, hl, hs, l', hread, hletters, hquote,
      (hbody.mpr fun _ => ⟨by decide, by decide, by decide, .inr (by decide)⟩).trans
        (by decide +kernel)⟩

/-- A line that is inserted before the first one takes its place on the line of the opening quotes,
and the old first line comes to stand below it without a margin. The lines that have one then read
as indented: the second field becomes part of the first. -/
theorem a_line_before_the_first_shifts_the_others :
    let source := "\"\"\":raises A: x\n    :raises B: y\n    \"\"\"".toList
    let newLines := [":rtype: int".toList]
    ∃ l s l', ofSource? source ⟨⟨0, 40⟩, "    ".toList⟩ = some l ∧
      Google.isHeader ((normalLines l.raw).headD []) = false ∧
      l.splice? 0 0 newLines = some s ∧ ofSource? s ⟨⟨0, byteLength s⟩, "    ".toList⟩ = some l' ∧
      l'.body = ":rtype: int\n:raises A: x\n    :raises B: y".toList ∧
      l'.body ≠ joinLines (trimEmptyLines
        ((normalLines l.raw).take 0 ++ newLines ++ (normalLines l.raw).drop 0)) := by
  refine ⟨⟨[], .tripleDouble, ":raises A: x\n    :raises B: y\n    ".toList, "    ".toList,
    "    ".toList⟩, "\"\"\"    :rtype: int\n:raises A: x\n    :raises B: y\n    \"\"\"".toList,
    ⟨[], .tripleDouble, "    :rtype: int\n:raises A: x\n    :raises B: y\n    ".toList, [],
      "    ".toList⟩, ?_⟩
  decide +kernel

end Literal

end Docstring
