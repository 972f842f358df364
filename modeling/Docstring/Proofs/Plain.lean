-- Converting plain text. Its lines are read as a summary and prose below an empty line, and written
-- so again; what is written is in normal form and reads back as the same lines, so a second
-- conversion leaves it alone. Words only move to other lines.
import Docstring.Proofs.Conversion
import Docstring.Proofs.Document.Arranged
import Docstring.Proofs.Document.Broken
import Docstring.Proofs.Literal.Margin
import Docstring.Proofs.NormalForm
import Docstring.Proofs.Text.Verbatim

namespace Docstring

open Text

/-! ## Words of normal text -/

namespace Text

theorem words_expandTabs (line : Line) : words (expandTabs line) = words line := by
  rw [← words_trim, trim_expandTabs, words_trim]

/-- Verbatim lines stay verbatim when they are wrapped. -/
theorem IsVerbatim.wrap {lines : List Line} (width : Nat) (h : IsVerbatim lines) :
    IsVerbatim (lines.flatMap (Layout.wrapProseLine width)) := by
  have hpieces := Layout.forall₂_wrapProseLine width h.clean
  rw [List.flatMap_def]
  refine ⟨?_, endsInk_pieces hpieces h.ends, fun line hl => isClean_of_mem_pieces hpieces hl⟩
  cases lines with
  | nil => exact absurd h.opens (by decide)
  | cons first rest =>
    have hfirst := Layout.pieces_wrapProseLine width (h.clean first (by simp))
    obtain ⟨piece, others, hsplit⟩ := List.exists_cons_of_ne_nil hfirst.nonempty
    have hink := hfirst.ink h.opens piece (by simp [hsplit])
    simpa [hsplit] using hink

end Text

theorem flatMap_words_of_empty {lines : List Line} (h : ∀ line ∈ lines, line = []) :
    lines.flatMap words = [] := by
  rw [List.flatMap_eq_nil_iff]
  intro line hl
  rw [h line hl]
  rfl

theorem flatMap_words_trimEmptyLines (lines : List Line) :
    (trimEmptyLines lines).flatMap words = lines.flatMap words := by
  obtain ⟨below, hbelow, hlines⟩ := exists_trimEmptyLines lines
  have habove : ∀ line ∈ lines.takeWhile List.isEmpty, line = [] := fun line hl =>
    List.isEmpty_iff.mp (List.mem_takeWhile_imp hl)
  conv => rhs; rw [hlines]
  rw [List.flatMap_append, List.flatMap_append, flatMap_words_of_empty habove,
    flatMap_words_of_empty hbelow, List.nil_append, List.append_nil]

theorem flatMap_words_stripMargin (margin : Nat) (lines : List Line) :
    (stripMargin margin lines).flatMap words = lines.flatMap words := by
  cases lines with
  | nil => rfl
  | cons first rest =>
    rw [stripMargin, List.flatMap_cons, List.flatMap_cons, words_trim, List.flatMap_map]
    exact congrArg _ (List.flatMap_congr fun line _ => words_stripColumns margin line)

/-- Normalising a text keeps its words. -/
theorem words_normalText (t : Text) : words (normalText t) = words t := by
  rw [normalText, words_joinLines]
  change (trimEmptyLines (stripMargin _ (expandedLines t))).flatMap words = words t
  rw [flatMap_words_trimEmptyLines, flatMap_words_stripMargin, expandedLines, List.flatMap_map,
    ← flatMap_words_splitLines t]
  exact List.flatMap_congr fun line _ => by rw [words_expandTabs, words_trimEnd]

/-! ## A summary and prose -/

namespace Plain

/-- The document with a summary and prose of some lines. -/
def document (summary prose : List Line) : Document :=
  { summary := joinLines summary, extended := joinProse? prose, metadata := { style := some .plain } }

/-- The lines above the first blank one. -/
def summaryOf (lines : List Line) : List Line := lines.takeWhile fun line => !isBlank line

/-- The lines below the summary, without the blank ones at the ends. -/
def proseOf (lines : List Line) : List Line :=
  trimBlankLines (lines.dropWhile fun line => !isBlank line)

theorem spanUntil_never (lines : List Line) :
    Head.spanUntil (fun _ => false) lines = (lines, []) := by
  induction lines with
  | nil => rfl
  | cons line rest ih => simp [Head.spanUntil, ih]

theorem spanUntil_blank (lines : List Line) :
    Head.spanUntil (fun tail => (tail.head?.map isBlank).getD false || false) lines =
      (summaryOf lines, lines.dropWhile fun line => !isBlank line) := by
  induction lines with
  | nil => rfl
  | cons line rest ih =>
    rw [Head.spanUntil, ih]
    cases hb : isBlank line <;> simp [summaryOf, hb]

/-- A summary without blank lines, and prose that can be kept as it stands. There is no prose
without a summary. -/
structure IsProse (summary prose : List Line) : Prop where
  clean : ∀ line ∈ summary, IsClean line
  ink : ∀ line ∈ summary, isBlank line = false
  verbatim : prose = [] ∨ IsVerbatim prose
  opens : summary = [] → prose = []

theorem isProse_of_isNormal {lines : List Line} (h : IsNormal lines) :
    IsProse (summaryOf lines) (proseOf lines) where
  clean line hl := h.clean line (List.takeWhile_subset _ hl)
  ink line hl := by simpa using List.mem_takeWhile_imp hl
  verbatim := or_iff_not_imp_left.mpr (isVerbatim_trimBlankLines fun line hl =>
    h.clean line ((List.dropWhile_suffix _).subset hl))
  opens hnil := by
    cases lines with
    | nil => rfl
    | cons first rest =>
      have hink : isBlank first = false := by
        rw [← Bool.not_eq_true, (h.clean first (by simp)).blank_iff]
        exact h.opens first rfl
      simp [summaryOf, hink] at hnil

theorem parse_eq (t : Text) :
    parse t = document (summaryOf (normalLines t)) (proseOf (normalLines t)) := by
  have hjoin : ∀ lines : List Line, (∀ line ∈ lines, IsClean line) →
      joinProse? lines = joinProse? (trimBlankLines lines) := by
    intro lines hclean
    by_cases hnil : trimBlankLines lines = []
    · rw [hnil, joinProse?, hnil]
      rfl
    · rw [(isVerbatim_trimBlankLines hclean hnil).joinProse?]
      unfold joinProse?
      split
      · contradiction
      · rfl
  have hprose : joinProse? ((normalLines t).dropWhile fun line => !isBlank line) =
      joinProse? (proseOf (normalLines t)) := hjoin _ fun line hl =>
    (isNormal_normalLines t).clean line ((List.dropWhile_suffix _).subset hl)
  simp only [parse, Head.cut, Head.document, document, spanUntil_blank, spanUntil_never, hprose]

/-- Plain text is never anything but prose. -/
theorem isProse_parse (t : Text) : (parse t).isProse = true := rfl

/-! ## Wrapped lines -/

/-- A block of prose, which is left out when all of it is blank. -/
theorem separate_wrapProse {lines : List Line} (width : Nat) (hclean : ∀ line ∈ lines, IsClean line)
    (hink : lines = [] ∨ isBlank (joinLines lines) = false) :
    Layout.separate (if isBlank (joinLines lines) then []
      else [Layout.wrapProse width (joinLines lines)]) =
      lines.flatMap (Layout.wrapProseLine width) := by
  rcases hink with rfl | hink
  · rfl
  · have hne : lines ≠ [] := by
      rintro rfl
      exact absurd hink (by decide)
    rw [hink, if_neg Bool.false_ne_true, Layout.separate_singleton, Layout.wrapProse,
      splitLines_joinLines hne fun line hl => (hclean line hl).newline]

section Prose

variable {summary prose : List Line} (h : IsProse summary prose)

include h

theorem IsProse.joinProse? : (joinProse? prose).getD [] = joinLines prose := by
  rcases h.verbatim with rfl | hverbatim
  · rfl
  · rw [hverbatim.joinProse?, Option.getD_some]

theorem IsProse.clean_prose : ∀ line ∈ prose, IsClean line := by
  rcases h.verbatim with rfl | hverbatim
  · simp
  · exact hverbatim.clean

theorem IsProse.ink_prose : prose = [] ∨ isBlank (joinLines prose) = false := by
  rcases h.verbatim with rfl | hverbatim
  · exact .inl rfl
  · right
    cases prose with
    | nil => exact absurd hverbatim.opens (by decide)
    | cons first rest =>
      have hfirst : isBlank first = false := hverbatim.opens
      rw [isBlank_joinLines, List.all_cons, hfirst, Bool.false_and]

theorem IsProse.ink_summary : summary = [] ∨ isBlank (joinLines summary) = false := by
  cases summary with
  | nil => exact .inl rfl
  | cons first rest =>
    right
    rw [isBlank_joinLines, List.all_cons, h.ink first (by simp), Bool.false_and]

/-- Summary and prose are wrapped line by line. -/
theorem IsProse.render (width : Nat) : Plain.render (document summary prose) width =
    joinLines (Layout.glue (summary.flatMap (Layout.wrapProseLine width))
      (prose.flatMap (Layout.wrapProseLine width))) := by
  have hsummary := separate_wrapProse width h.clean h.ink_summary
  have hprose := separate_wrapProse width h.clean_prose h.ink_prose
  rw [← h.joinProse?] at hprose
  rw [Plain.render, Layout.assemble, Layout.headBlocks, Layout.separate_append]
  exact congrArg joinLines (congrArg₂ Layout.glue hsummary hprose)

/-- Wrapped prose is prose. -/
theorem IsProse.wrap (width : Nat) : IsProse (summary.flatMap (Layout.wrapProseLine width))
    (prose.flatMap (Layout.wrapProseLine width)) where
  clean line hl := by
    obtain ⟨whole, hwhole, hpiece⟩ := List.mem_flatMap.mp hl
    exact (Layout.pieces_wrapProseLine width (h.clean whole hwhole)).clean line hpiece
  ink line hl := by
    obtain ⟨whole, hwhole, hpiece⟩ := List.mem_flatMap.mp hl
    exact (Layout.pieces_wrapProseLine width (h.clean whole hwhole)).ink (h.ink whole hwhole)
      line hpiece
  verbatim := h.verbatim.imp (fun hnil => by rw [hnil]; rfl) (IsVerbatim.wrap width)
  opens hnil := by
    cases summary with
    | nil =>
      rw [h.opens rfl]
      rfl
    | cons first rest =>
      rw [List.flatMap_cons, List.append_eq_nil_iff] at hnil
      exact absurd hnil.1 (Layout.pieces_wrapProseLine width (h.clean first (by simp))).nonempty

/-- The summary is found again above the prose. -/
theorem IsProse.cut : summaryOf (Layout.glue summary prose) = summary ∧
    proseOf (Layout.glue summary prose) = prose := by
  have hcut : ∀ below, (∀ line ∈ below.head?, isBlank line = true) →
      summaryOf (summary ++ below) = summary ∧
        proseOf (summary ++ below) = trimBlankLines below := by
    intro below hbelow
    have hink : ∀ line ∈ summary, (!isBlank line) = true := by simpa using h.ink
    have hstop : below.takeWhile (fun line => !isBlank line) = [] ∧
        below.dropWhile (fun line => !isBlank line) = below := by
      cases below with
      | nil => exact ⟨rfl, rfl⟩
      | cons line rest => simp [hbelow line rfl]
    rw [summaryOf, proseOf, List.takeWhile_append_of_pos hink, List.dropWhile_append_of_pos hink,
      hstop.1, hstop.2, List.append_nil]
    exact ⟨rfl, rfl⟩
  by_cases hnone : prose = []
  · have hwhole := hcut [] (by simp)
    rw [List.append_nil] at hwhole
    rw [hnone, Layout.glue_nil]
    exact hwhole
  · have hkept : trimBlankLines prose = prose :=
      (h.verbatim.resolve_left hnone).trimBlankLines
    rw [Layout.glue_eq_append (fun hnil => hnone (h.opens hnil)), Layout.setOff,
      if_neg (by simpa using hnone)]
    have hwhole := hcut ([] :: prose) (by simp [isBlank])
    rwa [trimBlankLines_blank_cons _ rfl, hkept] at hwhole

theorem IsProse.isNormal : IsNormal (Layout.glue summary prose) := by
  have hne : ∀ {line : Line}, isBlank line = false → line ≠ [] := by
    rintro _ hink rfl
    exact absurd hink (by decide)
  have hends : ∀ line ∈ prose.getLast?, line ≠ [] := by
    intro line hl
    rcases h.verbatim with hnil | hverbatim
    · simp [hnil] at hl
    · exact hne (hverbatim.ends line hl)
  cases summary with
  | nil =>
    rw [h.opens rfl]
    exact ⟨by simp, by simp, by simp⟩
  | cons first rest =>
    have hlast : ∀ line ∈ (first :: rest).getLast?, line ≠ [] := fun line hl =>
      hne (h.ink line (List.mem_of_mem_getLast? hl))
    rw [Layout.glue_eq_append (by simp), Layout.setOff]
    split
    · rw [List.append_nil]
      exact ⟨h.clean, fun line hl => hne (h.ink line (List.mem_of_mem_head? hl)), hlast⟩
    · rename_i hprose
      refine ⟨?_, ?_, ?_⟩
      · intro line hl
        rcases List.mem_append.mp hl with hl | hl
        · exact h.clean line hl
        · rcases List.mem_cons.mp hl with rfl | hl
          · exact isClean_nil
          · exact h.clean_prose line hl
      · intro line hl
        exact hne (h.ink line (List.mem_of_mem_head? hl))
      · intro line hl
        rw [List.getLast?_append_of_ne_nil _ (by simp), List.getLast?_cons_of_ne_nil] at hl
        · exact hends line hl
        · simpa using hprose

end Prose

/-! ## No margin -/

/-- A header is too short to be broken. -/
theorem wrapProseLine_of_isHeader {line : Line} (width : Nat) (h : Google.isHeader line = true) :
    Layout.wrapProseLine width line = [line] := by
  have htable : ∀ title ∈ Google.allTitles,
      isBlank (title ++ [':']) = false ∧ (title ++ [':']).length ≤ minWrapWidth := by decide
  obtain ⟨title, htitle, rfl⟩ := Google.exists_title_of_isHeader h
  obtain ⟨hink, hshort⟩ := htable title htitle
  have hfits : (title ++ [':']).length ≤ max width minWrapWidth :=
    Nat.le_trans hshort (Nat.le_max_right _ _)
  unfold Layout.wrapProseLine wrapLine
  rw [hink]
  simp only [if_pos hfits, Bool.false_eq_true, if_false, ite_self]

theorem marginOf_eq_zero {headed headed' : Bool} {line : Line} (h : marginOf headed line = 0)
    (hheaded : headed = true → headed' = true) : marginOf headed' line = 0 := by
  cases headed with
  | true =>
    rw [hheaded rfl]
    exact h
  | false => exact Nat.le_zero.mp ((marginOf_le headed' line).trans h.le)

/-- A line without margin has a piece without margin. -/
theorem exists_piece {headed : Bool} {line : Line} (width : Nat) (hclean : IsClean line)
    (hink : isBlank line = false) (h : marginOf headed line = 0) :
    ∃ piece ∈ Layout.wrapProseLine width line,
      isBlank piece = false ∧ marginOf headed piece = 0 := by
  have hpieces := Layout.pieces_wrapProseLine width hclean
  by_cases hopens : opensWithInk line = true
  · obtain ⟨piece, hpiece⟩ := List.exists_mem_of_ne_nil _ hpieces.nonempty
    exact ⟨piece, hpiece, hpieces.ink hink piece hpiece,
      marginOf_of_opensWithInk headed (hpieces.opens hopens piece hpiece)⟩
  · have hpre : Layout.isPreformatted line = true := by
      obtain ⟨c, rest, rfl⟩ := List.exists_cons_of_ne_nil
        (show line ≠ [] by rintro rfl; exact absurd hink (by decide))
      have hspace : isSpace c = true := by simpa [opensWithInk] using hopens
      simp [Layout.isPreformatted, hspace]
    refine ⟨line, ?_, hink, h⟩
    simp [Layout.wrapProseLine, hink, hpre]

/-- Where only blank lines stand below the first of some normal lines, there are none. -/
theorem eq_nil_of_blank {first : Line} {rest : List Line} (hnormal : IsNormal (first :: rest))
    (hblank : ∀ line ∈ rest, isBlank line = true) : rest = [] := by
  by_contra hne
  have hmem := List.getLast_mem hne
  have hempty := (hnormal.clean _ (List.mem_cons_of_mem _ hmem)).blank_iff.mp (hblank _ hmem)
  refine hnormal.ends _ ?_ hempty
  rw [List.getLast?_cons_of_ne_nil hne]
  exact List.getLast?_eq_some_getLast hne

/-- The pieces of a line that is not blank stand in the summary or, set off, in the prose. -/
theorem mem_pieces {pieces : Line → List Line} {lines : List Line} {line piece : Line}
    (hline : line ∈ lines) (hink : isBlank line = false) (hpiece : piece ∈ pieces line) :
    piece ∈ (summaryOf lines).flatMap pieces ++ Layout.setOff ((proseOf lines).flatMap pieces) := by
  rw [← List.takeWhile_append_dropWhile (p := fun line => !isBlank line) (l := lines),
    List.mem_append] at hline
  rcases hline with hline | hline
  · exact List.mem_append_left _ (List.mem_flatMap.mpr ⟨line, hline, hpiece⟩)
  · have hmem : piece ∈ (proseOf lines).flatMap pieces :=
      List.mem_flatMap.mpr ⟨line, mem_trimBlankLines hline hink, hpiece⟩
    have hne : ((proseOf lines).flatMap pieces).isEmpty = false :=
      List.isEmpty_eq_false_iff_exists_mem.mpr ⟨piece, hmem⟩
    simp [Layout.setOff, hne, hmem]

/-- Wrapping lines that have no margin leaves them without one. -/
theorem isFlush_wrap {lines : List Line} (width : Nat) (hnormal : IsNormal lines)
    (h : IsFlush lines) :
    IsFlush (Layout.glue ((summaryOf lines).flatMap (Layout.wrapProseLine width))
      ((proseOf lines).flatMap (Layout.wrapProseLine width))) := by
  cases lines with
  | nil => trivial
  | cons first rest =>
    obtain ⟨hopens, hmargin⟩ := h
    have hink : isBlank first = false := not_blank_of_opensWithInk hopens
    have hpieces := Layout.pieces_wrapProseLine width (hnormal.clean first (by simp))
    obtain ⟨piece, others, hsplit⟩ := List.exists_cons_of_ne_nil hpieces.nonempty
    have hsummary : summaryOf (first :: rest) = first :: summaryOf rest := by
      simp [summaryOf, hink]
    have hprose : proseOf (first :: rest) = proseOf rest := by simp [proseOf, hink]
    have hheader : Google.isHeader first = true → Google.isHeader piece = true := by
      intro hfirst
      rw [wrapProseLine_of_isHeader width hfirst, List.cons.injEq] at hsplit
      rwa [← hsplit.1]
    have hglue : Layout.glue ((summaryOf (first :: rest)).flatMap (Layout.wrapProseLine width))
        ((proseOf (first :: rest)).flatMap (Layout.wrapProseLine width)) =
        piece :: (others ++ ((summaryOf rest).flatMap (Layout.wrapProseLine width) ++
          Layout.setOff ((proseOf rest).flatMap (Layout.wrapProseLine width)))) := by
      rw [hsummary, hprose, List.flatMap_cons, hsplit, Layout.glue_eq_append (by simp)]
      simp
    rw [hglue]
    refine ⟨hpieces.opens hopens piece (by simp [hsplit]), ?_⟩
    rcases hmargin with ⟨line, hline, hkept, hzero⟩ | hblank
    · obtain ⟨p, hp, hpink, hpzero⟩ :=
        exists_piece width (hnormal.clean line (by simp [hline])) hkept hzero
      exact .inl ⟨p, List.mem_append_right _ (mem_pieces hline hkept hp), hpink,
        marginOf_eq_zero hpzero hheader⟩
    · obtain rfl := eq_nil_of_blank hnormal hblank
      -- a lone line is flush, and so is one that was broken, since its second piece opens with ink
      cases others with
      | nil => exact .inr (by simp [summaryOf, proseOf, trimBlankLines, dropBlankStart, Layout.setOff])
      | cons second others =>
        have hsecond := hpieces.opens hopens second (by simp [hsplit])
        exact .inl ⟨second, by simp, not_blank_of_opensWithInk hsecond,
          marginOf_of_opensWithInk _ hsecond⟩

/-! ## Written and read again -/

theorem isFlush_normalLines_normalText (t : Text) : IsFlush (normalLines (normalText t)) := by
  cases hlines : normalLines t with
  | nil =>
    rw [normalText, hlines]
    exact trivial
  | cons first rest => exact isFlush_normalLines (firstLine_normalText hlines)

/-- What is written for flush lines is in normal form, and it is written again for itself. -/
theorem render_parse {t : Text} (width : Nat) (h : IsFlush (normalLines t)) :
    let written := render (parse t) width
    normalText written = written ∧ render (parse written) width = written ∧
      words written = words t := by
  intro written
  have hnormal := isNormal_normalLines t
  have hprose := isProse_of_isNormal hnormal
  have hwrapped := hprose.wrap width
  obtain ⟨hsummary', hprose'⟩ := hwrapped.cut
  have hwritten : written = joinLines (Layout.glue
      ((summaryOf (normalLines t)).flatMap (Layout.wrapProseLine width))
      ((proseOf (normalLines t)).flatMap (Layout.wrapProseLine width))) := by
    rw [← hprose.render width, ← parse_eq]
  have hkept : ∀ lines : List Line, (∀ line ∈ lines, IsClean line) →
      (lines.flatMap (Layout.wrapProseLine width)).flatMap (Layout.wrapProseLine width) =
        lines.flatMap (Layout.wrapProseLine width) := by
    intro lines hclean
    refine Layout.flatMap_of_keepsProse (le_refl width) fun piece hpiece => ?_
    obtain ⟨line, hline, hmem⟩ := List.mem_flatMap.mp hpiece
    exact Layout.keepsProse_of_mem (hclean line hline).newline hmem
  have hlines := (hwrapped.isNormal.normalLines_joinLines_iff).mpr
    (isFlush_wrap width hnormal h)
  rw [← hwritten] at hlines
  refine ⟨by rw [normalText, hlines, ← hwritten], ?_, ?_⟩
  · rw [parse_eq, hlines, hsummary', hprose', hwrapped.render width, hkept _ hprose.clean,
      hkept _ hprose.clean_prose, ← hwritten]
  · rw [hwritten, words_joinLines, Layout.flatMap_words_glue, Layout.flatMap_words_lines,
      Layout.flatMap_words_lines, proseOf, flatMap_words_trimBlankLines, ← List.flatMap_append,
      summaryOf, List.takeWhile_append_dropWhile, ← words_joinLines]
    exact words_normalText t

end Plain

/-! ## Converting twice -/

namespace Conversion

open Plain

variable {symbol : Option SymbolFact} {options : ConvertOptions}

/-- Plain text is read and written without a failure and without a look at the signature. -/
theorem result_readAndWrite_plain (normal : Text) (confidence : Binary64)
    (warnings : List Diagnostic) :
    (readAndWrite normal .plain .plain confidence symbol options warnings).result =
      verdict normal (some (render (parse normal) options.maxLineWidth)) := by
  by_cases hsame : render (parse normal) options.maxLineWidth = normal <;>
    cases symbol <;>
      simp [readAndWrite, Style.parse, write, isProse_parse, Style.render, verdict, result, hsame]

theorem result_convert_plain (symbol : Option SymbolFact) (text : Text)
    (htrusts : TrustsNames options) :
    (convert text (.named .plain) .plain symbol options).result =
      verdict (normalText text) (some (render (parse (normalText text)) options.maxLineWidth)) := by
  rw [convert_named]
  by_cases hless : Binary64.less .one options.minConfidence = true
  · rw [if_pos hless, if_pos (htrusts hless)]
    exact result_readAndWrite_plain _ _ _
  · rw [if_neg hless]
    exact result_readAndWrite_plain _ _ _

/-- Whatever plain text is converted to is in normal form, is left alone by the next conversion,
and has the words of the text. -/
theorem plain_text_is_converted_once {text : Text} (symbol : Option SymbolFact)
    {options : ConvertOptions}
    (h : (convert text (.named .plain) .plain symbol options).outcome = .applied) :
    ∃ n, (convert text (.named .plain) .plain symbol options).text = some n ∧
      normalText n = n ∧
      (convert n (.named .plain) .plain symbol options).outcome = .alreadyCanonical ∧
      words n = words text := by
  have htrusts := trustsNames_of_applied h
  have hfirst := result_convert_plain symbol text htrusts
  let n := render (parse (normalText text)) options.maxLineWidth
  obtain ⟨hnormal, hagain, hwords⟩ :=
    render_parse options.maxLineWidth (isFlush_normalLines_normalText text)
  have hchanged : n ≠ normalText text := by
    intro hsame
    have hkept := congrArg Prod.fst hfirst
    rw [outcome_verdict_eq_alreadyCanonical.mpr (congrArg some hsame)] at hkept
    exact Outcome.noConfusion (h.symm.trans hkept)
  refine ⟨n, ?_, hnormal, ?_, hwords.trans (words_normalText text)⟩
  · rw [verdict, if_neg hchanged] at hfirst
    exact congrArg Prod.snd hfirst
  · have hsecond := congrArg Prod.fst (result_convert_plain symbol n htrusts)
    rw [hnormal] at hsecond
    exact hsecond.trans (outcome_verdict_eq_alreadyCanonical.mpr (congrArg some hagain))

/-- Tabs and blank lines go, and the summary is broken where its first piece reads as a header. -/
theorem a_summary_that_turns_into_a_header_is_converted_once :
    let text := "\n\tKeyword Arguments: all of them go on.\n\n\n\t    make all\n\t>>> fit ()\n".toList
    let n := "Keyword Arguments:\nall of them go on.\n\n    make all\n>>> fit ()".toList
    let options : ConvertOptions := { maxLineWidth := 20 }
    (convert text (.named .plain) .plain none options).outcome = .applied ∧
      (convert text (.named .plain) .plain none options).text = some n ∧ normalText n = n ∧
      (convert n (.named .plain) .plain none options).outcome = .alreadyCanonical ∧
      words n = words text := by
  intro text n options
  have happlied : (convert text (.named .plain) .plain none options).outcome = .applied := by
    decide +kernel
  have htext : (convert text (.named .plain) .plain none options).text = some n := by
    decide +kernel
  obtain ⟨n', hn', hsettled⟩ := plain_text_is_converted_once none happlied
  obtain rfl : n = n' := Option.some.inj (htext.symm.trans hn')
  exact ⟨happlied, htext, hsettled⟩

end Conversion

end Docstring
