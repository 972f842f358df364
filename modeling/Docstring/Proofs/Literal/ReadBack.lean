-- Reading a rebuilt literal. The margin that was put before the lines is measured on the new lines
-- and comes off again, so that what is read is the body that was written.
import Docstring.Proofs.Literal.Margin
import Docstring.Proofs.Literal.Rebuilt
import Docstring.Proofs.Text.Offset

namespace Docstring

open Text

/-! ## Quotes -/

/-- Are these the quotes that are read around a text, and not longer ones? -/
def Quote.Delimits (q : Quote) (raw : Text) : Prop :=
  q.isTriple = true ∨ ¬List.replicate 3 q.char <+: q.text ++ raw ++ q.text

namespace Literal

variable {q : Quote} {l : Literal} {t raw s newBody : Text} {lines newLines : List Line}
  {line : Line} {siteIndent : Text}

theorem find?_quote_iff : (Quote.all.find? fun q' => startsWith (q.text ++ raw ++ q.text) q'.text) =
    some q ↔ q.Delimits raw := by
  rw [Quote.Delimits, ← startsWith_iff]
  cases q with
  | tripleDouble | tripleSingle =>
    simp [Quote.all, Quote.text, Quote.isTriple, Quote.char, startsWith, dropPrefix?]
  | double =>
    cases hmore : dropPrefix? (raw ++ ['"']) ['"', '"'] <;>
      simp [Quote.all, Quote.text, Quote.isTriple, Quote.char, startsWith, dropPrefix?,
        List.replicate, hmore]
  | single =>
    cases hmore : dropPrefix? (raw ++ ['\'']) ['\'', '\''] <;>
      simp [Quote.all, Quote.text, Quote.isTriple, Quote.char, startsWith, dropPrefix?,
        List.replicate, hmore]

theorem unquote?_eq_some_iff : unquote? (q.text ++ raw ++ q.text) = some (q, raw) ↔
    q.Delimits raw := by
  have hends : endsWith (q.text ++ raw ++ q.text) q.text = true := by
    rw [endsWith, startsWith_iff, List.reverse_prefix]
    exact List.suffix_append _ _
  have hlength : (q.text ++ raw ++ q.text).length = 2 * q.text.length + raw.length := by
    simp only [List.length_append]
    omega
  have hinner : ((q.text ++ raw ++ q.text).drop q.text.length).take raw.length = raw := by
    rw [List.append_assoc, List.drop_left, List.take_left]
  rw [← find?_quote_iff]
  unfold unquote?
  constructor
  · intro h
    split at h
    · simp at h
    · rename_i found hfound
      simp only at h
      split at h
      · simp at h
      · simp only [Option.some.injEq, Prod.mk.injEq] at h
        rw [hfound, h.1]
  · intro h
    have hsize : 2 * q.text.length + raw.length - 2 * q.text.length = raw.length := by omega
    rw [h]
    simp only [hends, hlength, hsize, hinner]
    simp

/-- What reading finds out about the letters and the quotes of a literal. -/
theorem delimits_of_ofText? (h : ofText? t siteIndent = some l) :
    l.letters.length ≤ 2 ∧ l.letters.all isLiteralLetter = true ∧ l.quote.Delimits l.raw := by
  simp only [ofText?] at h
  split at h
  · simp at h
  · rename_i hletters
    simp only [Option.map_eq_some_iff, Prod.exists] at h
    obtain ⟨q, raw, hraw, rfl⟩ := h
    simp only [Bool.or_eq_true, decide_eq_true_eq, Bool.not_eq_true', not_or, not_lt,
      Bool.not_eq_false] at hletters
    refine ⟨hletters.1, hletters.2, unquote?_eq_some_iff.mp ?_⟩
    rw [← unquote?_eq_some hraw, hraw]

/-- Between the same letters and quotes any text can be read that these quotes delimit. -/
theorem ofText?_enclose (h : ofText? t siteIndent = some l) (hraw : l.quote.Delimits raw)
    (indent : Text) : ofText? (l.enclose raw) indent = some
      ⟨l.letters, l.quote, raw, marginOf (splitLines raw) indent, indent⟩ := by
  obtain ⟨hlength, hletters, -⟩ := delimits_of_ofText? h
  have halpha : ∀ c ∈ l.letters, c.isAlpha = true := by
    intro c hc
    have hletter := List.all_eq_true.mp hletters c hc
    simp only [isLiteralLetter, Bool.or_eq_true, beq_iff_eq] at hletter
    rcases hletter with ((rfl | rfl) | rfl) | rfl <;> decide
  obtain ⟨c, more, hquote⟩ := List.exists_cons_of_ne_nil l.quote.text_ne_nil
  have hchar : c = l.quote.char := Quote.mem_text (by rw [hquote]; exact List.mem_cons_self)
  have hc : c.isAlpha = false := by
    rw [hchar]
    cases l.quote <;> decide
  have htake : (l.enclose raw).takeWhile Char.isAlpha = l.letters := by
    simp [enclose, List.takeWhile_append_of_pos halpha, hquote, hc]
  have hdrop : (l.enclose raw).dropWhile Char.isAlpha = l.quote.text ++ raw ++ l.quote.text := by
    simp [enclose, List.dropWhile_append_of_pos halpha, hquote, hc]
  have hfits : ¬(decide (l.letters.length > 2) || !l.letters.all isLiteralLetter) = true := by
    simp [hletters, hlength]
  simp only [ofText?, htake, hdrop]
  rw [if_neg hfits, unquote?_eq_some_iff.mpr hraw, Option.map_some]

theorem ofSource?_whole (s indent : Text) :
    ofSource? s ⟨⟨0, byteLength s⟩, indent⟩ = ofText? s indent := by
  have hslice := slice?_append [] s []
  simp only [List.nil_append, List.append_nil, byteLength_nil, Nat.zero_add] at hslice
  rw [ofSource?, hslice, Option.bind_some]

theorem delimits_of_head? (h : ∀ c ∈ raw.head?, c ≠ q.char) : q.Delimits raw := by
  cases htriple : q.isTriple with
  | true => exact .inl htriple
  | false =>
    refine .inr fun hlonger => ?_
    simp only [Quote.text, htriple, Bool.false_eq_true, if_false, List.replicate_succ,
      List.replicate_zero, List.cons_append, List.cons_prefix_cons, true_and] at hlonger
    cases raw with
    | nil => simpa using hlonger.length_le
    | cons c raw => exact h c rfl (List.cons_prefix_cons.mp hlonger).1.symm

/-- Whether longer quotes are read is settled on the first line. -/
theorem delimits_of_firstLine {first : Line} {more more' : List Line}
    (h : q.Delimits (joinLines (first :: more))) (hmore : more' ≠ []) :
    q.Delimits (joinLines (first :: more')) := by
  refine h.imp_right fun hshort hlonger => hshort ?_
  rw [joinLines_cons first hmore] at hlonger
  have hnewline : '\n' ∉ List.replicate 3 q.char := fun hmem =>
    q.char_ne_newline (List.eq_of_mem_replicate hmem).symm
  have hfirst : List.replicate 3 q.char <+: q.text ++ first := by
    by_contra hnone
    have hlonger' := startsWith_iff.mpr hlonger
    have hline : q.text ++ (first ++ '\n' :: joinLines more') ++ q.text =
        q.text ++ first ++ '\n' :: (joinLines more' ++ q.text) := by simp
    rw [startsWith, hline, dropPrefix?_append_of_notMem _ ?_ hnewline] at hlonger'
    · simp at hlonger'
    · rw [← startsWith_iff, startsWith] at hnone
      simpa using hnone
  have hline : first <+: joinLines (first :: more) := by
    by_cases hnone : more = []
    · simp [hnone]
    · rw [joinLines_cons first hnone]
      exact List.prefix_append _ _
  calc List.replicate 3 q.char <+: q.text ++ first := hfirst
    _ <+: q.text ++ joinLines (first :: more) := (List.prefix_append_right_inj _).mpr hline
    _ <+: q.text ++ joinLines (first :: more) ++ q.text := List.prefix_append _ _

/-! ## Lines behind the margin -/

theorem isIndentation_marginOf (h : bodyMargin? lines = none → IsIndentation siteIndent) :
    IsIndentation (marginOf lines siteIndent) := by
  unfold marginOf
  split
  · rename_i hnone
    exact h hnone
  · split
    · exact isIndentation_indentOf _
    · exact isIndentation_spaces _

theorem indentWidth_marginOf {width : Nat} (h : bodyMargin? lines = some width) :
    indentWidth (marginOf lines siteIndent) = width := by
  unfold marginOf
  simp only [h]
  split
  · rename_i line hline
    have hwidth := List.find?_some hline
    simp only [Bool.and_eq_true, decide_eq_true_eq] at hwidth
    rw [indentWidth, (isIndentation_indentOf line).indentOf_eq, ← indentWidth, hwidth.2]
  · have hspaces := indentWidth_spaces_append width (by simp [indentOf] : '\t' ∉ indentOf [])
    simpa [indentWidth, indentOf] using hspaces

theorem newline_notMem_marginLine (hmargin : IsIndentation l.margin) (h : '\n' ∉ line) :
    '\n' ∉ l.marginLine line := by
  unfold marginLine
  split
  · simp
  · simp [hmargin.newline, h]

/-- Clean lines behind the margin are read as so much indented. -/
theorem map_expandTabs_marginLine (hmargin : IsIndentation l.margin)
    (hclean : ∀ line ∈ lines, IsClean line) :
    (lines.map l.marginLine).map (fun line => expandTabs (trimEnd line)) =
      indent l.marginWidth lines := by
  rw [List.map_map]
  refine List.map_congr_left fun line hline => ?_
  have h := hclean line hline
  by_cases hne : line = []
  · subst hne
    rfl
  · simp [marginLine, hne, trimEnd_append _ h.trimmed hne, expandTabs_append hmargin h, marginWidth]

theorem expandTabs_trimEnd_of_blank (h : isBlank line = true) : expandTabs (trimEnd line) = [] := by
  have hnil : trimEnd line = [] :=
    eq_nil_of_blank (trimEnd_trimEnd line) ((isBlank_trimEnd line).trans h)
  rw [hnil]
  rfl

/-- Lines that are read as indented are normalised to what they were before, whatever blank lines
stand below them. -/
theorem normalLines_of_indented {first : Line} {rest below : List Line} {columns : Nat}
    (hne : lines ≠ []) (hnewline : ∀ line ∈ lines ++ below, '\n' ∉ line)
    (hlines : lines.map (fun line => expandTabs (trimEnd line)) = first :: indent columns rest)
    (hlevel : LevelBelow first columns rest) (hbelow : ∀ line ∈ below, isBlank line = true) :
    normalLines (joinLines (lines ++ below)) = trimEmptyLines (trim first :: rest) := by
  have hempty : ∀ line ∈ below.map fun _ => ([] : Line), line = [] := by simp
  have hexpanded : (lines ++ below).map (fun line => expandTabs (trimEnd line)) =
      first :: indent columns (rest ++ below.map fun _ => []) := by
    rw [List.map_append, hlines, indent, indent, List.map_append, List.map_map, List.cons_append]
    congr 2
    exact List.map_congr_left fun line hl => expandTabs_trimEnd_of_blank (hbelow line hl)
  have hlevel' : LevelBelow first columns (rest ++ below.map fun _ => []) := by
    refine ⟨fun line hl hink => ?_, ?_⟩
    · rcases List.mem_append.mp hl with hl | hl
      · exact hlevel.shifted line hl hink
      · rw [hempty line hl] at hink
        cases hink
    · rcases hlevel.level with ⟨line, hline, hink⟩ | hnone
      · exact .inl ⟨line, by simp [hline], hink⟩
      · exact .inr fun line hl => (List.mem_append.mp hl).elim (hnone line) (hempty line)
  simp only [normalLines]
  rw [splitLines_joinLines (by simp [hne]) hnewline, hexpanded,
    stripMargin_indent hlevel', ← List.cons_append]
  exact trimEmptyLines_append (trim first :: rest) (fun _ h => absurd h List.not_mem_nil) hempty

/-! ## A new body -/

/-- A text that is its own normal form has clean lines, the first of them without indentation.
Unless that is a header, some other one stands at the first column, too. -/
theorem lines_of_normalText (h : normalText t = t) :
    (∀ line ∈ splitLines t, IsClean line) ∧ normalLines t = trimEmptyLines (splitLines t) ∧
      trim (firstLine t) = firstLine t ∧ IsLevel (splitLines t) ∧
      (Google.isHeader (firstLine t) = false → IsLevel (laterLines t)) := by
  have hnormal := isNormal_normalLines t
  have htext : joinLines (normalLines t) = t := h
  have hflush : IsFlush (normalLines t) := by
    rw [← hnormal.normalLines_joinLines_iff, htext]
  cases hlines : normalLines t with
  | nil =>
    have hnil : t = [] := by rw [← htext, hlines, joinLines]
    subst hnil
    exact ⟨by simp [isClean_nil], by decide, rfl, by decide, fun _ => by decide⟩
  | cons first rest =>
    rw [hlines] at hnormal hflush htext
    have hsplit : splitLines t = first :: rest := by
      rw [← htext]
      exact splitLines_joinLines (by simp) fun line hl => (hnormal.clean line hl).newline
    obtain ⟨hink, hrest⟩ := hflush
    rw [firstLine, laterLines, hsplit]
    refine ⟨hnormal.clean, (trimEmptyLines_of_ends hnormal.opens hnormal.ends).symm,
      trim_of_ink hink (hnormal.clean first (by simp)).trimmed, ?_, ?_⟩
    · exact .inl ⟨first, by simp, not_blank_of_opensWithInk hink, indentWidth_of_opensWithInk hink⟩
    · intro hheader
      have hheader : Google.isHeader first = false := hheader
      rcases hrest with ⟨line, hline, hkept, hmargin⟩ | hblank
      · exact .inl ⟨line, hline, hkept, by simpa [Docstring.marginOf, hheader] using hmargin⟩
      · refine .inr fun line hline => ?_
        exact (hnormal.clean line (List.mem_of_mem_tail hline)).blank_iff.mp (hblank line hline)

/-- Below the lines of a new body stands at most the indentation of the closing quotes. -/
theorem exists_wrapLines (hsite : l.grows newBody = true → IsIndentation l.siteIndent) :
    ∃ below, l.wrapLines newBody = l.layoutLines (splitLines newBody) ++ below ∧
      ∀ line ∈ below, isBlank line = true ∧ '\n' ∉ line := by
  refine ⟨_, rfl, fun line hline => ?_⟩
  split at hline
  · rename_i hbelow
    obtain ⟨init, last, hlines⟩ := l.exists_rawLines
    have hlast : l.closingIndent = last := by simp [closingIndent, hbelow, hlines]
    have hblank : isBlank last = true := by
      simpa [hlines] using (Bool.and_eq_true_iff.mp hbelow).2
    have hmem : last ∈ l.rawLines := by simp [hlines]
    rw [List.mem_singleton.mp hline, hlast]
    exact ⟨hblank, newline_notMem_of_mem_rawLines hmem⟩
  · split at hline
    · rename_i hgrows
      rw [List.mem_singleton.mp hline]
      exact ⟨(hsite hgrows).isBlank, (hsite hgrows).newline⟩
    · simp at hline

section Layout

variable {first : Line} {rest : List Line}
  (hmargin : l.startsBelow = true ∨ rest ≠ [] → IsIndentation l.margin)

include hmargin

theorem newline_notMem_layoutLines (hnewline : ∀ line ∈ first :: rest, '\n' ∉ line)
    (hline : line ∈ l.layoutLines (first :: rest)) : '\n' ∉ line := by
  simp only [layoutLines, List.mem_append, List.mem_map] at hline
  rcases hline with hline | ⟨old, hold, rfl⟩
  · split at hline
    · rename_i hbelow
      simp only [List.mem_cons, List.not_mem_nil, or_false] at hline
      rcases hline with rfl | rfl
      · simp
      · exact newline_notMem_marginLine (hmargin (.inl hbelow)) (hnewline first (by simp))
    · exact List.mem_singleton.mp hline ▸ hnewline first (by simp)
  · exact newline_notMem_marginLine (hmargin (.inr (List.ne_nil_of_mem hold)))
      (hnewline old (by simp [hold]))

/-- The first line stands on the line of the opening quotes, or behind the margin as the others. -/
theorem map_expandTabs_layoutLines (hclean : ∀ line ∈ first :: rest, IsClean line) :
    (l.layoutLines (first :: rest)).map (fun line => expandTabs (trimEnd line)) =
      if l.startsBelow then [] :: indent l.marginWidth (first :: rest)
      else first :: indent l.marginWidth rest := by
  have hfirst := hclean first (by simp)
  have hrest : ∀ line ∈ rest, IsClean line := fun line hl => hclean line (by simp [hl])
  split
  · rename_i hbelow
    have hlayout : l.layoutLines (first :: rest) = [] :: (first :: rest).map l.marginLine := by
      simp [layoutLines, hbelow]
    rw [hlayout, List.map_cons, map_expandTabs_marginLine (hmargin (.inl hbelow)) hclean]
    rfl
  · rename_i hbelow
    have hlayout : l.layoutLines (first :: rest) = first :: rest.map l.marginLine := by
      simp [layoutLines, hbelow]
    rw [hlayout, List.map_cons, hfirst.trimmed, expandTabs_of_clean hfirst]
    by_cases hnil : rest = []
    · subst hnil
      rfl
    · rw [map_expandTabs_marginLine (hmargin (.inr hnil)) hrest]

end Layout

section Wrapped

variable (hmargin : l.startsBelow = true ∨ '\n' ∈ newBody → IsIndentation l.margin)
  (hsite : l.grows newBody = true → IsIndentation l.siteIndent)

include hmargin hsite

/-- Clean lines are read as they were written, if one of them stands at the first column. Where the
first one stands on the line of the opening quotes, it has no margin, and one of the others must. -/
theorem normalLines_wrapLines_of_level {first : Line} {rest : List Line}
    (hsplit : splitLines newBody = first :: rest) (hclean : ∀ line ∈ first :: rest, IsClean line)
    (hbelow : l.startsBelow = true → IsLevel (first :: rest))
    (hbeside : l.startsBelow = false →
      trim first = first ∧ LevelBelow first l.marginWidth rest) :
    normalLines (joinLines (l.wrapLines newBody)) = trimEmptyLines (first :: rest) := by
  obtain ⟨below, hwrap, hblank⟩ := exists_wrapLines hsite
  have hmargin : l.startsBelow = true ∨ rest ≠ [] → IsIndentation l.margin := by
    refine fun h => hmargin (h.imp_right fun hlater => ?_)
    by_contra hnone
    rw [splitLines_of_notMem hnone] at hsplit
    exact hlater (List.cons.inj hsplit).2.symm
  rw [hsplit] at hwrap
  have hnewline : ∀ line ∈ l.layoutLines (first :: rest) ++ below, '\n' ∉ line := by
    intro line hl
    rcases List.mem_append.mp hl with hl | hl
    · exact newline_notMem_layoutLines hmargin (fun line hl => (hclean line hl).newline) hl
    · exact (hblank line hl).2
  have hne := l.layoutLines_ne_nil (List.cons_ne_nil first rest)
  have hexpanded := map_expandTabs_layoutLines hmargin hclean
  have hblank : ∀ line ∈ below, isBlank line = true := fun line hl => (hblank line hl).1
  rw [hwrap]
  split at hexpanded
  · rename_i hstarts
    have hlevel : LevelBelow [] l.marginWidth (first :: rest) :=
      (hbelow hstarts).levelBelow (by decide) hclean _
    rw [normalLines_of_indented hne hnewline hexpanded hlevel hblank]
    exact trimEmptyLines_nil_cons _
  · rename_i hstarts
    obtain ⟨htrim, hlevel⟩ := hbeside (Bool.eq_false_iff.mpr hstarts)
    rw [normalLines_of_indented hne hnewline hexpanded hlevel hblank, htrim]

theorem normalLines_wrapLines (hnormal : normalText newBody = newBody)
    (hheader : Google.isHeader (firstLine newBody) = false) :
    normalLines (joinLines (l.wrapLines newBody)) = normalLines newBody := by
  obtain ⟨hclean, hlines, hfirst, hlevel, hrest⟩ := lines_of_normalText hnormal
  rw [splitLines_eq_cons] at hclean hlines hlevel
  rw [hlines]
  exact normalLines_wrapLines_of_level hmargin hsite (splitLines_eq_cons newBody) hclean
    (fun _ => hlevel) fun _ => ⟨hfirst, (hrest hheader).levelBelow (hfirst.symm ▸ hheader)
      (fun line hl => hclean line (by simp [hl])) _⟩

end Wrapped

theorem head?_joinLines (line : Line) (lines : List Line) :
    ∀ c ∈ (joinLines (line :: lines)).head?, c ∈ line ∨ c = '\n' := by
  intro c hc
  cases line with
  | cons d line =>
    refine .inl ?_
    cases lines <;> simp_all [joinLines]
  | nil =>
    cases lines with
    | nil => simp [joinLines] at hc
    | cons next more => exact .inr (by simpa [joinLines] using hc.symm)

/-- A safe body does not make the quotes before it longer. -/
theorem delimits_wrapLines (hsafe : l.isSafe newBody = true) :
    l.quote.Delimits (joinLines (l.wrapLines newBody)) := by
  rcases (isSafe_iff.mp hsafe).2.2 with htriple | ⟨hnewline, hquote⟩
  · exact .inl htriple
  · have hlines : ∃ first more, l.wrapLines newBody = first :: more ∧ l.quote.char ∉ first := by
      rw [wrapLines, splitLines_of_notMem hnewline]
      simp only [layoutLines]
      split
      · exact ⟨[], _, rfl, List.not_mem_nil⟩
      · exact ⟨newBody, _, rfl, hquote⟩
    obtain ⟨first, more, hwrap, hfirst⟩ := hlines
    rw [hwrap]
    refine delimits_of_head? fun c hc hchar => ?_
    rcases head?_joinLines first more c hc with hmem | hmem
    · exact hfirst (hchar ▸ hmem)
    · exact l.quote.char_ne_newline (hchar.symm.trans hmem)

/-- The literal with a new body can be read, and where the statement's indentation is written it is
one. -/
theorem exists_of_wrap? (h : ofText? t siteIndent = some l) (hs : l.wrap? newBody = some s)
    (hindent : bodyMargin? l.rawLines = none → l.startsBelow = true ∨ '\n' ∈ newBody →
      IsIndentation siteIndent) (indent : Text) :
    (l.startsBelow = true ∨ '\n' ∈ newBody → IsIndentation l.margin) ∧
      (l.grows newBody = true → IsIndentation l.siteIndent) ∧
      ∃ l', ofText? s indent = some l' ∧ l'.letters = l.letters ∧ l'.quote = l.quote ∧
        l'.raw = joinLines (l.wrapLines newBody) := by
  obtain ⟨-, hmargin, hsite⟩ := ofText?_eq_some h
  obtain ⟨hsafe, rfl, -⟩ := wrap?_eq_some hs
  refine ⟨fun hwritten => ?_, fun hgrows => ?_, _,
    ofText?_enclose h (delimits_wrapLines hsafe) indent, rfl, rfl, rfl⟩
  · exact hmargin ▸ isIndentation_marginOf fun hnone => hindent hnone hwritten
  · rw [grows, Bool.and_eq_true, Bool.not_eq_true', decide_eq_true_eq,
      decide_eq_false_iff_not] at hgrows
    have hnone : bodyMargin? l.rawLines = none := by
      rw [rawLines, splitLines_of_notMem hgrows.2]
      rfl
    exact hsite ▸ hindent hnone (.inr hgrows.1)

/-- A new body in normal form that does not open with a section header is the body that is read
again. The indentation of the statement must be one wherever it is written: behind a body that has
no margin of its own yet. -/
theorem a_new_body_reads_back (source : Text) (site : DocstringSite) (l : Literal)
    (h : ofSource? source site = some l) (newBody s : Text) (hnormal : normalText newBody = newBody)
    (hheader : Google.isHeader (firstLine newBody) = false)
    (hindent : bodyMargin? l.rawLines = none → l.startsBelow = true ∨ '\n' ∈ newBody →
      IsIndentation site.indent)
    (hs : l.wrap? newBody = some s) (indent : Text) :
    ∃ l', ofSource? s ⟨⟨0, byteLength s⟩, indent⟩ = some l' ∧ l'.letters = l.letters ∧
      l'.quote = l.quote ∧ l'.body = newBody := by
  rw [ofSource?, Option.bind_eq_some_iff] at h
  obtain ⟨t, -, h⟩ := h
  obtain ⟨hmargin, hsite, l', hl', hletters, hquote, hraw⟩ := exists_of_wrap? h hs hindent indent
  refine ⟨l', (ofSource?_whole _ _).trans hl', hletters, hquote, ?_⟩
  rw [body, normalText, hraw, normalLines_wrapLines hmargin hsite hnormal hheader]
  exact hnormal

/-- A list behind a margin of tabs, below the opening quotes. -/
theorem a_list_behind_tabs_reads_back :
    let source := "\"\"\"\n\tSum.\n\n\t  of x\n\t\"\"\"".toList
    let newBody := "Mean.\n\n  of x\nand y".toList
    ∃ l s, ofSource? source ⟨⟨0, 23⟩, "\t".toList⟩ = some l ∧ l.wrap? newBody = some s ∧
      s = "\"\"\"\n\tMean.\n\n\t  of x\n\tand y\n\t\"\"\"".toList ∧
      ∃ l', ofSource? s ⟨⟨0, byteLength s⟩, []⟩ = some l' ∧ l'.letters = l.letters ∧
        l'.quote = l.quote ∧ l'.body = newBody := by
  intro source newBody
  have hl : ofSource? source ⟨⟨0, 23⟩, "\t".toList⟩ = some ⟨[], .tripleDouble,
      "\n\tSum.\n\n\t  of x\n\t".toList, "\t".toList, "\t".toList⟩ := by decide +kernel
  have hs : Literal.wrap? ⟨[], .tripleDouble, "\n\tSum.\n\n\t  of x\n\t".toList, "\t".toList,
      "\t".toList⟩ newBody =
        some "\"\"\"\n\tMean.\n\n\t  of x\n\tand y\n\t\"\"\"".toList := by decide +kernel
  exact ⟨_, _, hl, hs, rfl, a_new_body_reads_back source _ _ hl newBody _ (by decide +kernel)
    (by decide +kernel) (fun _ _ => by decide) hs []⟩

/-- A form feed before a statement is no indentation of a docstring's lines. As a margin it becomes
part of the line. -/
theorem a_form_feed_is_read_into_the_body :
    let site : DocstringSite := ⟨⟨0, 10⟩, "\x0c    ".toList⟩
    let newBody := "Mean.\n\nOf x.".toList
    (normalText newBody = newBody ∧ Google.isHeader (firstLine newBody) = false) ∧
      ∃ l s l', ofSource? "\"\"\"Sum.\"\"\"".toList site = some l ∧ l.wrap? newBody = some s ∧
        ofSource? s ⟨⟨0, byteLength s⟩, site.indent⟩ = some l' ∧
        l'.body = "Mean.\n\n\x0c    Of x.".toList ∧ l'.body ≠ newBody := by
  refine ⟨by decide +kernel, ⟨[], .tripleDouble, "Sum.".toList, "\x0c    ".toList,
    "\x0c    ".toList⟩, "\"\"\"Mean.\n\n\x0c    Of x.\n\x0c    \"\"\"".toList,
    ⟨[], .tripleDouble, "Mean.\n\n\x0c    Of x.\n\x0c    ".toList, [], "\x0c    ".toList⟩, ?_⟩
  decide +kernel

end Literal

end Docstring
