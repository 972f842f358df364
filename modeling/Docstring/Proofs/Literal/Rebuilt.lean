-- A rebuilt literal: which of the lines that it is put together from can end it early or keep it
-- from ending. Everything but two things is checked before: where the line breaks of a literal in
-- single quotes are left, and what stands before the closing quotes once the last lines are gone.
import Docstring.Proofs.Literal.Scan

namespace Docstring

open Text

/-- Is a text a literal with these letters and quotes, up to its very end? -/
def Quote.encloses (q : Quote) (letters t : Text) : Bool :=
  (dropPrefix? t (letters ++ q.text)).any (q.closes false)

namespace Literal

variable {l : Literal} {t newBody s : Text} {lines newLines : List Line} {line : Line}

/-! ## Whole literals -/

theorem encloses_enclose_iff (h : ∀ line ∈ lines, '\n' ∉ line) :
    l.quote.encloses l.letters (l.enclose (joinLines lines)) = true ↔ l.quote.Holds lines := by
  have hrest : dropPrefix? (l.enclose (joinLines lines)) (l.letters ++ l.quote.text) =
      some (joinLines lines ++ l.quote.text) := by
    rw [enclose, List.append_assoc _ (joinLines lines), dropPrefix?_append]
  rw [Quote.encloses, hrest, Option.any_some, Quote.closes_joinLines_iff h]

theorem exists_rawLines (l : Literal) : ∃ init last, l.rawLines = init ++ [last] :=
  (List.eq_nil_or_concat' l.rawLines).resolve_left (splitLines_ne_nil l.raw)

theorem newline_notMem_of_mem_rawLines (h : line ∈ l.rawLines) : '\n' ∉ line :=
  newline_notMem_of_mem_splitLines h

/-- A literal that was whole where it was read, and stands behind plain indentation. -/
structure Whole (l : Literal) : Prop where
  lines : l.quote.Holds l.rawLines
  margin : l.quote.IsInert l.margin
  siteIndent : l.quote.IsInert l.siteIndent

theorem unquote?_eq_some {q : Quote} {raw : Text} (h : unquote? t = some (q, raw)) :
    t = q.text ++ raw ++ q.text := by
  unfold unquote? at h
  split at h
  · simp at h
  · rename_i found hfound
    have hstart := List.find?_some hfound
    simp only at hstart h
    split at h
    · simp at h
    · rename_i hsize
      simp only [Option.some.injEq, Prod.mk.injEq] at h
      obtain ⟨rfl, rfl⟩ := h
      simp only [Bool.or_eq_true, decide_eq_true_eq, Bool.not_eq_true', not_or, not_lt,
        Bool.not_eq_false] at hsize
      obtain ⟨rest, rfl⟩ := startsWith_iff.mp hstart
      have hends := hsize.2
      rw [endsWith, startsWith_iff, List.reverse_prefix] at hends
      have hlength := hsize.1
      rw [List.length_append] at hlength
      have hsuffix : found.text <:+ rest :=
        List.suffix_of_suffix_length_le hends (List.suffix_append _ _) (by omega)
      obtain ⟨raw, rfl⟩ := hsuffix
      simp only [List.length_append, List.drop_left]
      have htake : found.text.length + (raw.length + found.text.length) -
          2 * found.text.length = raw.length := by omega
      rw [htake, List.take_left, List.append_assoc]

theorem ofText?_eq_some {indent : Text} (h : ofText? t indent = some l) :
    t = l.enclose l.raw ∧ l.margin = marginOf l.rawLines indent ∧ l.siteIndent = indent := by
  simp only [ofText?] at h
  split at h
  · simp at h
  · simp only [Option.map_eq_some_iff, Prod.exists] at h
    obtain ⟨q, raw, hraw, rfl⟩ := h
    refine ⟨?_, rfl, rfl⟩
    have hrest := unquote?_eq_some hraw
    rw [enclose, List.append_assoc, List.append_assoc, ← List.append_assoc q.text, ← hrest]
    exact (List.takeWhile_append_dropWhile).symm

/-- The margin is indentation of one of the lines, or the one of the site. -/
theorem isInert_marginOf {q : Quote} {indent : Text} (h : q.IsInert indent) :
    q.IsInert (marginOf lines indent) := by
  have hplain : ∀ t : Text, (∀ c ∈ t, isIndent c = true) → q.IsInert t := fun t ht =>
    ⟨fun hmem => absurd (ht _ hmem) (by decide),
      fun hmem => absurd (ht _ hmem) (by cases q <;> decide),
      fun hmem => absurd (ht _ hmem) (by decide)⟩
  unfold marginOf
  split
  · exact h
  · split
    · exact hplain _ fun c hc => List.all_eq_true.mp List.all_takeWhile c hc
    · refine hplain _ fun c hc => ?_
      rw [List.eq_of_mem_replicate hc]
      decide

/-- What is read from a whole literal is whole. -/
theorem whole_of_ofSource? {source : Text} {site : DocstringSite}
    (h : ofSource? source site = some l)
    (hwhole : (slice? source site.span.first site.span.last).any
      (l.quote.encloses l.letters) = true)
    (hindent : l.quote.IsInert site.indent) : l.Whole := by
  rw [ofSource?, Option.bind_eq_some_iff] at h
  obtain ⟨t, ht, h⟩ := h
  obtain ⟨hliteral, hmargin, hsite⟩ := ofText?_eq_some h
  rw [ht, Option.any_some, hliteral, ← joinLines_splitLines l.raw,
    encloses_enclose_iff fun _ => newline_notMem_of_mem_splitLines] at hwhole
  exact ⟨hwhole, hmargin ▸ isInert_marginOf hindent, hsite ▸ hindent⟩

/-! ## Safe bodies -/

theorem isSafe_iff : l.isSafe t = true ↔ contains t l.quote.text = false ∧
    t.getLast? ≠ some '\\' ∧ (l.quote.isTriple = true ∨ '\n' ∉ t ∧ l.quote.char ∉ t) := by
  simp [isSafe, and_assoc]

theorem isFree_of_isSafe (h : l.isSafe (joinLines lines) = true) (hline : line ∈ lines) :
    l.quote.isFree false line = true :=
  Quote.isFree_of_contains (contains_of_isInfix (isSafe_iff.mp h).1 (isInfix_joinLines hline))

/-- The last line of a safe body does not escape what comes after it. -/
theorem escapesNext_of_isSafe (h : l.isSafe (joinLines lines) = true)
    (hline : lines.getLast? = some line) : escapesNext false line = false := by
  by_contra hescapes
  rw [Bool.not_eq_false] at hescapes
  have hlast := getLast?_of_escapesNext hescapes
  have hne : line ≠ [] := by
    rintro rfl
    simp at hlast
  exact (isSafe_iff.mp h).2.1 ((getLast?_joinLines hline hne).trans hlast)

/-! ## Margins -/

section Margin

variable (h : l.Whole)

include h

/-- The margin before a line changes nothing about it. -/
theorem Whole.exists_marginLine (line : Line) :
    ∃ margin, l.quote.IsInert margin ∧ l.marginLine line = margin ++ line := by
  unfold marginLine
  split
  · rename_i hnil
    exact ⟨[], l.quote.isInert_nil, (List.isEmpty_iff.mp hnil).symm⟩
  · exact ⟨l.margin, h.margin, rfl⟩

/-- A literal in single quotes goes on with its first line, or has no other. -/
theorem Whole.startsBelow_of_single (hsingle : l.quote.isTriple = false) :
    l.startsBelow = false := by
  by_contra hbelow
  simp only [startsBelow, Bool.not_eq_false, Bool.and_eq_true, decide_eq_true_eq] at hbelow
  obtain ⟨hlength, hblank⟩ := hbelow
  obtain ⟨first, more, hlines⟩ := List.exists_cons_of_ne_nil (splitLines_ne_nil l.raw)
  have hlines : l.rawLines = first :: more := hlines
  have hmore : more ≠ [] := by
    rintro rfl
    simp [hlines] at hlength
  simp only [hlines, List.head?_cons, Option.map_some, Option.getD_some] at hblank
  have hfirst : first ∈ l.rawLines.dropLast := by
    simp [hlines, List.dropLast_cons_of_ne_nil hmore]
  have hescapes := (h.lines.continued first hfirst).resolve_left (by simp [hsingle])
  have hinert := Quote.isInert_of_isBlank (q := l.quote) hblank
    (newline_notMem_of_mem_rawLines (List.mem_of_mem_dropLast hfirst))
  rw [escapesNext_of_notMem hinert.backslash] at hescapes
  exact Bool.false_ne_true hescapes

end Margin

/-! ## A new body -/

/-- Do the closing quotes go to a line of their own because the body grows beyond one line? -/
def grows (l : Literal) (newBody : Text) : Bool := '\n' ∈ newBody && !('\n' ∈ l.raw)

/-- The lines between the quotes around a new body. -/
def wrapLines (l : Literal) (newBody : Text) : List Line :=
  l.layoutLines (splitLines newBody) ++
    if l.closesBelow then [l.closingIndent]
    else if l.grows newBody then [l.siteIndent] else []

theorem layoutLines_ne_nil (l : Literal) (hne : lines ≠ []) : l.layoutLines lines ≠ [] := by
  cases lines with
  | nil => exact absurd rfl hne
  | cons first rest =>
    simp only [layoutLines]
    split <;> simp

theorem wrap?_eq_some (h : l.wrap? newBody = some s) :
    l.isSafe newBody = true ∧ s = l.enclose (joinLines (l.wrapLines newBody)) ∧
      (l.closesBelow = false → l.grows newBody = false →
        newBody.getLast? ≠ some l.quote.char) := by
  have hne := l.layoutLines_ne_nil (splitLines_ne_nil newBody)
  unfold wrap? at h
  split at h
  · simp at h
  · rename_i hsafe
    refine ⟨by simpa using hsafe, ?_⟩
    by_cases hbelow : l.closesBelow = true
    · simp only [hbelow, if_true, Option.some.injEq] at h
      simp [← h, wrapLines, hbelow, joinLines_concat _ hne]
    · by_cases hgrows : l.grows newBody = true
      · have hcond := hgrows
        rw [grows] at hcond
        simp only [hbelow, hcond, if_true, Bool.false_eq_true, if_false, Option.some.injEq] at h
        simp [← h, wrapLines, hbelow, hgrows, joinLines_concat _ hne]
      · have hcond := hgrows
        rw [grows] at hcond
        simp only [hbelow, hcond, Bool.false_eq_true, if_false] at h
        split at h
        · simp at h
        · rename_i hlast
          simp only [Option.some.injEq] at h
          simp [← h, wrapLines, hbelow, hgrows, hlast]

/-- The indentation before closing quotes on a line of their own is blank. -/
theorem isInert_closingIndent (l : Literal) : l.quote.IsInert l.closingIndent := by
  unfold closingIndent
  split
  · rename_i hbelow
    obtain ⟨init, last, hlines⟩ := l.exists_rawLines
    have hblank : isBlank last = true := by
      simpa [closesBelow, hlines] using (Bool.and_eq_true_iff.mp hbelow).2
    have hlast : last ∈ l.rawLines := by simp [hlines]
    simpa [hlines] using
      Quote.isInert_of_isBlank hblank (newline_notMem_of_mem_rawLines hlast)
  · exact l.quote.isInert_nil

section Wrapped

variable (h : l.Whole)

include h

/-- Every line of a new body stands behind a margin, or on the line of the opening quotes. -/
theorem Whole.mem_layoutLines (hline : line ∈ l.layoutLines lines) :
    line = [] ∨ ∃ margin old, l.quote.IsInert margin ∧ old ∈ lines ∧ line = margin ++ old := by
  cases lines with
  | nil => simp [layoutLines] at hline
  | cons first rest =>
    have hmargin : ∀ old ∈ first :: rest, ∃ margin old', l.quote.IsInert margin ∧
        old' ∈ first :: rest ∧ l.marginLine old = margin ++ old' := by
      intro old hold
      obtain ⟨margin, hmargin, hsplit⟩ := h.exists_marginLine old
      exact ⟨margin, old, hmargin, hold, hsplit⟩
    rcases List.mem_append.mp hline with hline | hline
    · split at hline
      · rcases List.mem_cons.mp hline with rfl | hline
        · exact .inl rfl
        · exact .inr (List.mem_singleton.mp hline ▸ hmargin first (by simp))
      · refine .inr ⟨[], first, l.quote.isInert_nil, by simp, ?_⟩
        exact List.mem_singleton.mp hline
    · obtain ⟨old, hold, rfl⟩ := List.mem_map.mp hline
      exact .inr (hmargin old (by simp [hold]))

theorem Whole.getLast?_layoutLines (hline : line ∈ (l.layoutLines lines).getLast?) :
    ∃ margin old, l.quote.IsInert margin ∧ old ∈ lines.getLast? ∧ line = margin ++ old := by
  cases lines with
  | nil => simp [layoutLines] at hline
  | cons first rest =>
    by_cases hrest : rest = []
    · subst hrest
      simp only [layoutLines, List.map_nil, List.append_nil] at hline
      split at hline
      · obtain ⟨margin, hmargin, hsplit⟩ := h.exists_marginLine first
        refine ⟨margin, first, hmargin, rfl, ?_⟩
        rw [← hsplit]
        simpa using hline.symm
      · exact ⟨[], first, l.quote.isInert_nil, rfl, by simpa using hline.symm⟩
    · rw [layoutLines, List.getLast?_append_of_ne_nil _ (by simpa using hrest),
        List.getLast?_map, Option.mem_def, Option.map_eq_some_iff] at hline
      obtain ⟨old, hold, rfl⟩ := hline
      obtain ⟨margin, hmargin, hsplit⟩ := h.exists_marginLine old
      exact ⟨margin, old, hmargin, by rwa [List.getLast?_cons_of_ne_nil hrest], hsplit⟩

theorem Whole.newline_notMem_wrapLines (hline : line ∈ l.wrapLines newBody) : '\n' ∉ line := by
  rcases List.mem_append.mp hline with hline | hline
  · rcases h.mem_layoutLines hline with rfl | ⟨margin, old, hmargin, hold, rfl⟩
    · simp
    · simp [hmargin.newline, newline_notMem_of_mem_splitLines hold]
  · split at hline
    · rw [List.mem_singleton.mp hline]
      exact l.isInert_closingIndent.newline
    · split at hline
      · rw [List.mem_singleton.mp hline]
        exact h.siteIndent.newline
      · simp at hline

theorem Whole.isFree_layoutLines (hsafe : l.isSafe (joinLines lines) = true)
    (hline : line ∈ l.layoutLines lines) : l.quote.isFree false line = true := by
  rcases h.mem_layoutLines hline with rfl | ⟨margin, old, hmargin, hold, rfl⟩
  · rfl
  · rw [Quote.isFree_append_of_isInert hmargin, isFree_of_isSafe hsafe hold]

/-- A safe body whose last character is no quote stays apart from the closing quotes. -/
theorem Whole.endsOpen_layoutLines (hsafe : l.isSafe (joinLines lines) = true)
    (hquote : (joinLines lines).getLast? ≠ some l.quote.char)
    (hline : line ∈ (l.layoutLines lines).getLast?) : l.quote.endsOpen false line = false := by
  obtain ⟨margin, old, hmargin, hold, rfl⟩ := h.getLast?_layoutLines hline
  rw [Quote.endsOpen_append_of_isInert hmargin]
  by_cases hne : old = []
  · simp [hne]
  · have hlast := getLast?_joinLines hold hne
    rw [hlast] at hquote
    exact Quote.endsOpen_of_getLast? (hlast ▸ (isSafe_iff.mp hsafe).2.1) hquote

/-- Between triple quotes a new body always has room. -/
theorem Whole.holds_wrapLines_of_triple (htriple : l.quote.isTriple = true)
    (hs : l.wrap? newBody = some s) : l.quote.Holds (l.wrapLines newBody) := by
  obtain ⟨hsafe, -, hquote⟩ := wrap?_eq_some hs
  rw [← joinLines_splitLines newBody] at hsafe
  have hbody : ∀ line ∈ l.layoutLines (splitLines newBody), l.quote.isFree false line = true :=
    fun _ => h.isFree_layoutLines hsafe
  have hsite := h.siteIndent
  have hclosing := l.isInert_closingIndent
  refine ⟨?_, fun _ _ => .inl htriple, ?_⟩
  · intro line hline
    rcases List.mem_append.mp hline with hline | hline
    · exact hbody line hline
    · split at hline
      · exact List.mem_singleton.mp hline ▸ hclosing.isFree
      · split at hline
        · exact List.mem_singleton.mp hline ▸ hsite.isFree
        · simp at hline
  · intro line hline
    unfold wrapLines at hline
    split at hline
    · simp only [List.getLast?_append, List.getLast?_singleton, Option.some_or, Option.mem_some_iff]
        at hline
      exact hline ▸ hclosing.endsOpen
    · rename_i hbelow
      split at hline
      · simp only [List.getLast?_append, List.getLast?_singleton, Option.some_or,
          Option.mem_some_iff] at hline
        exact hline ▸ hsite.endsOpen
      · rename_i hgrows
        rw [List.append_nil] at hline
        have hlast := hquote (by simpa using hbelow) (by simpa using hgrows)
        rw [← joinLines_splitLines newBody] at hlast
        exact h.endsOpen_layoutLines hsafe hlast hline

/-- Between single quotes nothing may stand below the new body. -/
theorem Whole.holds_wrapLines_of_single (hsingle : l.quote.isTriple = false)
    (hs : l.wrap? newBody = some s) :
    l.quote.Holds (l.wrapLines newBody) ↔ l.closesBelow = false := by
  obtain ⟨hsafe, -, -⟩ := wrap?_eq_some hs
  obtain ⟨hcontains, hback, hline⟩ := isSafe_iff.mp hsafe
  obtain ⟨hnewline, hquote⟩ := hline.resolve_left (by simp [hsingle])
  have hlayout : l.layoutLines (splitLines newBody) = [newBody] := by
    simp [splitLines_of_notMem hnewline, layoutLines, h.startsBelow_of_single hsingle]
  have hgrows : l.grows newBody = false := by simp [grows, hnewline]
  have hsafe' : l.isSafe (joinLines [newBody]) = true := hsafe
  rw [wrapLines, hlayout, hgrows]
  constructor
  · intro hholds
    by_contra hbelow
    rw [Bool.not_eq_false] at hbelow
    have hescapes := (hholds.continued newBody (by simp [hbelow])).resolve_left (by simp [hsingle])
    have hends : escapesNext false newBody = false := escapesNext_of_isSafe hsafe' rfl
    exact Bool.false_ne_true (hends.symm.trans hescapes)
  · intro hbelow
    have hends : l.quote.endsOpen false newBody = false :=
      Quote.endsOpen_of_getLast? hback fun hlast => hquote (List.mem_of_getLast? hlast)
    simpa [hbelow] using
      Quote.holds_singleton_iff.mpr ⟨isFree_of_isSafe hsafe' (List.mem_singleton_self _), hends⟩

theorem Whole.encloses_wrap_iff (hs : l.wrap? newBody = some s) :
    l.quote.encloses l.letters s = true ↔ l.quote.isTriple = true ∨ l.closesBelow = false := by
  rw [(wrap?_eq_some hs).2.1, encloses_enclose_iff fun _ hl => h.newline_notMem_wrapLines hl]
  cases htriple : l.quote.isTriple with
  | true => simpa using h.holds_wrapLines_of_triple htriple hs
  | false => simpa using h.holds_wrapLines_of_single htriple hs

end Wrapped

/-! ## Replaced lines -/

/-- The lines between the quotes up to the end of the new ones, in place of those from `first` up to
`last`. -/
def linesThrough (l : Literal) (first : Nat) (newLines : List Line) : List Line :=
  l.rawLines.take (first + l.lead) ++ newLines.map l.marginLine

def spliceLines (l : Literal) (first last : Nat) (newLines : List Line) : List Line :=
  l.linesThrough first newLines ++ l.rawLines.drop (last + l.lead)

theorem splice?_eq_some {first last : Nat} (h : l.splice? first last newLines = some s) :
    first ≤ last ∧ last + l.lead ≤ l.rawLines.length ∧
      (first + l.lead = 0 → l.startsBelow = false → first = last) ∧
      l.isSafe (joinLines newLines) = true ∧
      s = l.enclose (joinLines (l.spliceLines first last newLines)) := by
  simp only [splice?] at h
  split at h
  · simp at h
  · rename_i hrange
    split at h
    · simp at h
    · rename_i hsafe
      split at h
      · simp at h
      · simp only [Option.some.injEq] at h
        simp only [Bool.or_eq_true, Bool.and_eq_true, decide_eq_true_eq, Bool.not_eq_true',
          not_or, not_and, not_lt] at hrange
        obtain ⟨⟨hle, hlength⟩, hstart⟩ := hrange
        refine ⟨hle, hlength, fun hzero hbelow => ?_, by simpa using hsafe, h.symm⟩
        exact Nat.le_antisymm hle (hstart ⟨hzero, hbelow⟩)

/-- At most one line can come between single quotes, and it does not go on below. -/
theorem new_line_of_single (hsingle : l.quote.isTriple = false)
    (hsafe : l.isSafe (joinLines newLines) = true) :
    newLines = [] ∨ ∃ line, newLines = [line] ∧ escapesNext false line = false ∧
      l.quote.endsOpen false line = false := by
  obtain ⟨-, hback, hchars⟩ := isSafe_iff.mp hsafe
  obtain ⟨hnewline, hquote⟩ := hchars.resolve_left (by simp [hsingle])
  match newLines with
  | [] => exact .inl rfl
  | [line] =>
    have hends : l.quote.endsOpen false line = false :=
      Quote.endsOpen_of_getLast? hback fun hlast => hquote (List.mem_of_getLast? hlast)
    exact .inr ⟨line, rfl, escapesNext_of_isSafe hsafe rfl, hends⟩
  | first :: second :: more =>
    rw [joinLines_cons first (by simp)] at hnewline
    simp at hnewline

section Spliced

variable {first last : Nat} (h : l.Whole)

include h

theorem Whole.newline_notMem_spliceLines (hnew : ∀ line ∈ newLines, '\n' ∉ line)
    (hline : line ∈ l.spliceLines first last newLines) : '\n' ∉ line := by
  rcases List.mem_append.mp hline with hline | hline
  · rcases List.mem_append.mp hline with hline | hline
    · exact newline_notMem_of_mem_rawLines (List.mem_of_mem_take hline)
    · obtain ⟨old, hold, rfl⟩ := List.mem_map.mp hline
      obtain ⟨margin, hmargin, hline⟩ := h.exists_marginLine old
      simp [hline, hmargin.newline, hnew old hold]
  · exact newline_notMem_of_mem_rawLines (List.mem_of_mem_drop hline)

theorem Whole.isFree_spliceLines (hsafe : l.isSafe (joinLines newLines) = true)
    (hline : line ∈ l.spliceLines first last newLines) : l.quote.isFree false line = true := by
  rcases List.mem_append.mp hline with hline | hline
  · rcases List.mem_append.mp hline with hline | hline
    · exact h.lines.free line (List.mem_of_mem_take hline)
    · obtain ⟨old, hold, rfl⟩ := List.mem_map.mp hline
      obtain ⟨margin, hmargin, hline⟩ := h.exists_marginLine old
      rw [hline, Quote.isFree_append_of_isInert hmargin, isFree_of_isSafe hsafe hold]
  · exact h.lines.free line (List.mem_of_mem_drop hline)

/-- Between triple quotes only what comes to stand before the closing ones counts. -/
theorem Whole.holds_spliceLines_of_triple (htriple : l.quote.isTriple = true)
    (hs : l.splice? first last newLines = some s) :
    l.quote.Holds (l.spliceLines first last newLines) ↔ last + l.lead < l.rawLines.length ∨
      ∀ line ∈ (l.linesThrough first newLines).getLast?, l.quote.endsOpen false line = false := by
  obtain ⟨-, hlength, -, hsafe, -⟩ := splice?_eq_some hs
  have hparts : l.quote.Holds (l.spliceLines first last newLines) ↔
      ∀ line ∈ (l.spliceLines first last newLines).getLast?, l.quote.endsOpen false line = false :=
    ⟨Quote.Holds.ends, fun hends =>
      ⟨fun _ hl => h.isFree_spliceLines hsafe hl, fun _ _ => .inl htriple, hends⟩⟩
  rw [hparts, spliceLines]
  by_cases hlast : last + l.lead < l.rawLines.length
  · have hne : l.rawLines.drop (last + l.lead) ≠ [] := by
      simpa [List.drop_eq_nil_iff] using hlast
    have hold := List.getLast?_drop (l := l.rawLines) (i := last + l.lead)
    rw [if_neg (by omega)] at hold
    rw [List.getLast?_append_of_ne_nil _ hne, hold]
    exact ⟨fun _ => .inl hlast, fun _ => h.lines.ends⟩
  · rw [List.drop_eq_nil_of_le (by omega), List.append_nil]
    exact ⟨.inr, fun hends => hends.resolve_left hlast⟩

/-- In single quotes every line but the last one goes on below. -/
theorem Whole.exists_lines_of_single (hsingle : l.quote.isTriple = false) :
    ∃ init final, l.rawLines = init ++ [final] ∧
      (∀ x ∈ init, l.quote.isFree false x = true ∧ escapesNext false x = true) ∧
      l.quote.isFree false final = true ∧ l.quote.endsOpen false final = false := by
  obtain ⟨init, final, hraw⟩ := l.exists_rawLines
  have hlines := h.lines
  rw [hraw, Quote.holds_concat_iff] at hlines
  exact ⟨init, final, hraw,
    fun x hx => ⟨(hlines.1 x hx).1, (hlines.1 x hx).2.resolve_left (by simp [hsingle])⟩, hlines.2⟩

/-- Between single quotes lines can be taken out, but not the last one. -/
theorem Whole.holds_removed_iff (hsingle : l.quote.isTriple = false)
    (hs : l.splice? first last [] = some s) : l.quote.Holds (l.spliceLines first last []) ↔
      last + l.lead < l.rawLines.length ∨ first = last := by
  obtain ⟨hle, hlength, hstart, -, -⟩ := splice?_eq_some hs
  obtain ⟨init, final, hraw, hinit, hfinal⟩ := h.exists_lines_of_single hsingle
  have hcount : l.rawLines.length = init.length + 1 := by simp [hraw]
  have hlines : l.spliceLines first last [] =
      l.rawLines.take (first + l.lead) ++ l.rawLines.drop (last + l.lead) := by
    simp [spliceLines, linesThrough]
  by_cases hlast : last + l.lead < l.rawLines.length
  · have htake : l.rawLines.take (first + l.lead) = init.take (first + l.lead) := by
      rw [hraw, List.take_append_of_le_length (by omega)]
    have hdrop : l.rawLines.drop (last + l.lead) = init.drop (last + l.lead) ++ [final] := by
      rw [hraw, List.drop_append_of_le_length (by omega)]
    rw [hlines, htake, hdrop, ← List.append_assoc, Quote.holds_concat_iff]
    refine iff_of_true ⟨fun x hx => ?_, hfinal⟩ (.inl hlast)
    have hmem : x ∈ init := by
      rcases List.mem_append.mp hx with hx | hx
      · exact List.mem_of_mem_take hx
      · exact List.mem_of_mem_drop hx
    exact ⟨(hinit x hmem).1, .inr (hinit x hmem).2⟩
  · rw [List.drop_eq_nil_of_le (by omega), List.append_nil] at hlines
    rw [hlines]
    by_cases hnone : first = last
    · rw [List.take_of_length_le (by omega)]
      exact iff_of_true h.lines (.inr hnone)
    · have htake : l.rawLines.take (first + l.lead) = init.take (first + l.lead) := by
        rw [hraw, List.take_append_of_le_length (by omega)]
      have hzero : first + l.lead ≠ 0 := fun hzero =>
        hnone (hstart hzero (h.startsBelow_of_single hsingle))
      have hne : init.take (first + l.lead) ≠ [] := by
        rw [ne_eq, List.take_eq_nil_iff, not_or]
        exact ⟨hzero, fun hnil => by simp [hnil] at hcount; omega⟩
      -- the line that is now the last one still goes on below
      have hends : ¬l.quote.Holds (init.take (first + l.lead)) := by
        intro hholds
        have hmem := List.mem_of_mem_take (List.getLast_mem hne)
        have hopen := Quote.endsOpen_of_escapesNext (q := l.quote) (hinit _ hmem).2
        rw [hholds.ends _ (List.getLast?_eq_some_getLast hne)] at hopen
        exact Bool.false_ne_true hopen
      rw [htake]
      exact iff_of_false hends (by simp [hlast, hnone])

/-- Between single quotes a new line can only take the place of the last ones. -/
theorem Whole.holds_replaced_iff (hsingle : l.quote.isTriple = false) (hne : newLines ≠ [])
    (hs : l.splice? first last newLines = some s) :
    l.quote.Holds (l.spliceLines first last newLines) ↔
      first < last ∧ last + l.lead = l.rawLines.length := by
  obtain ⟨hle, hlength, -, hsafe, -⟩ := splice?_eq_some hs
  obtain ⟨init, final, hraw, hinit, hfinal⟩ := h.exists_lines_of_single hsingle
  have hcount : l.rawLines.length = init.length + 1 := by simp [hraw]
  have hfree : ∀ x ∈ l.spliceLines first last newLines, l.quote.isFree false x = true :=
    fun _ => h.isFree_spliceLines hsafe
  obtain ⟨line, rfl, hline, hends⟩ := (new_line_of_single hsingle hsafe).resolve_left hne
  obtain ⟨margin, hmargin, hmarginLine⟩ := h.exists_marginLine line
  have hline' : escapesNext false (l.marginLine line) = false := by
    rw [hmarginLine, Quote.escapesNext_append_of_isInert hmargin, hline]
  have hlines : l.spliceLines first last [line] = l.rawLines.take (first + l.lead) ++
      l.marginLine line :: l.rawLines.drop (last + l.lead) := by
    simp [spliceLines, linesThrough]
  have hgoes : ∀ x, x ∈ (l.spliceLines first last [line]).dropLast →
      l.quote.Holds (l.spliceLines first last [line]) → escapesNext false x = true :=
    fun x hx hholds => (hholds.continued x hx).resolve_left (by simp [hsingle])
  constructor
  · intro hholds
    have hend : last + l.lead = l.rawLines.length := by
      by_contra hlast
      have hdrop : l.rawLines.drop (last + l.lead) ≠ [] := by
        rw [ne_eq, List.drop_eq_nil_iff]
        omega
      have hescapes := hgoes (l.marginLine line) (by
        rw [hlines, List.dropLast_append_of_ne_nil (by simp),
          List.dropLast_cons_of_ne_nil hdrop]
        simp) hholds
      exact Bool.false_ne_true (hline'.symm.trans hescapes)
    refine ⟨Nat.lt_of_le_of_ne hle fun hsame => ?_, hend⟩
    have hescapes := hgoes final (by
      rw [hlines, List.drop_eq_nil_of_le (by omega), List.take_of_length_le (by omega), hraw]
      simp) hholds
    rw [Quote.endsOpen_of_escapesNext hescapes] at hfinal
    exact Bool.false_ne_true hfinal.2.symm
  · rintro ⟨hlt, hend⟩
    have htake : l.rawLines.take (first + l.lead) = init.take (first + l.lead) := by
      rw [hraw, List.take_append_of_le_length (by omega)]
    have hnewline := hfree (l.marginLine line) (by rw [hlines]; simp)
    rw [hlines, List.drop_eq_nil_of_le (by omega), htake, Quote.holds_concat_iff]
    refine ⟨fun x hx => ?_, hnewline, ?_⟩
    · have hmem := hinit x (List.mem_of_mem_take hx)
      exact ⟨hmem.1, .inr hmem.2⟩
    · rw [hmarginLine, Quote.endsOpen_append_of_isInert hmargin, hends]

theorem Whole.encloses_splice_iff (hnew : ∀ line ∈ newLines, '\n' ∉ line)
    (hs : l.splice? first last newLines = some s) :
    l.quote.encloses l.letters s = true ↔
      if l.quote.isTriple = true then
        last + l.lead < l.rawLines.length ∨
          ∀ line ∈ (l.linesThrough first newLines).getLast?, l.quote.endsOpen false line = false
      else if newLines = [] then last + l.lead < l.rawLines.length ∨ first = last
      else first < last ∧ last + l.lead = l.rawLines.length := by
  rw [(splice?_eq_some hs).2.2.2.2,
    encloses_enclose_iff fun _ hl => h.newline_notMem_spliceLines hnew hl]
  cases htriple : l.quote.isTriple with
  | true => simpa using h.holds_spliceLines_of_triple htriple hs
  | false =>
    by_cases hnil : newLines = []
    · subst hnil
      simpa using h.holds_removed_iff htriple hs
    · simpa [hnil] using h.holds_replaced_iff htriple hnil hs

end Spliced

/-! ## Rebuilding -/

/-- When a literal that was whole is still whole after it was rebuilt. Around a new body it is,
except that single quotes cannot close on a line of their own. After lines were replaced, triple
quotes must not run into the last line that is left, and between single quotes every line but the
last one must still go on below. -/
theorem a_rebuilt_literal_is_one_literal (source : Text) (site : DocstringSite) (l : Literal)
    (h : ofSource? source site = some l)
    (hwhole : (slice? source site.span.first site.span.last).any
      (l.quote.encloses l.letters) = true)
    (hindent : l.quote.IsInert site.indent) :
    (∀ newBody s, l.wrap? newBody = some s →
      (l.quote.encloses l.letters s = true ↔ l.quote.isTriple = true ∨ l.closesBelow = false)) ∧
    ∀ first last newLines s, (∀ line ∈ newLines, '\n' ∉ line) →
      l.splice? first last newLines = some s →
        (l.quote.encloses l.letters s = true ↔
          if l.quote.isTriple = true then
            last + l.lead < l.rawLines.length ∨
              ∀ line ∈ (l.linesThrough first newLines).getLast?,
                l.quote.endsOpen false line = false
          else if newLines = [] then last + l.lead < l.rawLines.length ∨ first = last
          else first < last ∧ last + l.lead = l.rawLines.length) := by
  have hl := whole_of_ofSource? h hwhole hindent
  exact ⟨fun _ _ => hl.encloses_wrap_iff, fun _ _ _ _ => hl.encloses_splice_iff⟩

/-- A literal with an escaped line break and escaped quotes. -/
def specimen : Literal where
  letters := "u".toList
  quote := .tripleDouble
  raw := "Sum\\\n  of \\\"x\\\"\n  and y.".toList
  margin := "  ".toList
  siteIndent := "  ".toList

theorem a_literal_with_escapes_is_rebuilt_whole :
    let source := "  ".toList ++ specimen.enclose specimen.raw ++ "\n".toList
    let site : DocstringSite := ⟨⟨2, 33⟩, "  ".toList⟩
    let wrapped := "u\"\"\"Mean.\n\n  \"z\".\"\"\"".toList
    let spliced := "u\"\"\"Sum\\\n  of z\n  and y.\"\"\"".toList
    ofSource? source site = some specimen ∧
      specimen.wrap? "Mean.\n\n\"z\".".toList = some wrapped ∧
      specimen.quote.encloses specimen.letters wrapped = true ∧
      specimen.splice? 1 2 ["of z".toList] = some spliced ∧
      specimen.quote.encloses specimen.letters spliced = true := by
  intro source site wrapped spliced
  have hread : ofSource? source site = some specimen := by decide +kernel
  have hwrap : specimen.wrap? "Mean.\n\n\"z\".".toList = some wrapped := by decide +kernel
  have hsplice : specimen.splice? 1 2 ["of z".toList] = some spliced := by decide +kernel
  have hlaws := a_rebuilt_literal_is_one_literal source site specimen hread (by decide +kernel)
    ⟨by decide, by decide, by decide⟩
  refine ⟨hread, hwrap, (hlaws.1 _ _ hwrap).mpr (.inl rfl), hsplice, ?_⟩
  exact (hlaws.2 _ _ _ _ (by decide) hsplice).mpr (by decide +kernel)

/-- What becomes of a source that is one literal when it is read and rebuilt: whether it was whole
before, and whether it is now. -/
def rebuilt? (source : Text) (rebuild : Literal → Option Text) : Option (Bool × Bool) := do
  let l ← ofSource? source ⟨⟨0, byteLength source⟩, []⟩
  let new ← rebuild l
  return (l.quote.encloses l.letters source, l.quote.encloses l.letters new)

/-- A line break is left without its backslash, a backslash or a quote comes to stand before the
closing quotes, and a line comes to stand between others that go on below. -/
theorem a_whole_literal_can_be_broken :
    rebuilt? "'Sum.\\\n'".toList (·.wrap? "Mean.".toList) = some (true, false) ∧
      rebuilt? "\"\"\"a\\\nb\"\"\"".toList (·.splice? 1 2 []) = some (true, false) ∧
      rebuilt? "\"\"\"a\nb\"\n\"\"\"".toList (·.splice? 2 3 []) = some (true, false) ∧
      rebuilt? "\"\"\"a\nb\n\"\"\"".toList (·.splice? 1 3 ["c\"".toList]) =
        some (true, false) ∧
      rebuilt? "'a\\\nb\\\nc'".toList (·.splice? 1 2 ["x".toList]) = some (true, false) ∧
      rebuilt? "'a\\\nb'".toList (·.splice? 1 2 []) = some (true, false) := by
  decide +kernel

end Literal

end Docstring
