-- A NumPy-style docstring that is read without a warning keeps the prose of its sections, unless a
-- later section on the returned or yielded value takes the place of an earlier one.
import Docstring.Proofs.NormalForm
import Docstring.Proofs.Numpy.Walk

namespace Docstring.Numpy

open Text

/-! ## Entries -/

/-- Where a line of a section can go. -/
theorem addLine_cases (found : List Entry) (line : Line) :
    (isBlank line = false ∧ indentWidth line = 0 ∧
      addLine found line = found ++ [⟨some line, []⟩]) ∨
      (isBlank line = true ∨ indentWidth line ≠ 0) ∧
        ((∃ init last, found = init ++ [last] ∧
            addLine found line = init ++ [{ last with body := last.body ++ [line] }]) ∨
          found = [] ∧ addLine found line = [⟨none, [line]⟩]) := by
  unfold addLine
  split
  · rename_i hhead
    simp only [Bool.and_eq_true, Bool.not_eq_true', decide_eq_true_eq] at hhead
    exact .inl ⟨hhead.1, hhead.2, rfl⟩
  · rename_i hhead
    have hdeep : isBlank line = true ∨ indentWidth line ≠ 0 := by
      simpa [or_iff_not_imp_left] using hhead
    refine .inr ⟨hdeep, ?_⟩
    split
    · rename_i last hlast
      exact .inl ⟨found.dropLast, last, (List.dropLast_append_getLast? last hlast).symm, rfl⟩
    · rename_i hnone
      exact .inr ⟨List.getLast?_eq_none_iff.mp hnone, rfl⟩

/-- The lines that an entry is made of. -/
def Entry.lines (e : Entry) : List Line := e.head.toList ++ e.body

/-- The entries of a section are made of its lines. -/
theorem flatMap_lines_entries (body : List Line) : (entries body).flatMap Entry.lines = body := by
  suffices hall : ∀ (lines : List Line) (found : List Entry),
      (lines.foldl addLine found).flatMap Entry.lines = found.flatMap Entry.lines ++ lines by
    exact hall body []
  intro lines
  induction lines with
  | nil => simp
  | cons line lines ih =>
    intro found
    rw [List.foldl_cons, ih]
    rcases addLine_cases found line with ⟨_, _, h⟩ | ⟨_, ⟨init, last, rfl, h⟩ | ⟨rfl, h⟩⟩ <;>
      simp [h, Entry.lines]

theorem length_addLine_pos (found : List Entry) (line : Line) :
    0 < (addLine found line).length := by
  rcases addLine_cases found line with ⟨_, _, h⟩ | ⟨_, ⟨init, last, _, h⟩ | ⟨_, h⟩⟩ <;> simp [h]

theorem length_le_foldl_addLine (found : List Entry) (lines : List Line) :
    found.length ≤ (lines.foldl addLine found).length := by
  induction lines generalizing found with
  | nil => exact Nat.le_refl _
  | cons line lines ih =>
    refine le_trans ?_ (ih (addLine found line))
    rcases addLine_cases found line with ⟨_, _, h⟩ | ⟨_, ⟨init, last, rfl, h⟩ | ⟨rfl, h⟩⟩ <;>
      simp [h]

/-- A line below the head of an entry belongs to an entry. -/
theorem exists_entry {body : List Line} {line : Line} (hline : line ∈ body)
    (hdeep : indentWidth line ≠ 0) : ∃ e ∈ entries body, line ∈ e.body := by
  have hstep : ∀ found x, (∃ e ∈ found, line ∈ e.body) → ∃ e ∈ addLine found x, line ∈ e.body := by
    rintro found x ⟨e, he, hmem⟩
    rcases addLine_cases found x with ⟨_, _, h⟩ | ⟨_, ⟨init, last, rfl, h⟩ | ⟨rfl, h⟩⟩ <;> rw [h]
    · exact ⟨e, by simp [he], hmem⟩
    · rcases List.mem_append.mp he with he | he
      · exact ⟨e, by simp [he], hmem⟩
      · rw [List.mem_singleton] at he
        exact ⟨{ last with body := last.body ++ [x] }, by simp, by simp [← he, hmem]⟩
    · simp at he
  have hadd : ∀ found, ∃ e ∈ addLine found line, line ∈ e.body := by
    intro found
    rcases addLine_cases found line with ⟨_, hflush, _⟩ | ⟨_, ⟨init, last, rfl, h⟩ | ⟨rfl, h⟩⟩
    · exact absurd hflush hdeep
    · rw [h]
      exact ⟨{ last with body := last.body ++ [line] }, by simp, by simp⟩
    · rw [h]
      exact ⟨⟨none, [line]⟩, by simp, by simp⟩
  obtain ⟨above, below, rfl⟩ := List.append_of_mem hline
  rw [entries, List.foldl_append, List.foldl_cons]
  exact List.foldlRecOn below addLine (hadd _) fun found hfound x _ => hstep found x hfound

/-- If a section has one entry, only its first line can be at the first column. -/
theorem deep_of_entries_singleton {first line : Line} {rest : List Line} {e : Entry}
    (h : entries (first :: rest) = [e]) (hline : line ∈ rest) (hink : isBlank line = false) :
    indentWidth line ≠ 0 := by
  intro hflush
  have hone := length_addLine_pos [] first
  obtain ⟨above, below, rfl⟩ := List.append_of_mem hline
  rw [entries, List.foldl_cons, List.foldl_append, List.foldl_cons] at h
  generalize hfound : above.foldl addLine (addLine [] first) = found at h
  have habove := length_le_foldl_addLine (addLine [] first) above
  have hbelow := length_le_foldl_addLine (addLine found line) below
  rw [hfound] at habove
  rw [h] at hbelow
  rcases addLine_cases found line with ⟨_, _, hadd⟩ | ⟨hdeep, _⟩
  · rw [hadd] at hbelow
    simp only [List.length_append, List.length_singleton] at hbelow
    omega
  · simp [hink, hflush] at hdeep

/-- The description of an entry has the lines below its head. -/
theorem Entry.says_description? {e : Entry} {line : Line} (h : line ∈ e.body) (hn : '\n' ∉ line)
    (hink : isBlank line = false) : ∃ t, e.description? = some t ∧ t.Says line :=
  says_joinProse?_dedentBy bodyIndent h hn rfl hink

/-! ## What sections add -/

theorem addParam_cases {head : Line} {type default : Option Text} {text raw : Text}
    {d d' : Document} (h : addParam head type default text d raw = .ok d') :
    ∃ p, d' = d.addParameter p ∧ p.description = some text := by
  unfold addParam at h
  simp only at h
  split at h
  · cases h
    exact ⟨_, rfl, rfl⟩
  · cases h

theorem splitCommas_ne_nil (t : Text) : splitCommas t ≠ [] := by
  fun_cases splitCommas t <;> simp_all

/-- Every entry adds a parameter or more, all with its description. -/
theorem addParams_cases {d d' : Document} {e : Entry} (h : addParams d e = .ok d') :
    ∃ head type default names, names ≠ [] ∧
      names.foldlM (addParam head type default (e.description?.getD [])) d = .ok d' := by
  unfold addParams at h
  split at h
  · cases h
  · simp only at h
    split at h
    · exact ⟨_, _, _, _, splitCommas_ne_nil _, h⟩
    · exact ⟨_, _, _, _, splitCommas_ne_nil _, h⟩

theorem keeps_addParam {head : Line} {type default : Option Text} {text raw : Text}
    {d d' : Document} (h : addParam head type default text d raw = .ok d') :
    d.Keeps [] d' ∧ d'.metadata.sections = d.metadata.sections := by
  obtain ⟨p, rfl, _⟩ := addParam_cases h
  exact ⟨d.keeps_addParameter p, d.sections_addParameter p⟩

theorem keeps_addParams {d d' : Document} {e : Entry} (h : addParams d e = .ok d') :
    d.Keeps [] d' ∧ d'.metadata.sections = d.metadata.sections := by
  obtain ⟨head, type, default, names, _, hfold⟩ := addParams_cases h
  exact ⟨keeps_foldlM_of_nil id (fun _ _ _ hp => (keeps_addParam hp).1) hfold,
    foldlM_unchanged (fun d => d.metadata.sections) (fun _ _ _ hp => (keeps_addParam hp).2) hfold⟩

theorem addRaise_cases {d d' : Document} {e : Entry} (h : addRaise d e = .ok d') :
    ∃ type, d' = { d with raises := d.raises ++ [⟨type, e.description?⟩] } := by
  unfold addRaise at h
  split at h
  · cases h
  · cases h
    exact ⟨_, rfl⟩

theorem keeps_addRaise {d d' : Document} {e : Entry} (h : addRaise d e = .ok d') :
    d.Keeps [] d' ∧ d'.metadata.sections = d.metadata.sections := by
  obtain ⟨type, rfl⟩ := addRaise_cases h
  exact ⟨d.keeps_addRaise _, rfl⟩

/-- What is returned or yielded has one entry at most. -/
theorem addReturn_cases {kind : SectionKind} {d d' : Document} {body : List Line}
    (h : addReturn kind d body = .ok d') :
    ∃ doc ws, d' = setReturn kind (d.warnAll ws) doc ∧
      (entries body = [] ∨ ∃ e, entries body = [e] ∧ doc.description = e.description?) := by
  unfold addReturn at h
  split at h
  · rename_i hnone
    cases h
    refine ⟨.opened, [], ?_, .inl hnone⟩
    simp [Document.warnAll]
  · rename_i e hone
    cases h
    refine ⟨_, _, rfl, .inr ⟨e, hone, ?_⟩⟩
    split
    · rfl
    · split <;> rfl
  · cases h

/-- A section records where it stands and writes its own places. -/
theorem keeps_addBlock {d d' : Document} {b : Block} (h : addBlock d b = .ok d') :
    d.Keeps b.kind.written d' ∧ d'.metadata.sections = d.metadata.sections ++ [b.span] := by
  have hrecord := d.keeps_recordSection b.span
  unfold addBlock at h
  cases hkind : b.kind <;> simp only [hkind] at h
  case params =>
    exact ⟨hrecord.trans (keeps_foldlM_of_nil id (fun _ _ _ he => (keeps_addParams he).1) h),
      foldlM_unchanged (fun d => d.metadata.sections) (fun _ _ _ he => (keeps_addParams he).2) h⟩
  case raises =>
    exact ⟨hrecord.trans (keeps_foldlM_of_nil id (fun _ _ _ he => (keeps_addRaise he).1) h),
      foldlM_unchanged (fun d => d.metadata.sections) (fun _ _ _ he => (keeps_addRaise he).2) h⟩
  case returns =>
    obtain ⟨doc, ws, rfl, _⟩ := addReturn_cases h
    have hwarn := hrecord.trans (Document.keeps_warnAll _ ws)
    exact ⟨hwarn.trans (Document.keeps_returns (by simp) (by simp)), rfl⟩
  case yields =>
    obtain ⟨doc, ws, rfl, _⟩ := addReturn_cases h
    have hwarn := hrecord.trans (Document.keeps_warnAll _ ws)
    exact ⟨hwarn.trans (Document.keeps_yields (by simp) (by simp)), rfl⟩
  case examples =>
    cases h
    exact ⟨hrecord.trans (Document.keeps_addExample _ _), rfl⟩
  all_goals
    cases h
    exact ⟨hrecord.trans (Document.keeps_addFreeText? _ _ _), Document.sections_addFreeText? _ _ _⟩

/-- The parameters of an entry have its description. -/
theorem holdsAt_addParams {d d' : Document} {e : Entry} {line : Line} {t : Text}
    (h : addParams d e = .ok d') (hw : d'.metadata.warnings = []) (ht : e.description? = some t)
    (hheld : t.Says line) : d'.HoldsAt .list line := by
  obtain ⟨head, type, default, names, hne, hfold⟩ := addParams_cases h
  obtain ⟨name, rest, rfl⟩ := List.exists_cons_of_ne_nil hne
  rw [← List.nil_append (name :: rest)] at hfold
  refine holdsAt_of_foldlM id (fun _ _ _ hp => (keeps_addParam hp).1) hfold hw ?_
    fun _ _ => List.not_mem_nil
  intro before after hadd hw
  obtain ⟨p, rfl, hp⟩ := addParam_cases hadd
  rw [ht] at hp
  exact Document.holdsAt_addParameter hw hp hheld

/-- Prose on what is returned or yielded is kept below its first line. -/
theorem says_addReturn {kind : SectionKind} {d d' : Document} {above below : List Line}
    {line : Line} (h : addReturn kind d (trimBlankLines (above ++ line :: below)) = .ok d')
    (habove : above.all isBlank = false) (hn : '\n' ∉ line) (hink : isBlank line = false) :
    ∃ ws doc t,
      d' = setReturn kind (d.warnAll ws) doc ∧ doc.description = some t ∧ t.Says line := by
  obtain ⟨first, rest, htrim, hmem⟩ := exists_trimBlankLines below habove hink
  obtain ⟨doc, ws, rfl, hnone | ⟨e, hone, hdoc⟩⟩ := addReturn_cases h
  · rw [htrim, entries, List.foldl_cons] at hnone
    have hlength := length_le_foldl_addLine (addLine [] first) rest
    rw [hnone] at hlength
    exact absurd (length_addLine_pos [] first) (Nat.not_lt.mpr hlength)
  · rw [htrim] at hone
    obtain ⟨x, hx, hbody⟩ := exists_entry (List.mem_cons_of_mem first hmem)
      (deep_of_entries_singleton hone hmem hink)
    rw [hone, List.mem_singleton] at hx
    rw [hx] at hbody
    obtain ⟨t, ht, hheld⟩ := e.says_description? hbody hn hink
    exact ⟨ws, doc, t, rfl, hdoc.trans ht, hheld⟩

/-- A section keeps its prose. -/
theorem holdsAt_addBlock {lines : List Line} {b : Block} {i : Nat} {line : Line} {d d' : Document}
    (hb : StandsAt lines (b.first + 2) b.body) (hlast : i < b.span.last)
    (hline : lines[i]? = some line) (hn : '\n' ∉ line) (hink : isBlank line = false)
    (hhead : ¬b.span.IsHead 2 id lines i) (h : addBlock d b = .ok d')
    (hw : d'.metadata.warnings = []) : d'.HoldsAt b.kind.place line := by
  -- The blank lines at the end of a section do not count.
  have hclosed : StandsAt lines (b.first + 2) (dropBlankEnd b.body) :=
    hb.of_part (List.rdropWhile_prefix _ _)
  obtain ⟨above, below, hbody, hdeep, habove⟩ :=
    SectionSpan.exists_split hclosed rfl (List.map_id _).symm hlast hline hhead
  obtain ⟨rest, hall⟩ : ∃ rest, b.body = above ++ line :: (below ++ rest) := by
    obtain ⟨rest, hrest⟩ := List.rdropWhile_prefix isBlank b.body
    refine ⟨rest, ?_⟩
    rw [← hrest, show b.body.rdropWhile isBlank = dropBlankEnd b.body from rfl, hbody]
    simp
  have hmem : line ∈ trimBlankLines b.body := mem_trimBlankLines (by simp [hall]) hink
  have hheld : line.Says line := says_of_trim_eq hn rfl
  unfold addBlock at h
  cases hkind : b.kind <;> simp only [hkind] at h
  case params =>
    obtain ⟨e, he, hdeep⟩ := exists_entry hmem (hdeep (.inl hkind))
    obtain ⟨t, ht, hheld⟩ := e.says_description? hdeep hn hink
    obtain ⟨before, after, hsplit⟩ := List.append_of_mem he
    rw [hsplit] at h
    exact holdsAt_of_foldlM id (fun _ _ _ he => (keeps_addParams he).1) h hw
      (fun _ _ hadd hw => holdsAt_addParams hadd hw ht hheld) fun _ _ => List.not_mem_nil
  case raises =>
    obtain ⟨e, he, hdeep⟩ := exists_entry hmem (hdeep (.inr hkind))
    obtain ⟨t, ht, hheld⟩ := e.says_description? hdeep hn hink
    obtain ⟨before, after, hsplit⟩ := List.append_of_mem he
    rw [hsplit] at h
    refine holdsAt_of_foldlM id (fun _ _ _ he => (keeps_addRaise he).1) h hw ?_
      fun _ _ => List.not_mem_nil
    intro d d' hadd _
    obtain ⟨type, rfl⟩ := addRaise_cases hadd
    exact Document.holdsAt_addRaise (.inr ht) hheld
  case returns | yields =>
    rw [hall] at h
    obtain ⟨ws, doc, t, rfl, ht, hheld⟩ :=
      says_addReturn h (habove (by simp [Block.span, hkind])) hn hink
    exact ⟨t, by simp [Document.textsAt, SectionKind.place, setReturn, ht], hheld⟩
  case examples =>
    cases h
    obtain ⟨t, ht, hheld⟩ := says_joinProse? hheld hmem hink
    rw [ht]
    exact Document.holdsAt_addExample hheld
  all_goals
    cases h
    obtain ⟨t, ht, hheld⟩ := says_joinProse? (says_unindent _ hn) (List.mem_map_of_mem hmem) hink
    rw [dedent, ht]
    exact Document.holdsAt_addFreeText? rfl hheld

/-! ## Docstrings -/

/-- A docstring is a walk over its sections, each of which records where it stands. -/
theorem isHeaded_walk : walk.IsHeaded headers Block.heading Block.span where
  start := rfl
  finish := rfl
  endsSummary := rfl
  endsProse := rfl
  outlined hrest hmark hstop := by
    refine ⟨_, outlined_outlineFrom hrest (fun _ => hmark) hstop, ?_, ?_⟩ <;>
      simp only [walk, outline, List.map_map]
    · rfl
    · exact List.map_congr_left fun b _ => b.span_close
  add hb := (keeps_addBlock hb).2

theorem exists_divides {text : Text} {d : Document} (h : parse text = .ok d) :
    ∃ (n : Nat) (blocks : List Block), blocks.foldlM addBlock
        ((Head.cut atHeader atHeader (normalLines text)).document .numpy) = .ok d ∧
      headers.Divides (normalLines text) n (blocks.map Block.heading) := by
  obtain ⟨hfold, hdivides, _⟩ := isHeaded_walk.exists_divides ((parse_eq_read text).symm.trans h)
  exact ⟨_, _, hfold, hdivides⟩

theorem tiled_parse {text : Text} {d : Document} (h : parse text = .ok d) :
    ∃ lo, Tiled openedAt? (normalLines text) lo (normalLines text).length d.metadata.sections :=
  isHeaded_walk.tiled ((parse_eq_read text).symm.trans h)

theorem exists_section_of_header {text : Text} {d : Document} {i : Nat} (h : parse text = .ok d)
    (hheader : atHeader ((normalLines text).drop i) = true) :
    ∃ s ∈ d.metadata.sections, s.first = i :=
  isHeaded_walk.exists_of_atHeader ((parse_eq_read text).symm.trans h) hheader

/-- Without a warning, a section keeps its prose to the end, unless it is overwritten. -/
theorem holdsAt_parse {text : Text} {d : Document} {span : SectionSpan} {i : Nat} {line : Line}
    (h : parse text = .ok d) (hw : d.metadata.warnings = []) (hspan : span ∈ d.metadata.sections)
    (hlast : i < span.last) (hline : (normalLines text)[i]? = some line)
    (hink : isBlank line = false) (hhead : ¬span.IsHead 2 id (normalLines text) i)
    (hover : ¬span.IsOverwritten d.metadata.sections) : d.HoldsAt span.kind.place line := by
  obtain ⟨n, blocks, hfold, hdivides⟩ := exists_divides h
  obtain ⟨lo, htiled⟩ := tiled_parse h
  have hn : '\n' ∉ line :=
    ((isNormal_normalLines text).clean line (List.mem_of_getElem? hline)).newline
  refine holdsAt_of_sections addBlock Block.span (fun _ _ _ hb => (keeps_addBlock hb).1)
    (fun _ _ _ hb => (keeps_addBlock hb).2) hfold rfl htiled.sorted hw hspan hover ?_
  rintro b hb rfl d d' hadd hw
  exact holdsAt_addBlock (hdivides.stands _ (List.mem_map_of_mem hb)) hlast hline hn hink hhead hadd
    hw

end Docstring.Numpy
