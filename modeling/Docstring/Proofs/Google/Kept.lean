-- A Google-style docstring that is read without a warning keeps the prose of its sections, unless a
-- later section on the returned or yielded value takes the place of an earlier one.
import Docstring.Proofs.Google.Walk
import Docstring.Proofs.NormalForm

namespace Docstring.Google

open Text

/-! ## Entries -/

/-- Where a line of a section can go. -/
theorem addLine_cases {found found' : List Entry} {line : Line}
    (h : addLine found line = .ok found') :
    (indentWidth line = 0 ∧ found' = found ++ [⟨line, []⟩]) ∨
      (∃ init last, found = init ++ [last] ∧
        found' = init ++ [{ last with continuation := last.continuation ++ [line] }]) ∨
      (isBlank line = true ∧ found' = found) := by
  unfold addLine at h
  split at h
  · rename_i hhead
    simp only [Bool.and_eq_true, decide_eq_true_eq] at hhead
    cases h
    exact .inl ⟨hhead.2, rfl⟩
  · split at h
    · rename_i last hlast
      cases h
      exact .inr (.inl ⟨found.dropLast, last, (List.dropLast_append_getLast? last hlast).symm, rfl⟩)
    · split at h
      · rename_i hblank
        cases h
        exact .inr (.inr ⟨hblank, rfl⟩)
      · cases h

/-- A line below the head of an entry belongs to an entry. -/
theorem exists_entry {body : List Line} {found : List Entry} {line : Line}
    (h : entries body = .ok found) (hline : line ∈ body) (hink : isBlank line = false)
    (hdeep : indentWidth line ≠ 0) : ∃ e ∈ found, line ∈ e.continuation := by
  obtain ⟨raw, hraw, rfl⟩ : ∃ raw, body.foldlM addLine [] = .ok raw ∧
      found = raw.map fun e => { e with continuation := dropBlankEnd e.continuation } := by
    unfold entries at h
    cases hraw : body.foldlM addLine [] with
    | error e => rw [hraw] at h; cases h
    | ok raw => rw [hraw] at h; cases h; exact ⟨raw, rfl, rfl⟩
  obtain ⟨above, below, rfl⟩ := List.append_of_mem hline
  obtain ⟨before, after, _, hadd, hbelow⟩ := exists_of_foldlM hraw
  have hstep : ∀ s x s', addLine s x = .ok s' → (∃ e ∈ s, line ∈ e.continuation) →
      ∃ e ∈ s', line ∈ e.continuation := by
    rintro s x s' hs ⟨e, he, hmem⟩
    rcases addLine_cases hs with ⟨_, rfl⟩ | ⟨init, last, rfl, rfl⟩ | ⟨_, rfl⟩
    · exact ⟨e, by simp [he], hmem⟩
    · rcases List.mem_append.mp he with he | he
      · exact ⟨e, by simp [he], hmem⟩
      · rw [List.mem_singleton] at he
        exact ⟨{ last with continuation := last.continuation ++ [x] }, by simp,
          by simp [← he, hmem]⟩
    · exact ⟨e, he, hmem⟩
  have hafter : ∃ e ∈ after, line ∈ e.continuation := by
    rcases addLine_cases hadd with ⟨hflush, _⟩ | ⟨init, last, _, rfl⟩ | ⟨hblank, _⟩
    · exact absurd hflush hdeep
    · exact ⟨{ last with continuation := last.continuation ++ [line] }, by simp, by simp⟩
    · exact absurd hblank (by simp [hink])
  obtain ⟨e, he, hmem⟩ := foldlM_induction hstep hbelow hafter
  exact ⟨_, List.mem_map_of_mem he, mem_dropBlankEnd hmem hink⟩

/-! ## What sections add -/

theorem addParam_cases {keywordOnly : Bool} {d d' : Document} {e : Entry}
    (h : addParam keywordOnly d e = .ok d') :
    ∃ p first, d' = d.addParameter p ∧ p.description =
      some ((description? first (dedentBy bodyIndent e.continuation)).getD []) := by
  unfold addParam at h
  split at h
  · cases h
  · cases h
    exact ⟨_, _, rfl, rfl⟩

theorem addRaise_cases {d d' : Document} {e : Entry} (h : addRaise d e = .ok d') :
    ∃ type first, d' = { d with
      raises := d.raises ++
        [⟨type, description? first (dedentBy bodyIndent e.continuation)⟩] } := by
  unfold addRaise at h
  split at h
  · cases h
    exact ⟨_, _, rfl⟩
  · split at h
    · cases h
    · cases h
      exact ⟨_, _, rfl⟩

/-- The entries of a section are added one by one. -/
theorem addEntries_cases {add : Document → Entry → ParseResult} {d d' : Document}
    {body : List Line} (h : addEntries add d body = .ok d') :
    ∃ found, entries body = .ok found ∧ found.foldlM add d = .ok d' := by
  unfold addEntries at h
  split at h
  · cases h
  · rename_i found hfound
    exact ⟨found, hfound, h⟩

theorem keeps_addParam {keywordOnly : Bool} {d d' : Document} {e : Entry}
    (h : addParam keywordOnly d e = .ok d') :
    d.Keeps [] d' ∧ d'.metadata.sections = d.metadata.sections := by
  obtain ⟨p, _, rfl, _⟩ := addParam_cases h
  exact ⟨d.keeps_addParameter p, d.sections_addParameter p⟩

theorem keeps_addRaise {d d' : Document} {e : Entry} (h : addRaise d e = .ok d') :
    d.Keeps [] d' ∧ d'.metadata.sections = d.metadata.sections := by
  obtain ⟨type, first, rfl⟩ := addRaise_cases h
  exact ⟨d.keeps_addRaise _, rfl⟩

theorem keeps_addEntries {add : Document → Entry → ParseResult} {d d' : Document}
    {body : List Line} (hadd : ∀ d e d', add d e = .ok d' →
      d.Keeps [] d' ∧ d'.metadata.sections = d.metadata.sections)
    (h : addEntries add d body = .ok d') :
    d.Keeps [] d' ∧ d'.metadata.sections = d.metadata.sections := by
  obtain ⟨found, _, hfold⟩ := addEntries_cases h
  exact ⟨keeps_foldlM_of_nil id (fun d e d' he => (hadd d e d' he).1) hfold,
    foldlM_unchanged (fun d => d.metadata.sections) (fun d e d' he => (hadd d e d' he).2) hfold⟩

/-- A section records where it stands and writes its own places. -/
theorem keeps_addBlock {d d' : Document} {b : Block} (h : addBlock d b = .ok d') :
    d.Keeps b.kind.written d' ∧ d'.metadata.sections = d.metadata.sections ++ [b.span] := by
  have hrecord := d.keeps_recordSection b.span
  unfold addBlock at h
  cases hkind : b.kind <;> simp only [hkind] at h
  case params =>
    obtain ⟨hkeeps, hsections⟩ := keeps_addEntries (fun _ _ _ => keeps_addParam) h
    exact ⟨hrecord.trans hkeeps, hsections⟩
  case raises =>
    obtain ⟨hkeeps, hsections⟩ := keeps_addEntries (fun _ _ _ => keeps_addRaise) h
    exact ⟨hrecord.trans hkeeps, hsections⟩
  case returns =>
    cases h
    exact ⟨hrecord.trans (Document.keeps_returns (by simp) (by simp)), rfl⟩
  case yields =>
    cases h
    exact ⟨hrecord.trans (Document.keeps_yields (by simp) (by simp)), rfl⟩
  case examples =>
    cases h
    exact ⟨hrecord.trans (Document.keeps_addExample _ _), rfl⟩
  all_goals
    cases h
    exact ⟨hrecord.trans (Document.keeps_addFreeText? _ _ _), Document.sections_addFreeText? _ _ _⟩

/-- A line of an entry is kept, if the description of the entry is. -/
theorem holdsAt_addEntries {add : Document → Entry → ParseResult} {d d' : Document}
    {body : List Line} {l line : Line}
    (hadd : ∀ d e d', add d e = .ok d' →
      d.Keeps [] d' ∧ d'.metadata.sections = d.metadata.sections)
    (hadds : ∀ e, l ∈ e.continuation → ∀ d d', add d e = .ok d' →
      d'.metadata.warnings = [] → d'.HoldsAt .list line)
    (h : addEntries add d body = .ok d') (hw : d'.metadata.warnings = []) (hl : l ∈ body)
    (hink : isBlank l = false) (hdeep : indentWidth l ≠ 0) : d'.HoldsAt .list line := by
  obtain ⟨found, hfound, hfold⟩ := addEntries_cases h
  obtain ⟨e, he, hmem⟩ := exists_entry hfound hl hink hdeep
  obtain ⟨above, below, rfl⟩ := List.append_of_mem he
  exact holdsAt_of_foldlM id (fun d e d' he => (hadd d e d' he).1) hfold hw (hadds e hmem)
    fun _ _ => List.not_mem_nil

/-- Prose on what is returned or yielded is kept below its first line. -/
theorem says_returnDoc {above below : List Line} {l line : Line}
    (habove : above.all isBlank = false)
    (hheld : l.Says line) (hink : isBlank line = false) :
    ∃ t, (returnDoc (above ++ l :: below)).description = some t ∧ t.Says line := by
  obtain ⟨first, rest, htrim, hmem⟩ := exists_trimBlankLines below habove (hheld.not_blank hink)
  have huntyped : ∃ t, joinProse? (first :: rest) = some t ∧ t.Says line :=
    says_joinProse? hheld (List.mem_cons_of_mem _ hmem) hink
  simp only [returnDoc, htrim]
  split
  · split
    · exact says_description? hheld hmem hink
    · exact huntyped
  · exact huntyped

/-- A section keeps its prose. -/
theorem holdsAt_addBlock {lines : List Line} {b : Block} {i : Nat} {line : Line} {d d' : Document}
    (hb : StandsAt lines (b.first + 1) b.body) (hlast : i < b.span.last)
    (hline : lines[i]? = some line) (hn : '\n' ∉ line) (hink : isBlank line = false)
    (hhead : ¬b.span.IsHead 1 (dedentBy bodyIndent) lines i) (h : addBlock d b = .ok d')
    (hw : d'.metadata.warnings = []) : d'.HoldsAt b.kind.place line := by
  obtain ⟨k, hk⟩ := exists_dedentBy bodyIndent b.body
  obtain ⟨above, below, hbody, hdeep, habove⟩ :=
    SectionSpan.exists_split hb rfl hk hlast hline hhead
  have hdedent : dedentBy bodyIndent b.body =
      above.map (unindent k) ++ unindent k line :: below.map (unindent k) := by
    rw [hk, hbody, List.map_append, List.map_cons]
  have hheld : (unindent k line).Says line := says_unindent k hn
  have hmem : unindent k line ∈ dedentBy bodyIndent b.body := by simp [hdedent]
  have hblank : isBlank (unindent k line) = false := (isBlank_unindent k line).trans hink
  unfold addBlock at h
  cases hkind : b.kind <;> simp only [hkind] at h
  case params =>
    refine holdsAt_addEntries (fun _ _ _ => keeps_addParam) ?_ h hw hmem hblank
      (hdeep (.inl hkind))
    intro e he d d' hadd hw
    obtain ⟨p, first, rfl, hp⟩ := addParam_cases hadd
    obtain ⟨t, ht, hheld⟩ := says_description?_dedentBy first bodyIndent he
      (newline_notMem_unindent k hn) (trim_unindent k line) hink
    rw [ht] at hp
    exact Document.holdsAt_addParameter hw hp hheld
  case raises =>
    refine holdsAt_addEntries (fun _ _ _ => keeps_addRaise) ?_ h hw hmem hblank
      (hdeep (.inr hkind))
    intro e he d d' hadd hw
    obtain ⟨type, first, rfl⟩ := addRaise_cases hadd
    obtain ⟨t, ht, hheld⟩ := says_description?_dedentBy first bodyIndent he
      (newline_notMem_unindent k hn) (trim_unindent k line) hink
    exact Document.holdsAt_addRaise (.inr ht) hheld
  case returns | yields =>
    cases h
    have habove' : (above.map (unindent k)).all isBlank = false := by
      simpa [Function.comp_def, isBlank_unindent] using habove (by simp [Block.span, hkind])
    obtain ⟨t, ht, hheld⟩ := says_returnDoc habove' hheld hink
    rw [← hdedent] at ht
    exact ⟨t, by simp [Document.textsAt, SectionKind.place, ht], hheld⟩
  case examples =>
    cases h
    obtain ⟨t, ht, hheld⟩ := says_joinProse? hheld hmem hink
    rw [ht]
    exact Document.holdsAt_addExample hheld
  all_goals
    cases h
    obtain ⟨t, ht, hheld⟩ := says_joinProse? hheld hmem hink
    rw [ht]
    exact Document.holdsAt_addFreeText? rfl hheld

/-! ## Docstrings -/

/-- A docstring is a walk over its sections, each of which records where it stands. -/
theorem isHeaded_walk : walk.IsHeaded headers Block.heading Block.span where
  start := rfl
  finish := rfl
  endsSummary := rfl
  endsProse := rfl
  outlined hrest _ hstop := by
    refine ⟨_, @outlined_outlineFrom _ _ _ none hrest hstop, ?_, ?_⟩ <;>
      simp only [walk, outline, List.map_map] <;> rfl
  add hb := (keeps_addBlock hb).2

theorem exists_divides {text : Text} {d : Document} (h : parse text = .ok d) :
    ∃ (n : Nat) (blocks : List Block), blocks.foldlM addBlock
        ((Head.cut atHeader atHeader (normalLines text)).document .google) = .ok d ∧
      headers.Divides (normalLines text) n (blocks.map Block.heading) := by
  obtain ⟨hfold, hdivides, _⟩ := isHeaded_walk.exists_divides ((parse_eq_read text).symm.trans h)
  exact ⟨_, _, hfold, hdivides⟩

theorem tiled_parse {text : Text} {d : Document} (h : parse text = .ok d) :
    ∃ lo, Tiled openedAt? (normalLines text) lo (normalLines text).length d.metadata.sections :=
  isHeaded_walk.tiled ((parse_eq_read text).symm.trans h)

theorem exists_section_of_header {text : Text} {d : Document} {i : Nat} (h : parse text = .ok d)
    (hheader : atHeader ((normalLines text).drop i) = true) :
    ∃ s ∈ d.metadata.sections, s.first = i :=
  isHeaded_walk.exists_of_atHeader ((parse_eq_read text).symm.trans h) hheader

/-- Without a warning, a section keeps its prose to the end, unless it is overwritten. -/
theorem holdsAt_parse {text : Text} {d : Document} {span : SectionSpan} {i : Nat} {line : Line}
    (h : parse text = .ok d) (hw : d.metadata.warnings = []) (hspan : span ∈ d.metadata.sections)
    (hlast : i < span.last) (hline : (normalLines text)[i]? = some line)
    (hink : isBlank line = false)
    (hhead : ¬span.IsHead 1 (dedentBy bodyIndent) (normalLines text) i)
    (hover : ¬span.IsOverwritten d.metadata.sections) : d.HoldsAt span.kind.place line := by
  obtain ⟨n, blocks, hfold, hdivides⟩ := exists_divides h
  obtain ⟨lo, htiled⟩ := tiled_parse h
  have hn : '\n' ∉ line :=
    ((isNormal_normalLines text).clean line (List.mem_of_getElem? hline)).newline
  refine holdsAt_of_sections addBlock Block.span (fun _ _ _ hb => (keeps_addBlock hb).1)
    (fun _ _ _ hb => (keeps_addBlock hb).2) hfold rfl htiled.sorted hw hspan hover ?_
  rintro b hb rfl d d' hadd hw
  exact holdsAt_addBlock (hdivides.stands _ (List.mem_map_of_mem hb)) hlast hline hn hink hhead hadd
    hw

end Docstring.Google
