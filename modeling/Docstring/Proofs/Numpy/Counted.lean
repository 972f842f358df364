-- How many words a section is written with: no more than it was read from. Apart from parameters, that
-- is so whatever a document says elsewhere.
import Docstring.Proofs.Document.Canonical
import Docstring.Proofs.Numpy.Value
import Docstring.Proofs.Text.Bracket

namespace Docstring.Numpy

open Text

variable {d d' : Document} {kind : SectionKind} {width : Nat}

/-! ## Words of entries -/

theorem wordCount_descriptionLines (width : Nat) (description : Option Text) :
    wordCount (descriptionLines width description) = (words (description.getD [])).length := by
  unfold descriptionLines
  dsimp only
  split
  · rename_i hblank
    rw [words_of_blank hblank]
    rfl
  · rw [Layout.wordCount_indent, Layout.wordCount_wrapProse]

theorem Entry.wordCount_description (e : Entry) (width : Nat) :
    wordCount (descriptionLines width e.description?) = wordCount e.body := by
  obtain ⟨k, hk⟩ := exists_dedentBy bodyIndent e.body
  rw [wordCount_descriptionLines, Entry.description?, length_words_joinProse?, hk,
    wordCount_map_unindent]

theorem length_words_nonEmpty? (t : Text) :
    wordCount (nonEmpty? t).toList = (words t).length := by
  unfold nonEmpty?
  split
  · rename_i hempty
    rw [List.isEmpty_iff.mp hempty]
    rfl
  · simp

/-- A value is written with no more words than its entry has: its name is dropped. -/
theorem wordCount_returnLines_le (width : Nat) (e : Entry) :
    wordCount (returnLines width (returnEntry e).1) ≤ wordCount e.lines := by
  have hbody := e.wordCount_description width
  unfold returnEntry returnLines Entry.lines
  split
  · simp [hbody]
  · rename_i head hhead
    split
    · rename_i name type hcut
      have hle : (words type).length ≤ (words head).length := by
        rw [eq_append_of_cutAtColonFrom? hcut, List.append_cons]
        exact length_words_append_le _ _
      simpa [length_words_nonEmpty?, hbody, hhead] using hle
    · simp [length_words_nonEmpty?, hbody, hhead]

/-- No word of a section is outside of its entries. -/
theorem sum_wordCount_entries (body : List Line) :
    ((entries body).map fun e => wordCount e.lines).sum = wordCount body := by
  rw [← congrArg wordCount (flatMap_lines_entries body), List.flatMap_def, wordCount_flatten,
    List.map_map]
  rfl

theorem wordCount_raises {es : List Entry} (h : es.foldlM addRaise d = .ok d') (width : Nat) :
    ((d'.raises.map (raiseLines width)).map wordCount).sum ≤
      ((d.raises.map (raiseLines width)).map wordCount).sum +
        (es.map fun e => wordCount e.lines).sum := by
  let size := fun d : Document => ((d.raises.map (raiseLines width)).map wordCount).sum
  refine foldlM_sum_le size (fun d e d' he => ?_) h
  unfold addRaise at he
  split at he
  · cases he
  · rename_i head hhead
    cases he
    simp [size, raiseLines, Entry.lines, hhead, e.wordCount_description width]

/-! ## Words of sections -/

theorem sectionLines_addParameter (d : Document) (p : Parameter) (hne : kind ≠ .params) (width : Nat) :
    sectionLines (d.addParameter p) kind width = sectionLines d kind width := by
  unfold Document.addParameter Document.pushParameter
  dsimp only
  split <;> cases kind <;> first | exact absurd rfl hne | rfl

theorem sectionLines_addFreeText? (d : Document) {other : SectionKind} (text : Option Text)
    (hne : other ≠ kind) (width : Nat) :
    sectionLines (d.addFreeText? other text) kind width = sectionLines d kind width := by
  cases text with
  | none => rfl
  | some text => cases other <;> cases kind <;> first | exact absurd rfl hne | rfl

/-- What is read from a section changes the lines of that section only. -/
theorem sectionLines_addBlock_of_ne {b : Block} (h : addBlock d b = .ok d') (hne : b.kind ≠ kind)
    (width : Nat) : sectionLines d' kind width = sectionLines d kind width := by
  unfold addBlock at h
  cases hkind : b.kind <;> simp only [hkind] at h <;> rw [hkind] at hne
  case params =>
    refine (foldlM_unchanged (sectionLines · kind width) (fun d e d' he => ?_) h).trans
      (by cases kind <;> rfl)
    obtain ⟨head, type, default, names, _, hfold⟩ := addParams_cases he
    refine foldlM_unchanged (sectionLines · kind width) (fun d raw d' hp => ?_) hfold
    obtain ⟨p, rfl, _⟩ := addParam_cases hp
    exact sectionLines_addParameter d p hne.symm width
  case raises =>
    refine (foldlM_unchanged (sectionLines · kind width) (fun d e d' he => ?_) h).trans
      (by cases kind <;> rfl)
    obtain ⟨_, rfl⟩ := addRaise_cases he
    cases kind <;> first | exact absurd rfl hne | rfl
  case returns | yields =>
    obtain ⟨doc, ws, rfl, _⟩ := addReturn_cases h
    cases kind <;> first | exact absurd rfl hne | rfl
  case examples =>
    cases h
    cases kind <;> first | exact absurd rfl hne | rfl
  all_goals
    cases h
    refine (sectionLines_addFreeText? _ _ hne width).trans ?_
    cases kind <;> rfl

theorem wordCount_headerLines_pos (kind : SectionKind) : 0 < wordCount (headerLines kind) := by
  have hink : isBlank (title kind) = false := by cases kind <;> rfl
  rw [headerLines, wordCount_cons]
  exact Nat.add_pos_left (List.length_pos_of_ne_nil (words_ne_nil hink)) _

theorem wordCount_underHeader_le (kind : SectionKind) (entries : List (List Line)) :
    wordCount (underHeader kind entries) ≤
      wordCount (headerLines kind) + (entries.map wordCount).sum := by
  unfold underHeader
  split
  · simp
  · rw [wordCount_append, wordCount_flatten]

theorem sum_le_wordCount_underHeader (kind : SectionKind) (entries : List (List Line)) :
    (entries.map wordCount).sum ≤ wordCount (underHeader kind entries) := by
  unfold underHeader
  split
  · rename_i hempty
    rw [List.isEmpty_iff.mp hempty]
    exact Nat.zero_le _
  · rw [wordCount_append, wordCount_flatten]
    exact Nat.le_add_left _ _

theorem wordCount_eachUnderHeader_append (kind : SectionKind) (blocks more : List (List Line)) :
    wordCount (eachUnderHeader kind (blocks ++ more)) =
      wordCount (eachUnderHeader kind blocks) + wordCount (eachUnderHeader kind more) := by
  simp only [eachUnderHeader, Layout.wordCount_separate, List.map_append, List.sum_append]

/-- A text is written under a header of its own, if it is written. -/
theorem wordCount_eachUnderHeader_le (kind : SectionKind) {lines : Text → List Line}
    (hlines : ∀ t, wordCount (lines t) = (words t).length) (keep : Text → Bool) (text : Option Text) :
    wordCount (eachUnderHeader kind ((text.toList.filter keep).map lines)) ≤
      wordCount (headerLines kind) + (words (text.getD [])).length := by
  cases text with
  | none => exact Nat.zero_le _
  | some t =>
    cases hkeep : keep t <;>
      simp [hkeep, eachUnderHeader, Layout.wordCount_separate, hlines]

theorem wordCount_addFreeText?_le (hkind : kind.isFreeText = true) (text : Option Text) :
    wordCount (sectionLines (d.addFreeText? kind text) kind width) ≤
      wordCount (sectionLines d kind width) +
        (wordCount (headerLines kind) + (words (text.getD [])).length) := by
  have hlines : ∀ d : Document, sectionLines d kind width =
      eachUnderHeader kind ((Layout.freeTexts d kind).map (Layout.wrapProse width)) := by
    intro d
    cases kind <;> first | rfl | cases hkind
  have htexts : (d.addFreeText? kind text).freeTexts kind = d.freeTexts kind ++ text.toList := by
    cases text with
    | none => exact (List.append_nil _).symm
    | some text => cases kind <;> first | rfl | cases hkind
  rw [hlines, hlines, Layout.freeTexts, htexts, List.filter_append, List.map_append,
    wordCount_eachUnderHeader_append]
  exact Nat.add_le_add_left
    (wordCount_eachUnderHeader_le kind (Layout.wordCount_wrapProse width) _ text) _

theorem sectionLines_of_value (hkind : kind = .returns ∨ kind = .yields) {doc : ReturnDoc}
    (hdoc : d.value kind = some doc) :
    sectionLines d kind width = headerLines kind ++ returnLines width doc := by
  rcases hkind with rfl | rfl
  · have hdoc : d.returns = some doc := hdoc
    simp [sectionLines, underHeader, hdoc]
  · have hdoc : d.yields = some doc := hdoc
    simp [sectionLines, underHeader, hdoc]

/-- What is written about a value opens a section on it. -/
theorem exists_opened_of_value (hkind : kind = .returns ∨ kind = .yields)
    (hsome : (d.value kind).isSome = true) (width : Nat) (above below : List Line) :
    ∃ m < (above ++ Layout.brokenUp (sectionLines d kind width) ++ below).length,
      opener.at? (above ++ Layout.brokenUp (sectionLines d kind width) ++ below) m = some kind := by
  obtain ⟨doc, hdoc⟩ := Option.isSome_iff_exists.mp hsome
  have hheader : ∀ line ∈ headerLines kind, '\n' ∉ line := by cases kind <;> decide
  refine ⟨above.length, ?_, ?_⟩
  · rw [sectionLines_of_value hkind hdoc, Layout.brokenUp_append, Layout.brokenUp_of_newline hheader]
    simp [headerLines]
  · rw [at?_opener, List.append_assoc, List.drop_left, sectionLines_of_value hkind hdoc,
      Layout.brokenUp_append, Layout.brokenUp_of_newline hheader]
    change openedAt? (title kind :: dashes kind :: _) = _
    rw [openedAt?, header?_title]

/-- The words of a section on a value are those of its own header and lines, whatever was said about
the value before. -/
theorem wordCount_value_le {b : Block} (h : addBlock d b = .ok d')
    (hkind : b.kind = .returns ∨ b.kind = .yields) (width : Nat) :
    wordCount (sectionLines d' b.kind width) ≤ wordCount (headerLines b.kind) + wordCount b.body := by
  obtain ⟨doc, hdoc, hread⟩ := (value_addBlock hkind h).1 rfl
  rw [sectionLines_of_value hkind hdoc, wordCount_append, ← wordCount_trimBlankLines b.body]
  refine Nat.add_le_add_left ?_ _
  rcases hread with ⟨_, rfl⟩ | ⟨e, hone, rfl⟩
  · simp [returnLines, ReturnDoc.opened, wordCount_descriptionLines, words]
  · have hwords := congrArg wordCount (flatMap_lines_entries (trimBlankLines b.body))
    rw [hone, List.flatMap_singleton] at hwords
    exact hwords ▸ wordCount_returnLines_le width e

/-- A section gains no more words than its header and its lines have. -/
theorem wordCount_addBlock_le {b : Block} (h : addBlock d b = .ok d') (hne : b.kind ≠ .params)
    (width : Nat) : wordCount (sectionLines d' b.kind width) ≤
      wordCount (sectionLines d b.kind width) +
        (wordCount (headerLines b.kind) + wordCount b.body) := by
  by_cases hvalue : b.kind = .returns ∨ b.kind = .yields
  · exact (wordCount_value_le h hvalue width).trans (Nat.le_add_left _ _)
  · unfold addBlock at h
    cases hkind : b.kind <;> simp only [hkind] at h
    case params => exact absurd hkind hne
    case returns => exact absurd (.inl hkind) hvalue
    case yields => exact absurd (.inr hkind) hvalue
    case raises =>
      have hafter := wordCount_underHeader_le .raises (d'.raises.map (raiseLines width))
      have hbefore := sum_le_wordCount_underHeader .raises (d.raises.map (raiseLines width))
      have hread := wordCount_raises h width
      rw [sum_wordCount_entries, wordCount_trimBlankLines] at hread
      change _ ≤ ((d.raises.map (raiseLines width)).map wordCount).sum + _ at hread
      simp only [sectionLines]
      omega
    case examples =>
      cases h
      have htext := wordCount_eachUnderHeader_le .examples Layout.wordCount_verbatim (fun _ => true)
        (joinProse? (trimBlankLines b.body))
      rw [length_words_joinProse?, wordCount_trimBlankLines, List.filter_true] at htext
      simp only [sectionLines, Document.addExample, List.map_append, wordCount_eachUnderHeader_append]
      exact Nat.add_le_add_left htext _
    all_goals
      cases h
      have htext := @wordCount_addFreeText?_le (d.recordSection b.span) _ width
        (congrArg SectionKind.isFreeText hkind) (joinProse? (dedent (trimBlankLines b.body)))
      rw [hkind, length_words_joinProse?, dedent, wordCount_map_unindent,
        wordCount_trimBlankLines] at htext
      exact htext

end Docstring.Numpy
