-- Canonical docstrings: what they are read as is written as they stand. Their words are counted as they
-- are read and as they are written, so that the head ends in the same place: no section is opened in
-- the lines that are written for it.
import Docstring.Proofs.Document.Arranged
import Docstring.Proofs.Document.Flush
import Docstring.Proofs.Document.Hanging
import Docstring.Proofs.Document.Outline
import Docstring.Proofs.Document.Rewritten
import Docstring.Proofs.Document.Walk
import Mathlib.Algebra.Order.BigOperators.Group.List
import Mathlib.Algebra.Order.Group.Nat

namespace Docstring

open Text

/-! ## Sums -/

/-- A run adds no more to a size than its items weigh. -/
theorem foldlM_sum_le {State Item Error : Type} {step : State → Item → Except Error State}
    (size : State → Nat) {weight : Item → Nat}
    (hstep : ∀ s item s', step s item = .ok s' → size s' ≤ size s + weight item)
    {items : List Item} {s s' : State} (h : items.foldlM step s = .ok s') :
    size s' ≤ size s + (items.map weight).sum := by
  induction items generalizing s with
  | nil =>
    cases h
    exact Nat.le_refl _
  | cons item items ih =>
    rw [← List.nil_append (item :: items)] at h
    obtain ⟨_, after, habove, hitem, hbelow⟩ := exists_of_foldlM h
    cases habove
    have hfirst := hstep _ _ _ hitem
    have hrest := ih hbelow
    rw [List.map_cons, List.sum_cons]
    omega

/-- One item makes up for a difference that the others do not have. -/
theorem sum_map_add_le {α : Type} [DecidableEq α] {items : List α} {f g : α → Nat} {item : α}
    {more less : Nat} (hmem : item ∈ items) (hothers : ∀ x ∈ items.erase item, f x ≤ g x)
    (hitem : f item + more ≤ g item + less) :
    (items.map f).sum + more ≤ (items.map g).sum + less := by
  have hrest := List.sum_le_sum hothers
  rw [← List.sum_map_erase f hmem, ← List.sum_map_erase g hmem]
  omega

/-! ## Counting words -/

namespace Text

theorem words_unindent (columns : Nat) (line : Line) : words (unindent columns line) = words line := by
  rw [← words_trim, trim_unindent, words_trim]

theorem wordCount_map_unindent (columns : Nat) (lines : List Line) :
    wordCount (lines.map (unindent columns)) = wordCount lines := by
  rw [wordCount, List.flatMap_map, wordCount]
  exact congrArg List.length (List.flatMap_congr fun line _ => words_unindent columns line)

theorem wordCount_flatten (blocks : List (List Line)) :
    wordCount blocks.flatten = (blocks.map wordCount).sum := by
  induction blocks with
  | nil => rfl
  | cons block blocks ih =>
    rw [List.flatten_cons, wordCount_append, ih, List.map_cons, List.sum_cons]

/-- The prose of some lines has their words. -/
theorem length_words_joinProse? (lines : List Line) :
    (words ((joinProse? lines).getD [])).length = wordCount lines := by
  rw [wordCount, ← flatMap_words_trimBlankLines, joinProse?]
  split
  · rename_i hnone
    rw [hnone]
    rfl
  · rw [Option.getD_some, words_joinLines]

end Text

/-- The lines above the first mark have the words of the summary and of the prose. -/
theorem Head.wordCount_take_cut (endsSummary endsProse : List Line → Bool) (lines : List Line) :
    let head := cut endsSummary endsProse lines
    wordCount (lines.take head.length) =
      (words head.summary).length + (words (head.extended.getD [])).length := by
  intro head
  let blankOrMark := fun tail : List Line =>
    ((tail.head?.map isBlank).getD false) || endsSummary tail
  let summary := spanUntil blankOrMark lines
  let prose := spanUntil endsProse summary.2
  have hlines : summary.1 ++ (prose.1 ++ prose.2) = lines := by
    rw [append_spanUntil endsProse, append_spanUntil blankOrMark]
  have htake : lines.take (summary.1.length + prose.1.length) = summary.1 ++ prose.1 := by
    rw [← List.length_append, ← hlines, ← List.append_assoc, List.take_left]
  calc wordCount (lines.take (summary.1.length + prose.1.length))
      = wordCount summary.1 + wordCount prose.1 := by rw [htake, wordCount_append]
    _ = (words (joinLines summary.1)).length + (words ((joinProse? prose.1).getD [])).length := by
        rw [words_joinLines, length_words_joinProse?, wordCount]

/-! ## The sections that are read -/

/-- Up to the next section, all words belong to a section. -/
theorem Headers.Divides.wordCount_le {headers : Headers} {lines : List Line} {lo k : Nat}
    {sections : List HeadedSection} (h : headers.Divides lines lo sections) {s : HeadedSection}
    (hs : s ∈ sections)
    (hnone : ∀ n, 0 < n → n < k → headers.openedAt? (lines.drop (s.first + n)) = none) :
    Text.wordCount ((lines.drop s.first).take k) ≤ headers.wordCount lines s := by
  have hspan : headers.span s ∈ sections.map headers.span := List.mem_map_of_mem hs
  have hwhole : headers.wordCount lines s =
      Text.wordCount ((lines.drop s.first).take (headers.size + s.body.length)) := by
    rw [Headers.wordCount, List.take_add, wordCount_append, List.drop_drop,
      ← List.prefix_iff_eq_take.mp (h.stands s hs)]
  rw [hwhole]
  rcases Nat.le_total k (headers.size + s.body.length) with hle | hle
  · exact wordCount_take_le _ hle
  · obtain ⟨m, rfl⟩ := Nat.exists_eq_add_of_le hle
    have hblank : ∀ line ∈ ((lines.drop s.first).drop (headers.size + s.body.length)).take m,
        isBlank line = true := by
      intro line hline
      by_contra hink
      obtain ⟨j, hj⟩ := List.mem_iff_getElem?.mp hline
      have hjm : j < m := by
        have hlt := (List.getElem?_eq_some_iff.mp hj).1
        rw [List.length_take] at hlt
        omega
      rw [List.getElem?_take_of_lt hjm, List.getElem?_drop, List.getElem?_drop] at hj
      have hlast := h.tiled.lt_last hspan (k := headers.size + s.body.length + j)
        (List.getElem?_eq_some_iff.mp hj).1 hj (Bool.eq_false_iff.mpr hink)
        fun n hpos hn => hnone n hpos (by omega)
      simp only [Headers.span, dropBlankEnd_of_endsInk (h.ends s hs)] at hlast
      omega
    rw [List.take_add, wordCount_append, wordCount_of_blank hblank, Nat.add_zero]

/-! ## The head that is read -/

namespace Document

@[simp] theorem headWords_addParameter (d : Document) (p : Parameter) :
    (d.addParameter p).headWords = d.headWords := by
  unfold addParameter pushParameter
  dsimp only
  split <;> rfl

@[simp] theorem headWords_addFreeText? (d : Document) (kind : SectionKind) (text : Option Text) :
    (d.addFreeText? kind text).headWords = d.headWords := by
  cases text with
  | none => rfl
  | some text => cases kind <;> rfl

end Document

/-- A walk of which no step changes the head reads its words from the lines above the first mark. -/
theorem Walk.wordCount_head {Item State : Type} {w : Walk Item State} {lines : List Line} {d : Document}
    (hstart : ∀ d, (w.finish (w.start d)).headWords = d.headWords)
    (hadd : ∀ s item s', w.add s item = .ok s' → (w.finish s').headWords = (w.finish s).headWords)
    (h : w.read lines = .ok d) :
    wordCount (lines.take (w.head lines).length) = d.headWords.length := by
  obtain ⟨-, s, hfold, rfl⟩ := read_eq_ok_iff.mp h
  rw [foldlM_unchanged (fun s => (w.finish s).headWords) hadd hfold, hstart, Document.headWords,
    List.length_append]
  exact Head.wordCount_take_cut w.endsSummary w.endsProse lines

namespace Layout

theorem wordCount_brokenUp (lines : List Line) : wordCount (brokenUp lines) = wordCount lines := by
  rw [wordCount, brokenUp, List.flatMap_assoc, wordCount]
  exact congrArg List.length (List.flatMap_congr fun line _ => flatMap_words_splitLines line)

theorem wordCount_glue (above below : List Line) :
    wordCount (glue above below) = wordCount above + wordCount below := by
  rw [wordCount, flatMap_words_glue, List.length_append, wordCount, wordCount]

theorem wordCount_separate (blocks : List (List Line)) :
    wordCount (separate blocks) = (blocks.map wordCount).sum := by
  induction blocks with
  | nil => rfl
  | cons block blocks ih => rw [separate_cons, wordCount_glue, ih, List.map_cons, List.sum_cons]

theorem wordCount_indent (columns : Nat) (lines : List Line) :
    wordCount (indent columns lines) = wordCount lines :=
  congrArg List.length (flatMap_words_indent columns lines)

theorem wordCount_verbatim (t : Text) :
    wordCount (verbatim 0 t) = (words t).length := by
  rw [verbatim, wordCount_indent, wordCount, List.flatMap_map]
  simp only [words_trimEnd]
  rw [flatMap_words_splitLines]

theorem wordCount_wrapProse (width : Nat) (t : Text) :
    wordCount (wrapProse width t) = (words t).length := by
  rw [wordCount, wrapProse, flatMap_words_lines, flatMap_words_splitLines]

/-- The lines that are written for the head of a document. -/
def writtenHead (d : Document) (width : Nat) : List Line :=
  brokenUp (separate (headBlocks d width))

theorem wordCount_writtenHead (d : Document) (width : Nat) :
    wordCount (writtenHead d width) = d.headWords.length := by
  have hblock : ∀ t : Text,
      ((if isBlank t then [] else [wrapProse width t]).map wordCount).sum = (words t).length := by
    intro t
    split
    · rename_i hblank
      rw [words_of_blank hblank]
      rfl
    · simp [wordCount_wrapProse]
  rw [writtenHead, wordCount_brokenUp, wordCount_separate, headBlocks, List.map_append,
    List.sum_append, hblock, hblock, Document.headWords, List.length_append]

end Layout

/-! ## Lines that are read again -/

/-- Every line keeps its words. -/
theorem map_words_reread {lines : List Line} (h : IsNormal lines) :
    (normalLines (joinLines lines)).map words = lines.map words := by
  cases lines with
  | nil => rfl
  | cons first rest =>
    rw [normalLines_joinLines_of_normal h, List.map_cons, List.map_cons, words_trim, List.map_map]
    exact congrArg _ (List.map_congr_left fun line _ => words_stripColumns _ line)

theorem length_reread {lines : List Line} (h : IsNormal lines) :
    (normalLines (joinLines lines)).length = lines.length := by
  simpa using congrArg List.length (map_words_reread h)

theorem wordCount_take_reread {lines : List Line} (h : IsNormal lines) (n : Nat) :
    wordCount ((normalLines (joinLines lines)).take n) = wordCount (lines.take n) := by
  rw [wordCount, wordCount, List.flatMap_def, List.flatMap_def, List.map_take, List.map_take,
    map_words_reread h]

theorem wordCount_reread {lines : List Line} (h : IsNormal lines) :
    wordCount (normalLines (joinLines lines)) = wordCount lines := by
  rw [wordCount, wordCount, List.flatMap_def, List.flatMap_def, map_words_reread h]

/-- Where a line below the first one starts with ink, normal lines are read as they stand but for the
first one. -/
theorem normalLines_joinLines_of_flush {lines : List Line} (h : IsNormal lines)
    (hflush : ∃ line ∈ lines.tail, opensWithInk line = true) :
    normalLines (joinLines lines) = trimFirst lines := by
  obtain ⟨line, hline, hink⟩ := hflush
  cases lines with
  | nil => cases hline
  | cons first rest => exact normalLines_joinLines_of_ink h hline hink

/-! ## Canonical lines -/

/-- Lines that are written for a document: those of its head, and others below them. -/
structure Layout.IsWritten (d : Document) (width : Nat) (old below : List Line) : Prop where
  normal : IsNormal old
  eq : old = glue (writtenHead d width) below
  /-- Without a head, the first line starts with ink. -/
  front : writtenHead d width = [] → ∀ line ∈ below.head?, opensWithInk line = true

namespace Layout.IsWritten

variable {d : Document} {width n i : Nat} {old below : List Line} {line : Line}
  (h : IsWritten d width old below)

include h

theorem wordCount_eq :
    wordCount (normalLines (joinLines old)) = d.headWords.length + wordCount below := by
  rw [wordCount_reread h.normal, h.eq, wordCount_glue, wordCount_writtenHead]

/-- Below as many lines as have the words of the head, no line of ink is one that was written for it. -/
theorem length_le (hwords : wordCount ((normalLines (joinLines old)).take n) = d.headWords.length)
    (hle : n ≤ i) (hline : (normalLines (joinLines old))[i]? = some line)
    (hink : isBlank line = false) : (writtenHead d width).length ≤ i := by
  by_contra hlt
  obtain ⟨more, hmore⟩ := prefix_glue (writtenHead d width) below
  have hpos : 0 < (words line).length := List.length_pos_of_ne_nil (words_ne_nil hink)
  have hnext : wordCount ((normalLines (joinLines old)).take (i + 1)) =
      wordCount ((normalLines (joinLines old)).take i) + (words line).length := by
    rw [List.take_add_one, hline, Option.toList_some, wordCount_append, wordCount_cons,
      wordCount_nil, Nat.add_zero]
  have hhead : wordCount (old.take (i + 1)) ≤ d.headWords.length := by
    rw [← wordCount_writtenHead d width]
    have hprefix := wordCount_take_le old (Nat.succ_le_of_lt (Nat.lt_of_not_le hlt))
    rwa [h.eq, ← hmore, List.take_left, hmore, ← h.eq] at hprefix
  have hbefore := wordCount_take_le (normalLines (joinLines old)) hle
  rw [← wordCount_take_reread h.normal] at hhead
  omega

/-- No mark is in the lines that are written for the head. -/
theorem length_le_of_mark {Item State : Type} {w : Walk Item State} (hw : w.Lawful)
    (hwords : wordCount ((normalLines (joinLines old)).take (w.head (normalLines (joinLines old))).length) =
      d.headWords.length)
    (hmark : w.endsProse ((normalLines (joinLines old)).drop i) = true)
    (hline : (normalLines (joinLines old))[i]? = some line) (hink : isBlank line = false) :
    (writtenHead d width).length ≤ i :=
  h.length_le hwords (Head.length_cut_le_of_mark hw.ends hmark) hline hink

/-- Below the head, lines are read again as they stand. -/
theorem drop_eq (hflush : ∃ line ∈ old.tail, opensWithInk line = true)
    (hle : (writtenHead d width).length ≤ n) :
    (normalLines (joinLines old)).drop n = old.drop n := by
  rw [normalLines_joinLines_of_flush h.normal hflush]
  cases hold : old with
  | nil => rfl
  | cons first rest =>
    cases n with
    | succ n => rfl
    | zero =>
      have hnone : writtenHead d width = [] := List.eq_nil_of_length_eq_zero (Nat.le_zero.mp hle)
      have hbelow : below = first :: rest := by
        rw [← hold, h.eq, hnone]
        rfl
      have hink := h.front hnone first (by rw [hbelow]; rfl)
      rw [List.drop_zero, List.drop_zero, trimFirst,
        trim_of_ink hink (h.normal.clean first (by simp [hold])).trimmed]

end Layout.IsWritten

end Docstring
