-- Wrapping does not change what is read back. A style can carry a document with broken lines if no
-- word of it reads as a mark once it stands at the end of a line, and what is read back then says
-- what the document says, up to white space, at every width.
import Docstring.Proofs.Conversion
import Docstring.Proofs.Document.Broken

namespace Docstring

open Text

/-! ## Documents that may be broken anywhere -/

/-- A document that may be broken between any two words of a line: no word of its head can open or
close a mark, none can underline the one above it, and a value without a type does not get one. -/
@[mk_iff]
structure Document.Breakable (d : Document) : Prop where
  colons : ∀ word ∈ d.headWords, word.head? ≠ some ':' ∧ word.getLast? ≠ some ':'
  dots : ∀ word ∈ d.headWords, word ≠ "..".toList
  headDashes : ∀ word ∈ d.headWords, Numpy.isUnderline word = false
  freeDashes : ∀ kind ∈ SectionKind.order, ∀ t ∈ d.freeTexts kind, ∀ word ∈ words t,
    Numpy.isUnderline word = false
  untyped : ∀ doc ∈ d.values, doc.type = none → ':' ∉ firstLine (doc.description.getD [])

instance : DecidablePred Document.Breakable := fun d =>
  decidable_of_iff _ (Document.breakable_iff d).symm

/-! ## Google -/

namespace Google

theorem fair_wrapping (width : Nat) : (wrapping width).Fair where
  head := ⟨width, rfl⟩
  param _ := Layout.Breaking.fair_entry _ _ _ _
  returns _ := Layout.Breaking.fair_entry _ _ _ _
  yields _ := Layout.Breaking.fair_entry _ _ _ _
  raise _ := Layout.Breaking.fair_entry _ _ _ _
  free := Layout.Breaking.fair_prose _

/-- A line is no header if no word of it ends in a colon. -/
theorem header?_of_words {line : Line} (h : ∀ word ∈ words line, word.getLast? ≠ some ':') :
    header? line = none := by
  unfold header?
  apply if_neg
  intro hlast
  obtain ⟨start, rfl⟩ := List.getLast?_eq_some_iff.mp hlast
  obtain ⟨earlier, word, hwords⟩ := exists_last_word start (c := ':') (by decide)
  exact h (word ++ [':']) (by simp [hwords]) (by simp)

theorem Tidy.broken {d : Document} (h : Tidy d) (hbreak : d.Breakable) (width : Nat) :
    Tidy (d.broken (wrapping width)) where
  document := h.document.broken (fair_wrapping width)
  headers line hl := by
    apply header?_of_words
    intro word hword
    have hmem := Document.mem_headWords hl hword
    rw [Document.headWords_broken (fair_wrapping width)] at hmem
    exact (hbreak.colons word hmem).2
  paramTypes p hp := by
    obtain ⟨old, hold, rfl⟩ := List.mem_map.mp hp
    exact h.paramTypes old hold
  valueTypes doc hdoc := by
    obtain ⟨old, hold, rfl | rfl⟩ := Document.exists_of_mem_values hdoc
    · exact h.valueTypes old hold
    · exact h.valueTypes old hold
  untyped doc hdoc hnone := by
    obtain ⟨old, hold, hsame⟩ := Document.exists_of_mem_values hdoc
    have hdoc : doc = old.broken (valueBreaking width) := hsame.elim id id
    subst hdoc
    have hcolon : ':' ∉ firstLine (((old.description.map
        (valueBreaking width old.type).apply)).getD []) := by
      rw [Layout.Breaking.getD_map]
      intro hmem
      exact hbreak.untyped old hold hnone (Layout.mem_firstLine_of_mem_entry (by decide) hmem)
    simp only [opensWithType, ReturnDoc.broken, cutAtColon?_of_notMem hcolon]
  exceptions r hr := by
    obtain ⟨old, hold, rfl⟩ := List.mem_map.mp hr
    exact h.exceptions old hold

end Google

/-! ## NumPy -/

namespace Numpy

theorem fair_wrapping (width : Nat) : (wrapping width).Fair where
  head := ⟨width, rfl⟩
  param _ := Layout.Breaking.fair_prose _
  returns _ := Layout.Breaking.fair_prose _
  yields _ := Layout.Breaking.fair_prose _
  raise _ := Layout.Breaking.fair_prose _
  free := Layout.Breaking.fair_prose _

/-- An underline is a word. -/
theorem words_of_underline {line : Line} (h : isUnderline line = true) : words line = [line] := by
  simp only [isUnderline, Bool.and_eq_true, decide_eq_true_eq, List.all_eq_true,
    beq_iff_eq] at h
  apply words_of_ink
  · rintro rfl
    simp at h
  · intro c hc
    rw [h.2 c hc]
    decide

/-- A text has no header if no word of it is an underline. -/
theorem hasNoHeader_of_words {t : Text} (h : ∀ word ∈ words t, isUnderline word = false) :
    HasNoHeader (splitLines t) := by
  apply hasNoHeader_of_tail
  intro line hl
  by_contra hunder
  have hline : isUnderline line = true := by simpa using hunder
  have hmem : line ∈ words t := by
    rw [← flatMap_words_splitLines]
    exact List.mem_flatMap.mpr ⟨line, List.mem_of_mem_tail hl, by
      rw [words_of_underline hline]
      simp⟩
  rw [h line hmem] at hline
  exact Bool.noConfusion hline

theorem Tidy.broken {d : Document} (h : Tidy d) (hbreak : d.Breakable) (width : Nat) :
    Tidy (d.broken (wrapping width)) where
  document := h.document.broken (fair_wrapping width)
  summary := by
    apply hasNoHeader_of_words
    intro word hword
    apply hbreak.headDashes
    rw [← Document.headWords_broken (fair_wrapping width)]
    exact List.mem_append_left _ hword
  extended t ht := by
    apply hasNoHeader_of_words
    intro word hword
    apply hbreak.headDashes
    rw [← Document.headWords_broken (fair_wrapping width)]
    apply List.mem_append_right
    rw [Option.mem_def.mp ht]
    exact hword
  paramTypes p hp := by
    obtain ⟨old, hold, rfl⟩ := List.mem_map.mp hp
    exact h.paramTypes old hold
  valueTypes doc hdoc := by
    obtain ⟨old, hold, rfl | rfl⟩ := Document.exists_of_mem_values hdoc
    · exact h.valueTypes old hold
    · exact h.valueTypes old hold
  exceptions := by
    have hnames : (d.broken (wrapping width)).raises.map RaiseEntry.exception =
        d.raises.map RaiseEntry.exception := by
      simp [Document.broken, RaiseEntry.broken, Function.comp_def]
    rw [hnames]
    exact h.exceptions
  examples := h.examples
  freeTexts kind hkind t ht := by
    rw [Document.freeTexts_broken] at ht
    obtain ⟨old, hold, rfl⟩ := List.mem_map.mp ht
    apply hasNoHeader_of_words
    rw [(fair_wrapping width).free.words]
    exact hbreak.freeDashes kind hkind old (List.mem_filter.mp hold).1

end Numpy

/-! ## Field lists -/

namespace Rest

theorem fair_wrapping (width : Nat) : (wrapping width).Fair where
  head := ⟨width, rfl⟩
  param _ := Layout.Breaking.fair_entry _ _ _ _
  returns _ := Layout.Breaking.fair_entry _ _ _ _
  yields _ := Layout.Breaking.fair_entry _ _ _ _
  raise _ := Layout.Breaking.fair_entry _ _ _ _
  free := Layout.Breaking.fair_prose _

/-- A line is no marker if no word of it starts with a colon and none is two dots. -/
theorem classify_of_words {line : Line} (hcolon : ∀ word ∈ words line, word.head? ≠ some ':')
    (hdots : "..".toList ∉ words line) : classify line = none := by
  have hfield : field? line = none := by
    unfold field?
    split
    · rename_i c rest
      obtain ⟨word, more, hwords⟩ := exists_first_word (c :: rest) (c := ':') (by decide)
      exact absurd rfl (hcolon (':' :: word) (by simp [hwords]))
    · rfl
  have hdirective : directive? line = none := by
    unfold directive?
    split
    · rename_i c rest
      split
      · rfl
      · rename_i hspace
        have hwords : words ("..".toList ++ c :: rest) = "..".toList :: words rest :=
          words_append_space "..".toList rest (by simpa using hspace)
        have hmem : "..".toList ∈ words ("..".toList ++ c :: rest) :=
          hwords ▸ List.mem_cons_self
        exact absurd hmem hdots
    · rfl
  rw [classify, hfield, hdirective]
  rfl

theorem Tidy.broken {d : Document} (h : Tidy d) (hbreak : d.Breakable) (width : Nat) :
    Tidy (d.broken (wrapping width)) where
  document := h.document.broken (fair_wrapping width)
  marks line hl := by
    have hmem : ∀ word ∈ words line, word ∈ d.headWords := fun word hword => by
      rw [← Document.headWords_broken (fair_wrapping width)]
      exact Document.mem_headWords hl hword
    exact classify_of_words (fun word hword => (hbreak.colons word (hmem word hword)).1)
      fun hdots => hbreak.dots _ (hmem _ hdots) rfl
  paramTypes p hp := by
    obtain ⟨old, hold, rfl⟩ := List.mem_map.mp hp
    exact h.paramTypes old hold
  valueTypes doc hdoc := by
    obtain ⟨old, hold, rfl | rfl⟩ := Document.exists_of_mem_values hdoc
    · exact h.valueTypes old hold
    · exact h.valueTypes old hold
  exceptions r hr := by
    obtain ⟨old, hold, rfl⟩ := List.mem_map.mp hr
    exact h.exceptions old hold

end Rest

/-! ## All styles -/

namespace Style

theorem fair_wrapping (style : Style) (width : Nat) : (style.wrapping width).Fair := by
  cases style with
  | rest => exact Rest.fair_wrapping width
  | google => exact Google.fair_wrapping width
  | numpy => exact Numpy.fair_wrapping width
  | plain => exact Numpy.fair_wrapping width

theorem Carries.document {style : Style} {d : Document} (h : style.Carries d) : d.Tidy := by
  cases style with
  | rest => exact Rest.Tidy.document h
  | google => exact Google.Tidy.document h
  | numpy => exact Numpy.Tidy.document h
  | plain => exact h.elim

theorem Carries.ne_plain {style : Style} {d : Document} (h : style.Carries d) :
    style ≠ .plain := by
  rintro rfl
  exact h

/-- A style that can carry a document can carry it with its lines broken. -/
theorem Carries.broken {style : Style} {d : Document} (h : style.Carries d)
    (hbreak : d.Breakable) (width : Nat) : style.Carries (style.broken width d) := by
  cases style with
  | rest => exact Rest.Tidy.broken h hbreak width
  | google => exact Google.Tidy.broken h hbreak width
  | numpy => exact Numpy.Tidy.broken h hbreak width
  | plain => exact h.elim

/-- Up to defaults, a style reads back what it was given. -/
theorem meaning_of_content {style : Style} {d e : Document} (h : e.content = style.reread d) :
    e.withoutDefaults.meaning = d.withoutDefaults.meaning := by
  have hvalue : ∀ doc, (style.rereadValue doc).meaning = doc.meaning := by
    cases style with
    | rest => exact Rest.rereadValue_meaning
    | _ => exact ReturnDoc.reread_meaning
  have hparam : ∀ p, (style.rereadParam p).reread = p.reread := by
    intro p
    cases style with
    | numpy => simp only [rereadParam, Parameter.reread, Parameter.meaning_meaning]
    | _ => exact p.reread_reread
  have hwithout : ∀ d : Document, d.withoutDefaults.meaning =
      { d.meaning with parameters := d.parameters.map Parameter.reread } := by
    intro d
    simp only [Document.withoutDefaults, Document.meaning, List.map_map]
    rfl
  have hsame : e.content = (style.reread d).content := h
  have hmeaning := Document.meaning_congr hsame
  have hparameters : e.parameters = d.parameters.map style.rereadParam :=
    congrArg Document.parameters h
  rw [hwithout, hwithout, hmeaning, reread, Document.meaning_reread d hvalue, hparameters,
    List.map_map]
  simp only [Function.comp_def, hparam]

end Style

/-- Whatever the width, a written document can be read, and what is read back says what the document
says, up to white space in its prose. -/
theorem wrapping_changes_only_white_space {style : Style} {d : Document}
    (hcarries : style.Carries d) (hbreak : d.Breakable) (width : Nat) :
    ∃ e, style.parse (style.render d width) = .ok e ∧
      e.withoutDefaults.meaning.collapsed = d.withoutDefaults.meaning.collapsed := by
  have hstyle := hcarries.ne_plain
  obtain ⟨_, e, hparse, hcontent⟩ := Style.parse_render (hcarries.broken hbreak width)
    (Style.unwrapped_broken hstyle d width)
  rw [Style.render_broken hstyle d (le_refl width)] at hparse
  refine ⟨e, hparse, ?_⟩
  rw [Style.meaning_of_content hcontent, Document.collapsed_meaning_withoutDefaults,
    Document.collapsed_meaning_withoutDefaults]
  exact congrArg Document.withoutDefaults
    (Document.collapsed_meaning_broken (style.fair_wrapping width) hcarries.document)

/-- A document with texts of several lines, all of them longer than the narrowest width. -/
def Document.ribbon : Document where
  summary := "Fit a model to many points at once.\nNo point is left out of it.".toList
  extended := some "Every point counts, so that\n\n    fit(points, many=True)\n\nis slow.".toList
  parameters :=
    [{ name := "points".toList, type := some "dict[str, int]".toList
       description := some "Points of a plane: one per row.\n\n  Sorted by column.".toList },
      { name := "more".toList, kind := .varPositional }]
  returns :=
    some { type := some "list[int]".toList
           description := some "The fit: one number per point.".toList }
  yields := some { description := some "One step after the other, as they come.".toList }
  raises :=
    [{ exception := "ValueError".toList
       description := some "If there are no points at all.".toList }]
  examples := [">>> fit({})\n[]".toList]
  notes := ["Known since long ago, and never mended.".toList]

theorem the_narrowest_docstring_reads_back :
    let d := Document.ribbon
    Style.google.Carries d ∧ d.Breakable ∧
      Style.google.render d 0 ≠ Style.google.render d 88 ∧
      ∃ e, Style.google.parse (Style.google.render d 0) = .ok e ∧
        e.withoutDefaults.meaning.collapsed = d.withoutDefaults.meaning.collapsed := by
  intro d
  have hcarries : Style.google.Carries d := by decide +kernel
  have hbreak : d.Breakable := by decide +kernel
  exact ⟨hcarries, hbreak, by decide +kernel,
    wrapping_changes_only_white_space hcarries hbreak 0⟩

end Docstring
