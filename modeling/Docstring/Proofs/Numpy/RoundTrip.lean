-- Reading undoes writing in the NumPy style: a document that the style can carry comes back with
-- its meaning, the defaults of its parameters included.
import Docstring.Proofs.Numpy.Default
import Docstring.Proofs.Numpy.Outline
import Docstring.Proofs.Numpy.Walk

namespace Docstring.Numpy

open Text

/-! ## Parameters -/

theorem splitCommas_of_notMem {t : Text} (h : ',' ∉ t) : splitCommas t = [t] := by
  induction t with
  | nil => rfl
  | cons c t ih =>
    simp only [List.mem_cons, not_or] at h
    simp [splitCommas, Ne.symm h.1, ih h.2]

theorem splitDefault_suffix {d : Document} (h : Tidy d) {p : Parameter} (hp : p ∈ d.parameters)
    {suffix : Text} (hs : paramSuffix p = some suffix) :
    splitDefault suffix = (p.type, p.default) := by
  unfold paramSuffix at hs
  split at hs
  · rename_i type default ht hd
    obtain ⟨htype, hfree⟩ := h.type hp (t := type) (by simp [ht])
    obtain ⟨hdefault, _⟩ := h.default hp (t := default) (by simp [hd])
    injection hs with hs
    rw [← hs, splitDefault_both htype hdefault hfree, ht, hd]
  · rename_i type ht hd
    obtain ⟨htype, hfree⟩ := h.type hp (t := type) (by simp [ht])
    injection hs with hs
    rw [← hs, splitDefault_type htype hfree, ht, hd]
  · rename_i default ht hd
    obtain ⟨hdefault, hfree⟩ := h.default hp (t := default) (by simp [hd])
    injection hs with hs
    rw [← hs, splitDefault_default hdefault hfree, ht, hd]
  · simp at hs

/-- The name before the colon has a space behind it, which does not count. -/
theorem splitName_display_space {p : Parameter} (hname : isIdentifier p.name = true) :
    ParamKind.splitName (p.display ++ [' ']) = (p.meaning.kind, p.name) := by
  have hline := Parameter.isOneLine_display hname
  have htrim : trim (p.display ++ [' ']) = trim p.display := by
    rw [trim_append_space hline.opens hline.trimEnd isSpace_space, hline.trimmed]
  rw [← Parameter.splitName_display hname, ParamKind.splitName, ParamKind.splitName, htrim]

theorem cutAtColon?_suffix {p : Parameter} (suffix : Text) (hname : isIdentifier p.name = true) :
    cutAtColon? (p.display ++ ' ' :: ':' :: ' ' :: suffix) =
      some (p.display ++ [' '], ' ' :: suffix) := by
  have hplain : ∀ c ∈ p.display ++ [' '], isOpening c = false ∧ isClosing c = false := by
    intro c hc
    have hmem : ∀ x, isNameChar x = false → x ≠ '*' → x ≠ ' ' → c ≠ x := by
      rintro x hx hstar hspace rfl
      rcases List.mem_append.mp hc with hc | hc
      · exact Parameter.notMem_display hname hx hstar hc
      · exact hspace (List.mem_singleton.mp hc)
    simp [isOpening, isClosing, hmem '(' (by decide) (by decide) (by decide),
      hmem '[' (by decide) (by decide) (by decide), hmem '{' (by decide) (by decide) (by decide),
      hmem ')' (by decide) (by decide) (by decide), hmem ']' (by decide) (by decide) (by decide),
      hmem '}' (by decide) (by decide) (by decide)]
  have hcolon : ':' ∉ p.display ++ [' '] := by
    simp [Parameter.notMem_display (c := ':') hname (by decide) (by decide)]
  have hcut := cutAtColon?_append (' ' :: suffix) (balancedFrom_of_plain 0 hplain)
    (cutAtColon?_of_notMem hcolon)
  simpa using hcut

/-- Reading the entries of a section one by one. -/
def entryReader (add : Document → Entry → ParseResult) :
    Reader Document Entry Entry ParseFailure :=
  ⟨Document.content, add, id⟩

theorem addParam_display {p : Parameter} {raw : Text} (head : Line) (d : Document)
    (hname : isIdentifier p.name = true)
    (hraw : ParamKind.splitName raw = (p.meaning.kind, p.name)) :
    addParam head p.type p.default (p.description.getD []) d raw =
      .ok (d.addParameter p.meaning) := by
  simp only [addParam, hraw, hname, if_true]
  rfl

theorem reads_param {d : Document} (h : Tidy d) {p : Parameter} (hp : p ∈ d.parameters)
    {c : Document} (hnew : p.name ∉ c.parameters.map Parameter.name) :
    (entryReader addParams).Reads
      [⟨some (paramHead p), wholeDescription (p.description.getD [])⟩] c
      { c with parameters := c.parameters ++ [p.meaning] } := by
  have hname := h.document.names p hp
  have htext := h.document.param_description hp
  apply Reader.reads_singleton
  rintro e rfl d' hd
  change d'.content = c at hd
  have hcomma : ',' ∉ p.display :=
    Parameter.notMem_display hname (by decide) (by decide)
  refine ⟨d'.addParameter p.meaning, ?_, ?_⟩
  · simp only [entryReader, addParams, description?_wholeDescription _ htext, unlessEmpty_getD]
    cases hs : paramSuffix p with
    | none =>
      obtain ⟨hhead, htype, hdefault⟩ := paramHead_of_none hs
      have hcut : cutAtColon? p.display = none := cutAtColon?_of_notMem
        (Parameter.notMem_display hname (by decide) (by decide))
      have hadd := addParam_display p.display d' hname (Parameter.splitName_display hname)
      rw [htype, hdefault] at hadd
      rw [hhead, hcut]
      dsimp only
      rw [splitCommas_of_notMem hcomma, List.foldlM_cons, hadd]
      rfl
    | some suffix =>
      have hsuffix := h.isOneLine_suffix hp hs
      have hadd := addParam_display (paramHead p) d' hname (splitName_display_space hname)
      have hnames : ',' ∉ p.display ++ [' '] := by simp [hcomma]
      rw [paramHead_of_suffix hs] at hadd ⊢
      rw [cutAtColon?_suffix suffix hname]
      dsimp only
      rw [trim_space_cons suffix isSpace_space, hsuffix.trimmed, splitDefault_suffix h hp hs,
        splitCommas_of_notMem hnames]
      dsimp only
      rw [List.foldlM_cons, hadd]
      rfl
  · have hfresh : p.meaning.name ∉ d'.content.parameters.map Parameter.name := by
      rw [hd]
      exact hnew
    change (d'.addParameter p.meaning).content = _
    rw [Document.content_addParameter hfresh, hd]

/-! ## Returns and exceptions -/

@[simp] theorem entries_nil : entries [] = [] := rfl

theorem content_setReturn (kind : SectionKind) (d : Document) (doc : ReturnDoc) :
    (setReturn kind d doc).content = setReturn kind d.content doc := by
  unfold setReturn
  split <;> rfl

/-- The section of a value has one entry at most, which gives the value back. -/
theorem addReturn_value {d : Document} (h : Tidy d) {doc : ReturnDoc} (hdoc : doc ∈ d.values)
    (kind : SectionKind) (d' : Document) :
    addReturn kind d' (sectioning.value doc) = .ok (setReturn kind d' doc.reread) := by
  have htext := h.document.value_description hdoc
  change addReturn kind d' (doc.type.toList ++ wholeDescription (doc.description.getD [])) = _
  cases ht : doc.type with
  | some type =>
    obtain ⟨hline, hcolon⟩ := h.valueTypes doc hdoc type (by simp [ht])
    have hentries := entries_flatMap (fun _ => type) (fun _ => doc.description.getD [])
      (fun _ (_ : _ ∈ [()]) => hline.opens) (fun _ _ => htext)
    simp only [List.flatMap_cons, List.flatMap_nil, List.append_nil, List.map_cons,
      List.map_nil] at hentries
    have hread : doc.reread =
        { type := some type, description := (doc.description.getD []).unlessEmpty } := by
      simp [ReturnDoc.reread, ht]
    simp only [Option.toList_some, List.singleton_append, addReturn, hentries, returnEntry, hcolon,
      hline.trimmed, nonEmpty?_of_ne hline.nonempty, description?_wholeDescription _ htext, hread]
    simp [Document.warnAll]
  | none =>
    rcases htext with hnil | hblock
    · have hread : doc.reread = .opened := by simp [ReturnDoc.reread, ht, hnil, ReturnDoc.opened]
      simp [hnil, wholeDescription, isBlank, addReturn, hread]
    · have hread : doc.reread = { description := some (doc.description.getD []) } := by
        simp [ReturnDoc.reread, ht]
      have hdesc := description?_wholeDescription none (Or.inr hblock : IsDescription _)
      rw [unlessEmpty_of_ne hblock.ne_nil] at hdesc
      simp only [Option.toList_none, List.nil_append, addReturn, entries_description hblock,
        returnEntry, hdesc, hread]
      simp [Document.warnAll]

theorem reads_raise {r : RaiseEntry} (c : Document) (hline : IsOneLine r.exception)
    (htext : IsDescription (r.description.getD [])) :
    (entryReader addRaise).Reads
      [⟨some r.exception, wholeDescription (r.description.getD [])⟩] c
      { c with raises := c.raises ++ [r.reread] } := by
  apply Reader.reads_singleton
  rintro e rfl d hd
  change d.content = c at hd
  refine ⟨{ d with raises := d.raises ++ [r.reread] }, ?_, ?_⟩
  · simp only [entryReader, addRaise, hline.trimmed, description?_wholeDescription _ htext]
    rfl
  · rw [← hd]
    rfl

/-! ## Sections -/

/-- Reading a document section by section. -/
def reader : Reader Document Block (SectionKind × List Line) ParseFailure :=
  ⟨Document.content, addBlock, Block.shape⟩

/-- A section adds what its lines say. -/
theorem reads_body {kind : SectionKind} {body : List Line} {c c' : Document}
    (h : ∀ d b, b.kind = kind → trimBlankLines b.body = body → d.content = c →
      ∃ d', addBlock d b = .ok d' ∧ d'.content = c') :
    reader.Reads [(kind, body)] c c' := by
  apply Reader.reads_singleton
  rintro b hshape d hd
  simp only [reader, Block.shape, Prod.mk.injEq] at hshape
  exact h d b hshape.1 hshape.2 hd

section Sections

variable {d : Document}

theorem reads_params_section (h : Tidy d) {c : Document} (hc : c.parameters = []) :
    reader.Reads [(.params, d.parameters.flatMap sectioning.param)] c
      { c with parameters := d.parameters.map Parameter.meaning } := by
  have hfound := entries_flatMap paramHead (fun p => p.description.getD [])
    (fun p hp => (h.isOneLine_paramHead hp).opens)
    (fun p hp => h.document.param_description hp)
  have hreads := Reader.reads_parameters (r := entryReader addParams)
    d.parameters Parameter.meaning (fun _ => rfl) h.document.distinct
    (fun p hp c hnew => reads_param h hp hnew) (c := c) (by simp [hc])
  rw [← List.map_eq_flatMap, hc, List.nil_append] at hreads
  refine reads_body ?_
  rintro d' ⟨kind, first, body⟩ rfl hbody hd
  obtain ⟨d'', hfold, hd''⟩ := hreads _ (List.map_id _)
    (d'.recordSection (Block.mk .params first body).span) hd
  refine ⟨d'', ?_, hd''⟩
  simp only [addBlock, hbody]
  exact (congrArg (fun found => List.foldlM addParams _ found) hfound).trans hfold

theorem reads_raises_section (h : Tidy d) (c : Document) :
    reader.Reads [(.raises, d.raises.flatMap sectioning.raise)] c
      { c with raises := c.raises ++ d.raises.map RaiseEntry.reread } := by
  have hfound := entries_flatMap RaiseEntry.exception (fun r => r.description.getD [])
    (fun r hr => (h.document.exceptions r hr).opens)
    (fun r hr => h.document.raise_description hr)
  have hreads := Reader.reads_map (r := entryReader addRaise) (fun r hr c =>
    reads_raise c (h.document.exceptions r hr) (h.document.raise_description hr)) c
  rw [foldl_raises] at hreads
  refine reads_body ?_
  rintro d' ⟨kind, first, body⟩ rfl hbody hd
  obtain ⟨d'', hfold, hd''⟩ := hreads _ (List.map_id _)
    (d'.recordSection (Block.mk .raises first body).span) hd
  refine ⟨d'', ?_, hd''⟩
  simp only [addBlock, hbody]
  exact (congrArg (fun found => List.foldlM addRaise _ found) hfound).trans hfold

/-- A block starts at the first column, so its lines share no indentation. -/
theorem dedent_of_block {lines : List Line} (h : IsBlock lines) : dedent lines = lines := by
  obtain ⟨first, rest, hs, hfirst⟩ := h.exists_cons
  have hzero : 0 ∈ (lines.filter fun line => !isBlank line).map indentWidth := by
    rw [List.mem_map]
    refine ⟨first, ?_, indentWidth_of_opensWithInk hfirst⟩
    simp [hs, not_blank_of_opensWithInk hfirst]
  have hcommon : commonIndent? lines = some 0 :=
    List.min?_eq_some_iff.mpr ⟨hzero, fun n _ => Nat.zero_le n⟩
  rw [dedent, hcommon]
  conv => rhs; rw [← List.map_id lines]
  apply List.map_congr_left
  intro line hl
  simp only [Option.getD_some, unindent, stripColumns_zero, id]
  split
  · rename_i hb
    rw [(h.clean line hl).blank_iff.mp hb]
  · rfl

/-- The sections of a written document give the document back. -/
theorem reads_document (h : Tidy d) :
    reader.Reads (sectioning.sections d) d.headOnly
      (d.reread Parameter.meaning ReturnDoc.reread) := by
  have hpairs : (sectioning.sections d).map (fun s => (s.1, s.2)) = sectioning.sections d :=
    List.map_id _
  rw [← hpairs]
  refine Sectioning.reads_sections (fun kind body => (kind, body)) _
    (fun _ c hc => reads_params_section h hc) ?_ ?_ (fun _ c => reads_raises_section h c) ?_ ?_
  · intro doc hdoc c
    have hmem : doc ∈ d.values := List.mem_append_left _ (by simpa using hdoc)
    refine reads_body ?_
    rintro d' ⟨kind, first, body⟩ rfl hbody hd
    refine ⟨_, (congrArg _ hbody).trans (addReturn_value h hmem _ _), ?_⟩
    rw [content_setReturn, ← hd]
    rfl
  · intro doc hdoc c
    have hmem : doc ∈ d.values := List.mem_append_right _ (by simpa using hdoc)
    refine reads_body ?_
    rintro d' ⟨kind, first, body⟩ rfl hbody hd
    refine ⟨_, (congrArg _ hbody).trans (addReturn_value h hmem _ _), ?_⟩
    rw [content_setReturn, ← hd]
    rfl
  · intro t ht c
    have hblock := h.document.examples t ht
    refine reads_body ?_
    rintro d' ⟨kind, first, body⟩ rfl hbody hd
    refine ⟨_, rfl, ?_⟩
    rw [← hd]
    simp [Document.content, Document.recordSection, Document.addExample, hbody, hblock.joinProse?]
  · intro kind hkind t ht c
    have hblock := h.document.freeTexts kind (SectionKind.mem_order kind) t ht
    refine reads_body ?_
    rintro d' ⟨k, first, body⟩ hk hbody hd
    simp only at hk
    subst hk
    refine ⟨(d'.recordSection (Block.mk k first body).span).addFreeText t k, ?_, ?_⟩
    · simp only [addBlock, hbody, dedent_of_block hblock, hblock.joinProse?]
      cases k <;> first | rfl | simp [SectionKind.isFreeText] at hkind
    · rw [← hd]
      cases k <;> rfl

end Sections

/-! ## Documents -/

theorem atHeader_append {tail below : List Line} (h : HasNoHeader tail)
    (hbelow : below.head?.getD [] = []) : atHeader (tail ++ below) = false ∨ tail = [] := by
  match tail with
  | [] => exact Or.inr rfl
  | [line] =>
    left
    cases below with
    | nil => rfl
    | cons next below =>
      have hempty : next = [] := hbelow
      simp [atHeader, hempty]
  | first :: second :: rest =>
    left
    simp [atHeader, (List.isChain_cons_cons.mp h).1]

/-- Reading a document that was written with every line whole, if its sections have no headers of
their own and can be read one by one. -/
theorem parse_of_reads {d c : Document} (hhead : d.headOnly.Tidy)
    (hsummary : HasNoHeader (splitLines d.summary))
    (hextended : ∀ t ∈ d.extended, HasNoHeader (splitLines t))
    (hbody : ∀ s ∈ sectioning.sections d, IsBody s.2)
    (hreads : reader.Reads (sectioning.sections d) d.headOnly c) :
    ∃ d', parse (sectioning.text d) = .ok d' ∧ d'.content = c := by
  have hblocks : ∀ b ∈ sectioning.blocks d, IsBlock b := by
    intro b hb
    obtain ⟨s, hs, rfl⟩ := List.mem_map.mp hb
    exact isBlock_under s.1 (hbody s hs)
  obtain ⟨n, hcut⟩ := Layout.cut_separate atHeader atHeader hhead hblocks
    (fun tail below htail hne hbelow =>
      (atHeader_append (hsummary.suffix htail) hbelow).resolve_right hne)
    (fun t ht tail below htail hne hbelow =>
      (atHeader_append ((hextended t ht).suffix htail) hbelow).resolve_right hne)
    (fun below => by cases below <;> simp [atHeader])
    (Sectioning.mark_separate_blocks fun kind body more => by
      simp [sectioning, headerLines, atHeader, ← dashes.eq_1, header?_title])
  obtain ⟨hshapes, hstop⟩ := outline_separate n hbody
  obtain ⟨d', hfold, hd'⟩ := hreads _ hshapes
    (Head.document ⟨d.summary, d.extended, n, Layout.separate (sectioning.blocks d)⟩ .numpy) rfl
  refine ⟨d', parse_eq_ok_iff.mpr ?_, hd'⟩
  have hnormal : normalLines (sectioning.text d) =
      Layout.separate (Layout.wholeHead d.headOnly ++ sectioning.blocks d) :=
    Layout.normalLines_wholeHead_append (d := d.headOnly) hhead hblocks
  rw [hnormal, hcut]
  exact ⟨hstop, hfold⟩

/-- Reading a document that was written with every line whole. -/
theorem parse_text {d : Document} (h : Tidy d) :
    ∃ d', parse (sectioning.text d) = .ok d' ∧
      d'.content = d.reread Parameter.meaning ReturnDoc.reread :=
  parse_of_reads h.document.headOnly h.summary h.extended
    (fun _ hs => h.isBody (Sectioning.mem_bodies_of_mem_sections hs)) (reads_document h)

theorem sectionLines_reread (d : Document) (kind : SectionKind) (width : Nat) :
    sectionLines (d.reread Parameter.meaning ReturnDoc.reread) kind width =
      sectionLines d kind width := by
  have hparam : ∀ p : Parameter, paramLines width p.meaning = paramLines width p := by
    intro p
    simp only [paramLines, paramHead, p.display_meaning]
    rfl
  have hvalue : ∀ doc : ReturnDoc, returnLines width doc.reread = returnLines width doc := by
    intro doc
    unfold returnLines ReturnDoc.reread descriptionLines
    cases doc.type <;> simp
  have hraise : ∀ r : RaiseEntry, raiseLines width r.reread = raiseLines width r := by
    intro r
    simp [raiseLines, descriptionLines, RaiseEntry.reread]
  have hfree := d.freeTexts_reread Parameter.meaning ReturnDoc.reread kind
  cases kind with
  | params => simp [sectionLines, Document.reread, Function.comp_def, hparam]
  | returns => cases hr : d.returns <;> simp [sectionLines, Document.reread, hr, hvalue]
  | yields => cases hy : d.yields <;> simp [sectionLines, Document.reread, hy, hvalue]
  | raises => simp [sectionLines, Document.reread, Function.comp_def, hraise]
  | examples => rfl
  | notes => simp only [sectionLines, hfree]
  | warnings => simp only [sectionLines, hfree]
  | seeAlso => simp only [sectionLines, hfree]
  | references => simp only [sectionLines, hfree]

/-- What the style leaves out of a document does not show when it is written. -/
theorem render_reread (d : Document) (width : Nat) :
    render (d.reread Parameter.meaning ReturnDoc.reread) width = render d width := by
  simp only [render, sectionLines_reread]
  rfl

/-- A document that the NumPy style can carry, written at a width that wraps no line, reads back:
the parser accepts the text, and the result says all that was written, defaults included. -/
theorem a_numpy_docstring_reads_back {d : Document} {width : Nat} (htidy : Tidy d)
    (hwidth : Style.numpy.Unwrapped d width) :
    ∃ d', parse (render d width) = .ok d' ∧
      d'.content = d.reread Parameter.meaning ReturnDoc.reread ∧ d'.meaning = d.meaning := by
  obtain ⟨d', hparse, hcontent⟩ := parse_text htidy
  refine ⟨d', ?_, hcontent, ?_⟩
  · have hrender : render d width = sectioning.text d :=
      Style.render_of_unwrapped .numpy (fun _ => render_of_fits htidy) hwidth
    rw [hrender, hparse]
  · have hsame : d'.content = (d.reread Parameter.meaning ReturnDoc.reread).content := by
      rw [hcontent]
      rfl
    rw [Document.meaning_congr hsame, Document.meaning_reread d ReturnDoc.reread_meaning]
    simp only [Parameter.meaning_meaning]
    rfl

theorem the_specimen_reads_back_from_numpy :
    Tidy Document.specimen ∧ Style.numpy.Unwrapped Document.specimen 88 ∧
      ∃ d', parse (render Document.specimen 88) = .ok d' ∧
        d'.content = Document.specimen.reread Parameter.meaning ReturnDoc.reread ∧
        d'.meaning = Document.specimen.meaning := by
  have htidy : Tidy Document.specimen := by decide +kernel
  have hfits : Layout.Fits (sectioning.whole Document.specimen) 88 := by decide +kernel
  have hwidth : Style.numpy.Unwrapped Document.specimen 88 :=
    Style.unwrapped_of_fits .numpy (fun _ => render_of_fits htidy) hfits
  exact ⟨htidy, hwidth, a_numpy_docstring_reads_back htidy hwidth⟩

end Docstring.Numpy
