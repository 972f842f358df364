-- Reading undoes writing in the Google style: a document that the style can carry comes back with
-- its meaning, apart from the defaults of its parameters.
import Docstring.Proofs.Google.Outline
import Docstring.Proofs.Google.Walk

namespace Docstring.Google

open Text

/-! ## Parameters -/

theorem isParamName_display {p : Parameter} (h : isIdentifier p.name = true) :
    isParamName p.display = true := by
  have hbare : p.display.dropWhile (· = '*') = p.name := by
    have hstar : '*' ∉ p.name := notMem_of_isIdentifier h (by decide)
    obtain ⟨c, rest, hname⟩ := List.exists_cons_of_ne_nil (isIdentifier_ne_nil h)
    have hc : c ≠ '*' := fun he => hstar (by simp [hname, he])
    rw [Parameter.display_eq]
    cases p.kind <;> simp [ParamKind.stars, hname, hc]
  have hlength : p.display.length - p.name.length ≤ 2 := by
    rw [Parameter.display_eq]
    cases p.kind <;> simp only [ParamKind.stars, List.length_append, List.length_cons,
      List.length_nil] <;> omega
  simp only [isParamName, hbare, hlength, decide_true, Bool.true_and]
  cases hname : p.name with
  | nil => exact absurd hname (isIdentifier_ne_nil h)
  | cons c rest =>
    rw [hname] at h
    simp only [isIdentifier, Bool.and_eq_true, List.all_eq_true, Bool.or_eq_true] at h ⊢
    exact ⟨h.1, fun x hx => Or.inl (h.2 x hx)⟩

/-- A name ends where a character stands that ends names. -/
theorem takeWhile_display {p : Parameter} {c : Char} (rest : Text)
    (h : isIdentifier p.name = true) (hc : endsName c = true) :
    (p.display ++ c :: rest).takeWhile (fun c => !endsName c) = p.display ∧
      (p.display ++ c :: rest).dropWhile (fun c => !endsName c) = c :: rest := by
  have hinside : ∀ x ∈ p.display, (!endsName x) = true := by
    intro x hx
    have hspace := Parameter.not_space_of_mem_display h x hx
    have hparen : x ≠ '(' := fun he =>
      Parameter.notMem_display h (by decide) (by decide) (he ▸ hx)
    have hcolon : x ≠ ':' := fun he =>
      Parameter.notMem_display h (by decide) (by decide) (he ▸ hx)
    simp [endsName, hspace, hparen, hcolon]
  constructor
  · rw [List.takeWhile_append_of_pos hinside]
    simp [hc]
  · rw [List.dropWhile_append_of_pos hinside]
    simp [hc]

theorem trimStart_colon (rest : Text) : trimStart (':' :: rest) = ':' :: rest :=
  trimStart_of_opensWithInk rfl

/-- The head of a written parameter is read as its name, its type and what stands beside. -/
theorem paramHead?_paramLead {p : Parameter} (first : Text) (hname : isIdentifier p.name = true)
    (htype : ∀ t ∈ p.type, IsOneLine t ∧ isBalanced t = true) :
    paramHead? (paramLead p ++ first) = some ⟨p.display, p.type, first⟩ := by
  unfold paramLead paramHead?
  cases ht : p.type with
  | none =>
    obtain ⟨htake, hdrop⟩ := takeWhile_display (c := ':') first hname (by decide)
    simp only [List.append_assoc, List.singleton_append, htake, hdrop, trimStart_colon,
      isParamName_display hname]
    rfl
  | some type =>
    obtain ⟨hline, hbalanced⟩ := htype type (by simp [ht])
    obtain ⟨htake, hdrop⟩ :=
      takeWhile_display (c := ' ') ('(' :: (type ++ ')' :: ':' :: first)) hname (by decide)
    have hparen : trimStart (' ' :: '(' :: (type ++ ')' :: ':' :: first)) =
        '(' :: (type ++ ')' :: ':' :: first) := by
      have hspace : isSpace '(' = false := by decide
      simp [trimStart, hspace]
    have hclose : cutAtClose? 1 (type ++ ')' :: ':' :: first) = some (type, ':' :: first) :=
      cutAtClose?_append 0 _ hbalanced
    have hshape : p.display ++ " (".toList ++ type ++ "):".toList ++ first =
        p.display ++ ' ' :: '(' :: (type ++ ')' :: ':' :: first) := by
      simp
    simp only [hshape, htake, hdrop, hparen, hclose, trimStart_colon, hline.trimmed,
      isParamName_display hname]
    rfl

/-- Reading the entries of a section one by one. -/
def entryReader (add : Document → Entry → ParseResult) :
    Reader Document Entry Entry ParseFailure :=
  ⟨Document.content, add, id⟩

theorem reads_param {p : Parameter} {c : Document} (hname : isIdentifier p.name = true)
    (htype : ∀ t ∈ p.type, IsOneLine t ∧ isBalanced t = true)
    (htext : IsDescription (p.description.getD []))
    (hnew : p.name ∉ c.parameters.map Parameter.name) :
    (entryReader (addParam false)).Reads [entryOf (paramLead p) (p.description.getD [])] c
      { c with parameters := c.parameters ++ [p.reread] } := by
  apply Reader.reads_singleton
  rintro e rfl d hd
  have hlead : paramLead p ≠ [] :=
    (isOneLine_paramLead hname fun t ht => (htype t ht).1).nonempty
  have hhead : paramHead? (Layout.beside (paramLead p) (firstLine (p.description.getD []))) =
      some ⟨p.display, p.type, Layout.aside (firstLine (p.description.getD []))⟩ := by
    rw [Layout.beside_eq_aside _ hlead]
    exact paramHead?_paramLead _ hname htype
  refine ⟨d.addParameter p.reread, ?_, ?_⟩
  · change addParam false d (entryOf (paramLead p) (p.description.getD [])) = _
    simp only [addParam, entryOf, hhead, Parameter.splitName_display hname,
      dedentBy_indent bodyIndent htext.clean_laterLines, Layout.description?_aside htext,
      unlessEmpty_getD]
    rfl
  · change (d.addParameter p.reread).content = _
    change d.content = c at hd
    have hfresh : p.reread.name ∉ d.content.parameters.map Parameter.name := by
      rw [hd]
      exact hnew
    rw [Document.content_addParameter hfresh, hd]

/-! ## Returns and exceptions -/

/-- The section of a value is read back; an empty one is read as opened. -/
theorem returnDoc_value {d : Document} (h : Tidy d) {doc : ReturnDoc} (hdoc : doc ∈ d.values) :
    returnDoc (sectioning.value doc) = doc.reread := by
  have htext := h.document.value_description hdoc
  change returnDoc (wholeValue doc) = doc.reread
  unfold wholeValue
  cases ht : doc.type with
  | some type =>
    obtain ⟨htrim, _, htype, hcolon⟩ := h.valueTypes doc hdoc type (by simp [ht])
    have hlead := isOneLine_colon (h.isOneLine_valueType hdoc (t := type) (by simp [ht]))
    have hblock := Layout.isBlock_wholeEntry 0 hlead htext
    have hcut : cutAtColon? (Layout.beside (type ++ [':']) (firstLine (doc.description.getD []))) =
        some (type, Layout.aside (firstLine (doc.description.getD []))) := by
      rw [Layout.beside_eq_aside _ hlead.nonempty, List.append_assoc]
      exact cutAtColon?_append _ (isBalanced_of_looksLikeType htype) hcolon
    unfold returnDoc
    rw [hblock.trimBlankLines]
    simp only [Layout.wholeEntry, hcut, htrim, htype, if_true, indent_zero,
      Layout.description?_aside htext]
    simp [ReturnDoc.reread, ht]
  | none =>
    have huntyped := h.untyped doc hdoc ht
    rcases htext with hnil | hblock
    · simp [hnil, isBlank, ReturnDoc.reread, ht, returnDoc, trimBlankLines, dropBlankStart,
        ReturnDoc.opened]
    · dsimp only
      rw [if_neg (by simp [hblock.not_blank]), wholeEntry_nil_zero]
      have hjoin := hblock.joinProse?
      unfold returnDoc
      rw [hblock.trimBlankLines]
      rw [splitLines_eq_cons] at hjoin ⊢
      simp only [opensWithType] at huntyped
      have hread : doc.reread = { description := some (doc.description.getD []) } := by
        simp [ReturnDoc.reread, ht]
      simp only [hjoin, hread]
      split
      · rename_i left right hcut
        simp only [hcut] at huntyped
        simp [huntyped]
      · rfl

theorem reads_raise {r : RaiseEntry} {c : Document} (hline : IsOneLine r.exception)
    (hbalanced : isBalanced r.exception = true) (hcolon : cutAtColon? r.exception = none)
    (htext : IsDescription (r.description.getD [])) :
    (entryReader addRaise).Reads [entryOf (r.exception ++ [':']) (r.description.getD [])] c
      { c with raises := c.raises ++ [r.reread] } := by
  apply Reader.reads_singleton
  rintro e rfl d hd
  change d.content = c at hd
  have hcut : cutAtColon?
      (Layout.beside (r.exception ++ [':']) (firstLine (r.description.getD []))) =
      some (r.exception, Layout.aside (firstLine (r.description.getD []))) := by
    rw [Layout.beside_eq_aside _ (isOneLine_colon hline).nonempty, List.append_assoc]
    exact cutAtColon?_append _ hbalanced hcolon
  refine ⟨{ d with raises := d.raises ++ [r.reread] }, ?_, ?_⟩
  · change addRaise d (entryOf (r.exception ++ [':']) (r.description.getD [])) = _
    simp only [addRaise, entryOf, hcut, hline.trimmed,
      dedentBy_indent bodyIndent htext.clean_laterLines, Layout.description?_aside htext]
    rfl
  · rw [← hd]
    rfl

/-! ## Sections -/

/-- Reading a document section by section. -/
def reader : Reader Document Block (SectionKind × Bool × List Line) ParseFailure :=
  ⟨Document.content, addBlock, Block.shape⟩

/-- A section of entries adds what its entries add. -/
theorem reads_entries {kind : SectionKind} (add : Document → Entry → ParseResult)
    {body : List Line} {found : List Entry} {c c' : Document}
    (hadd : ∀ d b, b.kind = kind → b.keywordOnly = false →
      addBlock d b = addEntries add (d.recordSection b.span) (dedentBy bodyIndent b.body))
    (hclean : ∀ line ∈ body, IsClean line) (hfound : entries body = .ok found)
    (h : (entryReader add).Reads found c c') :
    reader.Reads [(kind, false, indent bodyIndent body)] c c' := by
  apply Reader.reads_singleton
  rintro ⟨k, keywordOnly, first, lines⟩ hshape d hd
  simp only [reader, Block.shape, Prod.mk.injEq] at hshape
  obtain ⟨rfl, rfl, rfl⟩ := hshape
  obtain ⟨d', hfold, hd'⟩ := h found (List.map_id found) (d.recordSection _) hd
  refine ⟨d', ?_, hd'⟩
  change addBlock d _ = _
  rw [hadd d _ rfl rfl, addEntries, dedentBy_indent bodyIndent hclean, hfound]
  exact hfold

/-- A section without entries adds what its lines say. -/
theorem reads_body {kind : SectionKind} {body : List Line} {c c' : Document}
    (hclean : ∀ line ∈ body, IsClean line)
    (h : ∀ d b, b.kind = kind → dedentBy bodyIndent b.body = body → d.content = c →
      ∃ d', addBlock d b = .ok d' ∧ d'.content = c') :
    reader.Reads [(kind, false, indent bodyIndent body)] c c' := by
  apply Reader.reads_singleton
  rintro ⟨k, keywordOnly, first, lines⟩ hshape d hd
  simp only [reader, Block.shape, Prod.mk.injEq] at hshape
  obtain ⟨rfl, rfl, rfl⟩ := hshape
  exact h d _ rfl (dedentBy_indent bodyIndent hclean) hd

section Sections

variable {d : Document}

theorem reads_params_section (h : Tidy d) (hne : d.parameters ≠ []) {c : Document}
    (hc : c.parameters = []) :
    reader.Reads [(.params, false, indent bodyIndent (d.parameters.flatMap sectioning.param))] c
      { c with parameters := d.parameters.map Parameter.reread } := by
  have hfound := entries_flatMap paramLead (fun p => p.description.getD [])
    (fun p hp => isOneLine_paramLead (h.document.names p hp) fun t ht => (h.paramTypes p hp t ht).1)
    (fun p hp => h.document.param_description hp)
  have hclean := (Layout.isBlock_flatMap hne fun p hp => h.isBlock_param hp).clean
  refine reads_entries (addParam false) ?_ hclean hfound ?_
  · rintro d ⟨kind, keywordOnly, first, body⟩ hkind hkeyword
    simp only at hkind hkeyword
    subst hkind hkeyword
    rfl
  · rw [List.map_eq_flatMap]
    have hreads := Reader.reads_parameters (r := entryReader (addParam false))
      d.parameters Parameter.reread (fun _ => rfl) h.document.distinct
      (fun p hp c hnew => reads_param (h.document.names p hp) (h.paramTypes p hp)
        (h.document.param_description hp) hnew)
      (c := c) (by simp [hc])
    simpa only [hc, List.nil_append] using hreads

theorem reads_raises_section (h : Tidy d) (hne : d.raises ≠ []) (c : Document) :
    reader.Reads [(.raises, false, indent bodyIndent (d.raises.flatMap sectioning.raise))] c
      { c with raises := c.raises ++ d.raises.map RaiseEntry.reread } := by
  have hfound := entries_flatMap (fun r => r.exception ++ [':']) (fun r => r.description.getD [])
    (fun r hr => isOneLine_colon (h.document.exceptions r hr))
    (fun r hr => h.document.raise_description hr)
  have hclean := (Layout.isBlock_flatMap hne fun r hr => h.isBlock_raise hr).clean
  refine reads_entries addRaise ?_ hclean hfound ?_
  · rintro d ⟨kind, keywordOnly, first, body⟩ hkind _
    simp only at hkind
    subst hkind
    rfl
  · rw [← foldl_raises]
    exact Reader.reads_map (fun r hr c => reads_raise (h.document.exceptions r hr)
      (h.exceptions r hr).1 (h.exceptions r hr).2 (h.document.raise_description hr)) c

/-- The sections of a written document give the document back. -/
theorem reads_document (h : Tidy d) :
    reader.Reads ((sectioning.sections d).map fun s => (s.1, false, indent bodyIndent s.2))
      d.headOnly (d.reread Parameter.reread ReturnDoc.reread) := by
  have hvalue : ∀ doc ∈ d.values, ∀ line ∈ sectioning.value doc, IsClean line := by
    intro doc hdoc line hl
    rcases h.value_cases hdoc with hnil | hblock
    · simp [hnil] at hl
    · exact hblock.clean line hl
  refine Sectioning.reads_sections (fun kind body => (kind, false, indent bodyIndent body)) _
    (fun hne c hc => reads_params_section h hne hc) ?_ ?_
    (fun hne c => reads_raises_section h hne c) ?_ ?_
  · intro doc hdoc c
    have hmem : doc ∈ d.values := List.mem_append_left _ (by simpa using hdoc)
    refine reads_body (hvalue doc hmem) ?_
    rintro d' ⟨kind, keywordOnly, first, body⟩ rfl hbody hd
    refine ⟨_, rfl, ?_⟩
    rw [← hd]
    simp [Document.content, Document.recordSection, hbody, returnDoc_value h hmem]
  · intro doc hdoc c
    have hmem : doc ∈ d.values := List.mem_append_right _ (by simpa using hdoc)
    refine reads_body (hvalue doc hmem) ?_
    rintro d' ⟨kind, keywordOnly, first, body⟩ rfl hbody hd
    refine ⟨_, rfl, ?_⟩
    rw [← hd]
    simp [Document.content, Document.recordSection, hbody, returnDoc_value h hmem]
  · intro t ht c
    have hblock := h.document.examples t ht
    refine reads_body hblock.clean ?_
    rintro d' ⟨kind, keywordOnly, first, body⟩ rfl hbody hd
    refine ⟨_, rfl, ?_⟩
    rw [← hd]
    simp [Document.content, Document.recordSection, Document.addExample, hbody, hblock.joinProse?]
  · intro kind hkind t ht c
    have hblock := h.document.freeTexts kind (SectionKind.mem_order kind) t ht
    refine reads_body hblock.clean ?_
    rintro d' ⟨k, keywordOnly, first, body⟩ hk hbody hd
    simp only at hk
    subst hk
    refine ⟨(d'.recordSection (Block.mk k keywordOnly first body).span).addFreeText t k, ?_, ?_⟩
    · simp only [addBlock, hbody, hblock.joinProse?]
      cases k <;> first | rfl | simp [SectionKind.isFreeText] at hkind
    · rw [← hd]
      cases k <;> rfl

end Sections

/-! ## Documents -/

/-- Reading a document that was written with every line whole, if its sections are clean and can be
read one by one. -/
theorem parse_of_reads {d c : Document} (hhead : d.headOnly.Tidy)
    (hheaders : ∀ line ∈ d.headLines, header? line = none)
    (hbody : ∀ s ∈ sectioning.sections d, EndsInk s.2 ∧ ∀ line ∈ s.2, IsClean line)
    (hreads : reader.Reads ((sectioning.sections d).map fun s =>
      (s.1, false, indent bodyIndent s.2)) d.headOnly c) :
    ∃ d', parse (sectioning.text d) = .ok d' ∧ d'.content = c := by
  have hheadless : ∀ tail below, tail ≠ [] → (∀ line ∈ tail, header? line = none) →
      atHeader (tail ++ below) = false := by
    intro tail below hne hnone
    obtain ⟨line, rest, rfl⟩ := List.exists_cons_of_ne_nil hne
    simp [atHeader, isHeader, hnone line (by simp)]
  have hblocks : ∀ b ∈ sectioning.blocks d, IsBlock b := by
    intro b hb
    obtain ⟨s, hs, rfl⟩ := List.mem_map.mp hb
    exact isBlock_under s.1 (hbody s hs)
  obtain ⟨n, hcut⟩ := Layout.cut_separate atHeader atHeader hhead hblocks
    (fun tail below htail hne _ => hheadless tail below hne fun line hl =>
      hheaders line (List.mem_append_left _ (htail.subset hl)))
    (fun t ht tail below htail hne _ => hheadless tail below hne fun line hl =>
      hheaders line (List.mem_append_right _
        (List.mem_flatMap.mpr ⟨t, Option.mem_toList.mpr ht, htail.subset hl⟩)))
    (fun below => by simp [atHeader, isHeader])
    (Sectioning.mark_separate_blocks fun kind body more => by
      simp [sectioning, atHeader, isHeader, header?_headerLine])
  obtain ⟨hshapes, hstop⟩ := outline_separate n (fun s hs => (hbody s hs).2)
    (fun s hs => (hbody s hs).1)
  obtain ⟨d', hfold, hd'⟩ := hreads _ hshapes
    (Head.document ⟨d.summary, d.extended, n, Layout.separate (sectioning.blocks d)⟩ .google) rfl
  refine ⟨d', parse_eq_ok_iff.mpr ?_, hd'⟩
  have hnormal : normalLines (sectioning.text d) =
      Layout.separate (Layout.wholeHead d.headOnly ++ sectioning.blocks d) :=
    Layout.normalLines_wholeHead_append (d := d.headOnly) hhead hblocks
  rw [hnormal, hcut]
  exact ⟨hstop, hfold⟩

/-- Reading a document that was written with every line whole. -/
theorem parse_text {d : Document} (h : Tidy d) :
    ∃ d', parse (sectioning.text d) = .ok d' ∧
      d'.content = d.reread Parameter.reread ReturnDoc.reread :=
  parse_of_reads h.document.headOnly h.headers
    (fun _ hs => h.body_clean (Sectioning.mem_bodies_of_mem_sections hs)) (reads_document h)

theorem sectionLines_reread (d : Document) (kind : SectionKind) (width : Nat) :
    sectionLines (d.reread Parameter.reread ReturnDoc.reread) kind width =
      sectionLines d kind width := by
  have hparam : ∀ p : Parameter, entryLines width (paramLead p.reread) p.reread.description =
      entryLines width (paramLead p) p.description := by
    intro p
    have hdisplay : p.reread.display = p.display := p.display_meaning
    simp only [paramLead, entryLines, hdisplay]
    rfl
  have hvalue : ∀ doc : ReturnDoc, returnLines width doc.reread = returnLines width doc := by
    intro doc
    unfold returnLines ReturnDoc.reread
    cases doc.type <;> simp
  have hfree := d.freeTexts_reread Parameter.reread ReturnDoc.reread kind
  cases kind with
  | params => simp [sectionLines, Document.reread, Function.comp_def, hparam]
  | returns => cases hr : d.returns <;> simp [sectionLines, Document.reread, hr, hvalue]
  | yields => cases hy : d.yields <;> simp [sectionLines, Document.reread, hy, hvalue]
  | raises => simp [sectionLines, Document.reread, entryLines, Function.comp_def,
      RaiseEntry.reread]
  | examples => rfl
  | notes => simp only [sectionLines, hfree]
  | warnings => simp only [sectionLines, hfree]
  | seeAlso => simp only [sectionLines, hfree]
  | references => simp only [sectionLines, hfree]

/-- What the style leaves out of a document does not show when it is written. -/
theorem render_reread (d : Document) (width : Nat) :
    render (d.reread Parameter.reread ReturnDoc.reread) width = render d width := by
  simp only [render, sectionLines_reread]
  rfl

/-- A document that the Google style can carry, written at a width that wraps no line, reads back:
the parser accepts the text, and the result says what was written but for defaults, which the
style leaves out. -/
theorem a_google_docstring_reads_back {d : Document} {width : Nat} (htidy : Tidy d)
    (hwidth : Style.google.Unwrapped d width) :
    ∃ d', parse (render d width) = .ok d' ∧
      d'.content = d.reread Parameter.reread ReturnDoc.reread ∧
      d'.meaning = d.withoutDefaults.meaning := by
  obtain ⟨d', hparse, hcontent⟩ := parse_text htidy
  refine ⟨d', ?_, hcontent, ?_⟩
  · have hrender : render d width = sectioning.text d :=
      Style.render_of_unwrapped .google (fun _ => render_of_fits htidy) hwidth
    rw [hrender, hparse]
  · have hsame : d'.content = (d.reread Parameter.reread ReturnDoc.reread).content := by
      rw [hcontent]
      rfl
    rw [Document.meaning_congr hsame]
    exact Document.meaning_reread_withoutDefaults d ReturnDoc.reread_meaning

theorem the_specimen_reads_back_from_google :
    Tidy Document.specimen ∧ Style.google.Unwrapped Document.specimen 88 ∧
      ∃ d', parse (render Document.specimen 88) = .ok d' ∧
        d'.content = Document.specimen.reread Parameter.reread ReturnDoc.reread ∧
        d'.meaning = Document.specimen.withoutDefaults.meaning := by
  have htidy : Tidy Document.specimen := by decide +kernel
  have hfits : Layout.Fits (sectioning.whole Document.specimen) 88 := by decide +kernel
  have hwidth : Style.google.Unwrapped Document.specimen 88 :=
    Style.unwrapped_of_fits .google (fun _ => render_of_fits htidy) hfits
  exact ⟨htidy, hwidth, a_google_docstring_reads_back htidy hwidth⟩

end Docstring.Google
