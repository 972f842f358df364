-- Reading undoes writing for field lists: a document that the style can carry comes back with its
-- meaning, apart from the defaults of its parameters.
import Docstring.Proofs.Rest.Walk

namespace Docstring.Rest

open Text

/-! ## What the written fields mean -/

/-- The first two letters tell that a field opens no section. -/
theorem blockFields_of_start {a b : Char} (rest : Text)
    (h : ∀ entry ∈ blockFields, entry.1.toList.take 2 ≠ lower [a, b]) :
    blockFields.find? (fun entry => entry.1.toList = lower (a :: b :: rest)) = none := by
  rw [List.find?_eq_none]
  intro entry hentry hsame
  rw [decide_eq_true_eq] at hsame
  apply h entry hentry
  rw [hsame]
  rfl

theorem classifyField_word (word : Text) {argument : Text} (hblock : blockFields.find?
      (fun entry => entry.1.toList = lower (word ++ ' ' :: argument)) = none)
    (hword : word.any isSpace = false) (hargument : trim argument = argument) :
    classifyField (word ++ ' ' :: argument) =
      fieldWithArgument (word ++ ' ' :: argument) word argument := by
  have hink : ∀ c ∈ word, isSpace c = false := by simpa using hword
  rw [classifyField, hblock]
  simp only [cutAt?_append argument hink (c := ' ') isSpace_space, hargument]

theorem classifyField_param {t : Text} (h : trim t = t) :
    classifyField ("param ".toList ++ t) = .param .positional t :=
  classifyField_word "param".toList (blockFields_of_start _ (by decide)) (by decide) h

theorem classifyField_type {t : Text} (h : trim t = t) :
    classifyField ("type ".toList ++ t) = .paramType t :=
  classifyField_word "type".toList (blockFields_of_start _ (by decide)) (by decide) h

theorem classifyField_raises {t : Text} (h : trim t = t) :
    classifyField ("raises ".toList ++ t) = .raises (some t) :=
  classifyField_word "raises".toList (blockFields_of_start _ (by decide)) (by decide) h

theorem classifyField_block {kind : SectionKind} (h : kind ∈ blockSections) :
    classifyField (blockName kind) = .block kind := by
  cases kind <;> first | rfl | simp [blockSections] at h

/-! ## Reading one field -/

/-- Reading a document field by field. -/
def reader : Reader Progress Field (Marker × Text × List Line) ParseFailure :=
  ⟨fun p => p.document.content, Progress.add, Field.shape⟩

theorem content_finish (p : Progress) : p.finish.content = p.document.content := by
  unfold Progress.finish
  split <;> rfl

theorem content_enter (p : Progress) (f : Field) :
    (p.enter f).document.content = p.document.content := by
  unfold Progress.enter
  split
  · rfl
  · split
    · rfl
    · exact content_finish p

/-- The field that is found where an item was written. -/
def Item.fieldAt (i : Item) (n : Nat) : Field :=
  ⟨classifyField i.name, i.first, n, indent continuationIndent i.below⟩

/-- A field adds what its text and the lines below it say. -/
theorem reads_item {i : Item} {c c' : Document} (h : i.Tidy)
    (hadd : ∀ d f, f.marker = classifyField i.name → f.text = i.first →
      dedentBy bodyIndent f.body = i.below → d.content = c →
      ∃ d', addField d f = .ok d' ∧ d'.content = c') :
    reader.Reads [i.shape] c c' := by
  apply Reader.reads_singleton
  rintro ⟨marker, text, first, body⟩ hshape p hp
  simp only [reader, Field.shape, Item.shape, Prod.mk.injEq] at hshape
  obtain ⟨rfl, rfl, rfl⟩ := hshape
  have hbody : dedentBy bodyIndent (indent continuationIndent i.below) = i.below :=
    dedentBy_indent continuationIndent h.clean
  obtain ⟨d', hfield, hd'⟩ := hadd (p.enter (i.fieldAt first)).document (i.fieldAt first) rfl rfl
    hbody ((content_enter p _).trans hp)
  refine ⟨⟨d', (p.enter (i.fieldAt first)).group.map fun span =>
    { span with last := (i.fieldAt first).last }⟩, ?_, hd'⟩
  change Progress.add p (i.fieldAt first) = _
  simp only [Progress.add, hfield]

/-! ## Parameters -/

theorem cutAtLast?_of_none {p : Char → Bool} {t : Text} (h : ∀ c ∈ t, p c = false) :
    cutAtLast? p t = none := by
  induction t with
  | nil => rfl
  | cons c t ih =>
    simp [cutAtLast?, ih fun x hx => h x (by simp [hx]), h c (by simp)]

/-- Changing the parameter that was added last. -/
theorem updateFirst_concat {params : List Parameter} {q : Parameter} (f : Parameter → Parameter)
    (h : q.name ∉ params.map Parameter.name) :
    Document.updateFirst q.name f (params ++ [q]) = params ++ [f q] := by
  induction params with
  | nil => simp [Document.updateFirst]
  | cons p params ih =>
    simp only [List.map_cons, List.mem_cons, not_or] at h
    simp [Document.updateFirst, Ne.symm h.1, ih h.2]

section Params

variable {d : Document} {p : Parameter}

theorem reads_param_field (h : Tidy d) (hp : p ∈ d.parameters) {c : Document}
    (hnew : p.name ∉ c.parameters.map Parameter.name) :
    reader.Reads [(Item.describing ("param ".toList ++ p.display) (p.description.getD [])).shape] c
      { c with parameters := c.parameters ++ [{ p.reread with type := none }] } := by
  have hname := h.document.names p hp
  have htext := h.document.param_description hp
  refine reads_item (h.param_items hp _ (by simp [paramItems])) ?_
  intro d' f hmarker hfirst hbody hd
  have hargument : cutAtLast? isSpace p.display = none :=
    cutAtLast?_of_none (Parameter.not_space_of_mem_display hname)
  have hne : p.name.isEmpty = false := by simpa using isIdentifier_ne_nil hname
  have hkind : (if p.meaning.kind = .positional then ParamKind.positional else p.meaning.kind) =
      p.meaning.kind := by
    split <;> simp_all
  refine ⟨d'.addParameter { p.reread with type := none }, ?_, ?_⟩
  · simp only [addField, hmarker, hfirst, hbody, Item.describing,
      Layout.description?_of_trim htext htext.trim_firstLine,
      classifyField_param (Parameter.isOneLine_display hname).trimmed, addParam, hargument,
      Parameter.splitName_display hname, hne, hkind, unlessEmpty_getD]
    rfl
  · have hfresh : p.name ∉ d'.content.parameters.map Parameter.name := by
      rw [hd]
      exact hnew
    rw [Document.content_addParameter (p := { p.reread with type := none }) hfresh, hd]

theorem reads_type_field (h : Tidy d) (hp : p ∈ d.parameters) {type : Text} (ht : type ∈ p.type)
    {c : Document} {q : Parameter} (hq : q.name = p.name)
    (hnew : p.name ∉ c.parameters.map Parameter.name) :
    reader.Reads [(Item.typing ("type ".toList ++ p.display) type).shape]
      { c with parameters := c.parameters ++ [q] }
      { c with parameters := c.parameters ++ [{ q with type := some type }] } := by
  have hname := h.document.names p hp
  have htype := h.paramTypes p hp type ht
  refine reads_item (h.param_items hp _ (by simp [paramItems, Option.mem_def.mp ht])) ?_
  intro d' f hmarker hfirst hbody hd
  have hparams : d'.parameters = c.parameters ++ [q] := congrArg Document.parameters hd
  have hfound : (d'.parameter? p.name).isSome = true := by
    rw [Document.parameter?, hparams, List.find?_isSome]
    exact ⟨q, by simp, by simpa using hq⟩
  obtain ⟨old, hold⟩ := Option.isSome_iff_exists.mp hfound
  refine ⟨d'.modifyParameter p.name fun x => { x with type := some type }, ?_, ?_⟩
  · simp only [addField, hmarker, hfirst, hbody, Item.typing,
      classifyField_type (Parameter.isOneLine_display hname).trimmed, htype.description?,
      setParamType, Parameter.splitName_display hname, hold]
  · rw [← hq] at hnew ⊢
    have hupdate := updateFirst_concat (fun x => { x with type := some type }) hnew
    have hmodify : ∀ f, (d'.modifyParameter q.name f).content =
        { d'.content with parameters := Document.updateFirst q.name f d'.content.parameters } :=
      fun _ => rfl
    rw [hmodify, hd]
    simp only [hupdate]

/-- The fields of a parameter add it at the end. -/
theorem reads_param (h : Tidy d) (hp : p ∈ d.parameters) {c : Document}
    (hnew : p.name ∉ c.parameters.map Parameter.name) :
    reader.Reads ((paramItems p).map Item.shape) c
      { c with parameters := c.parameters ++ [p.reread] } := by
  have hfield := reads_param_field h hp hnew
  cases ht : p.type with
  | none =>
    have hsame : { p.reread with type := none } = p.reread := by
      simp [Parameter.reread, Parameter.meaning, ht]
    rw [hsame] at hfield
    simpa [paramItems, ht] using hfield
  | some type =>
    have hsame : { p.reread with type := some type } = p.reread := by
      simp [Parameter.reread, Parameter.meaning, ht]
    have htype := reads_type_field h hp (show type ∈ p.type by simp [ht]) (c := c)
      (q := { p.reread with type := none }) rfl hnew
    have hboth := hfield.append htype
    simp only at hboth
    rw [hsame] at hboth
    simpa [paramItems, ht] using hboth

end Params

/-! ## Returns, exceptions and texts -/

/-- A returned or yielded value as it is read back: with a type, its description may be missing. -/
def rereadValue (doc : ReturnDoc) : ReturnDoc :=
  { doc with
    description := if doc.type.isSome then doc.description else some (doc.description.getD []) }

theorem rereadValue_meaning (doc : ReturnDoc) : (rereadValue doc).meaning = doc.meaning := by
  unfold rereadValue ReturnDoc.meaning
  split <;> simp

/-- The fields of a value fill one slot of the document, whichever it is. -/
theorem reads_value {d : Document} (h : Tidy d) {doc : ReturnDoc} (hdoc : doc ∈ d.values)
    (slot : ValueSlot) (name typeName : Text)
    (hname : IsOneLine name ∧ ':' ∉ name) (htypeName : IsOneLine typeName ∧ ':' ∉ typeName)
    (hdescribe : ∀ d f, f.marker = classifyField name → addField d f = .ok (slot.set d
      (setDescription (slot.get d) (description? f.text (dedentBy bodyIndent f.body)))))
    (htype : ∀ d f, f.marker = classifyField typeName → addField d f = .ok (slot.set d
      (setType (slot.get d) (description? f.text (dedentBy bodyIndent f.body)))))
    {c : Document} (hc : slot.get c = none) :
    reader.Reads ((valueItems name typeName doc).map Item.shape) c
      (slot.set c (some (rereadValue doc))) := by
  have htext := h.document.value_description hdoc
  have hfield : ∀ c : Document, doc.description.isSome || doc.type.isNone →
      slot.get c = none → reader.Reads [(Item.describing name (doc.description.getD [])).shape] c
        (slot.set c (some { description := some (doc.description.getD []) })) := by
    intro c hwritten hnone
    refine reads_item (h.value_items hdoc hname htypeName _ (by simp [valueItems, hwritten])) ?_
    intro d' f hmarker hfirst hbody hd
    refine ⟨_, hdescribe d' f hmarker, ?_⟩
    have hslot : slot.get d' = none := by rw [← slot.get_content, hd, hnone]
    rw [slot.content_set, hd, hfirst, hbody]
    simp [Item.describing, Layout.description?_of_trim htext htext.trim_firstLine, setDescription,
      hslot]
  have htyped : ∀ (c : Document) (old : Option ReturnDoc) (type : Text), type ∈ doc.type →
      slot.get c = old → reader.Reads [(Item.typing typeName type).shape] c
        (slot.set c (some { old.getD {} with type := some type })) := by
    intro c old type hmem hold
    have hline := h.valueTypes doc hdoc type hmem
    refine reads_item (h.value_items hdoc hname htypeName _
      (by simp [valueItems, Option.mem_def.mp hmem])) ?_
    intro d' f hmarker hfirst hbody hd
    refine ⟨_, htype d' f hmarker, ?_⟩
    have hslot : slot.get d' = old := by rw [← slot.get_content, hd, hold]
    rw [slot.content_set, hd, hfirst, hbody]
    simp [Item.typing, hline.description?, setType, hslot]
  unfold valueItems
  cases ht : doc.type with
  | none =>
    have hread : rereadValue doc = { description := some (doc.description.getD []) } := by
      simp [rereadValue, ht]
    simpa [hread] using hfield c (by simp [ht]) hc
  | some type =>
    cases hdesc : doc.description with
    | none =>
      have hread : rereadValue doc = { type := some type } := by
        simp [rereadValue, ht, hdesc]
      have honly := htyped c none type (by simp [ht]) hc
      simpa [hread] using honly
    | some text =>
      have hread : rereadValue doc = { type := some type, description := some text } := by
        simp [rereadValue, ht, hdesc]
      have hfirst := hfield c (by simp [hdesc]) hc
      have hboth := hfirst.append (htyped _ _ type (by simp [ht]) (slot.get_set _ _))
      simpa [hread, slot.set_set, hdesc] using hboth

theorem reads_raise {d : Document} (h : Tidy d) {r : RaiseEntry} (hr : r ∈ d.raises)
    (c : Document) :
    reader.Reads [(raiseItem r).shape] c { c with raises := c.raises ++ [r.reread] } := by
  have htext := h.document.raise_description hr
  refine reads_item (h.raise_item hr) ?_
  intro d' f hmarker hfirst hbody hd
  refine ⟨{ d' with raises := d'.raises ++ [r.reread] }, ?_, ?_⟩
  · simp only [addField, hmarker, hfirst, hbody, raiseItem, Item.describing,
      classifyField_raises (h.document.exceptions r hr).trimmed,
      Layout.description?_of_trim htext htext.trim_firstLine]
    rfl
  · rw [← hd]
    rfl

/-- A field over a text of its own. -/
theorem reads_holding {kind : SectionKind} {t : Text} {c c' : Document}
    (hkind : kind ∈ blockSections) (ht : IsVerbatim (splitLines t))
    (hadd : ∀ d f, f.marker = .block kind →
      description? f.text (dedentBy bodyIndent f.body) = some t → d.content = c →
      ∃ d', addField d f = .ok d' ∧ d'.content = c') :
    reader.Reads [(Item.holding (blockName kind) t).shape] c c' := by
  refine reads_item (Item.tidy_holding (blockName_line kind).1 (blockName_line kind).2 ht) ?_
  intro d f hmarker hfirst hbody hd
  refine hadd d f (hmarker.trans (classifyField_block hkind)) ?_ hd
  rw [hfirst, hbody]
  exact ht.joinProse?_splitLines

/-! ## Documents -/

section Documents

variable {d : Document}

/-- The fields of a written document give the document back. -/
theorem reads_document (h : Tidy d) :
    reader.Reads (SectionKind.order.flatMap fun kind => (items d kind).map Item.shape) d.headOnly
      (d.reread Parameter.reread rereadValue) := by
  apply Reader.reads_order
  · intro c hc
    have hreads := Reader.reads_parameters (r := reader) d.parameters
      Parameter.reread (fun _ => rfl) h.document.distinct
      (fun p hp c hnew => reads_param h hp hnew) (c := c) (by simp [hc])
    simpa only [items, List.map_flatMap, hc, List.nil_append] using hreads
  · intro c hc
    cases hdoc : d.returns with
    | none => simpa [items, hdoc, ValueSlot.returns] using Reader.reads_absent .returns hc
    | some doc =>
      have hmem : doc ∈ d.values := List.mem_append_left _ (by simp [hdoc])
      have hreads := reads_value h hmem .returns "returns".toList "rtype".toList (by decide)
        (by decide) (fun d f hf => by simp only [addField, hf]; rfl)
        (fun d f hf => by simp only [addField, hf]; rfl) hc
      simpa [items, hdoc, ValueSlot.returns] using hreads
  · intro c hc
    cases hdoc : d.yields with
    | none => simpa [items, hdoc, ValueSlot.yields] using Reader.reads_absent .yields hc
    | some doc =>
      have hmem : doc ∈ d.values := List.mem_append_right _ (by simp [hdoc])
      have hreads := reads_value h hmem .yields "yields".toList "ytype".toList (by decide)
        (by decide) (fun d f hf => by simp only [addField, hf]; rfl)
        (fun d f hf => by simp only [addField, hf]; rfl) hc
      simpa [items, hdoc, ValueSlot.yields] using hreads
  · intro c
    rw [← foldl_raises, items, List.map_map]
    exact Reader.reads_map (fun r hr c => reads_raise h hr c) c
  · intro c
    rw [← foldl_examples, items, List.map_map]
    refine Reader.reads_map (fun t ht c => ?_) c
    refine reads_holding (by decide) (h.document.examples t ht).isVerbatim ?_
    intro d' f hmarker htext hd
    refine ⟨d'.addExample (some t), ?_, ?_⟩
    · simp only [addField, hmarker, htext]
    · rw [← hd]
      rfl
  · intro kind hkind c
    have hblock : kind ∈ blockSections := by
      cases kind <;> first | decide | simp [SectionKind.isFreeText] at hkind
    have hitems : items d kind = (Layout.freeTexts d kind).map (.holding (blockName kind)) := by
      cases kind <;> first | rfl | simp [SectionKind.isFreeText] at hkind
    rw [hitems, List.map_map]
    refine Reader.reads_map (fun t ht c => ?_) c
    have hfree := h.document.freeTexts kind (SectionKind.mem_order kind) t ht
    refine reads_holding hblock hfree.isVerbatim ?_
    intro d' f hmarker htext hd
    refine ⟨d'.addFreeText t kind, ?_, ?_⟩
    · simp only [addField, hmarker, htext]
      cases kind <;> first | rfl | simp [SectionKind.isFreeText] at hkind
    · rw [← hd]
      cases kind <;> rfl

theorem classifyField_ne_unknownDirective (field name : Text) :
    classifyField field ≠ .unknownDirective name := by
  unfold classifyField
  split
  · simp
  · split
    · unfold fieldWithArgument
      repeat' split
      all_goals simp
    · unfold fieldAlone
      repeat' split
      all_goals simp

theorem atField_item {i : Item} (h : i.Tidy) (more : List Line) :
    atField (i.lines ++ more) = true := by
  have hknown := classifyField_ne_unknownDirective i.name
  simp only [Item.lines, List.cons_append, atField, List.head?_cons, Option.bind_some,
    classify_item h]
  split <;> simp_all

theorem listed_append_apart (d : Document) :
    listed d ++ apart d = SectionKind.order.flatMap (items d) := by
  rw [listed, apart, ← List.flatMap_append]
  rfl

/-- The fields of a written document are found again, each with its shape. -/
theorem outline_wholeBlocks (h : ∀ i ∈ listed d ++ apart d, i.Tidy) (n : Nat) :
    let found := outline n (Layout.separate (wholeBlocks d))
    found.1.map Field.shape = (listed d ++ apart d).map Item.shape ∧ found.2 = none := by
  cases hall : listed d ++ apart d with
  | nil =>
    obtain ⟨hlisted, hapart⟩ := List.append_eq_nil_iff.mp hall
    have hnone : wholeBlocks d = [] := by simp [wholeBlocks, hlisted, hapart]
    rw [hnone]
    exact ⟨rfl, rfl⟩
  | cons first rest =>
    rw [hall] at h
    obtain ⟨spacing, hspacing, hlines⟩ := separate_wholeBlocks first rest hall
    have hmem : ∀ s ∈ spacing, s.2.Tidy := by
      intro s hs
      apply h
      rw [← hspacing]
      exact List.mem_cons_of_mem _ (List.mem_map.mpr ⟨s, hs, rfl⟩)
    rw [hlines]
    obtain ⟨hshapes, hstop⟩ := outline_spaced n first (h first (by simp)) hmem
    refine ⟨?_, hstop⟩
    rw [hshapes, ← hspacing]
    simp

/-- The marked part starts with a field. -/
theorem atField_wholeBlocks (h : ∀ i ∈ listed d ++ apart d, i.Tidy) (hne : wholeBlocks d ≠ []) :
    atField (Layout.separate (wholeBlocks d)) = true := by
  cases hall : listed d ++ apart d with
  | nil =>
    obtain ⟨hlisted, hapart⟩ := List.append_eq_nil_iff.mp hall
    exact absurd (by simp [wholeBlocks, hlisted, hapart]) hne
  | cons first rest =>
    obtain ⟨spacing, _, hlines⟩ := separate_wholeBlocks first rest hall
    rw [hlines]
    exact atField_item (h first (by simp [hall])) _

/-- Reading a document that was written with every line whole, if its fields can be read one by
one. -/
theorem parse_of_reads {c : Document} (hhead : d.headOnly.Tidy)
    (hmarks : ∀ line ∈ d.headLines, classify line = none)
    (hitems : ∀ i ∈ listed d ++ apart d, i.Tidy)
    (hreads : reader.Reads ((listed d ++ apart d).map Item.shape) d.headOnly c) :
    ∃ d', parse (Layout.assemble (whole d)) = .ok d' ∧ d'.content = c := by
  have hunmarked : ∀ tail below : List Line, tail ≠ [] → (∀ line ∈ tail, classify line = none) →
      atMarker (tail ++ below) = false ∧ atField (tail ++ below) = false := by
    intro tail below hne hnone
    obtain ⟨line, rest, rfl⟩ := List.exists_cons_of_ne_nil hne
    simp [atMarker, atField, hnone line (by simp)]
  have hblocks : ∀ b ∈ wholeBlocks d, IsBlock b :=
    fun b hb => isBlock_of_mem_wholeBlocks hitems hb
  obtain ⟨n, hcut⟩ := Layout.cut_separate atMarker atField hhead hblocks
    (fun tail below htail hne _ => (hunmarked tail below hne fun line hl =>
      hmarks line (List.mem_append_left _ (htail.subset hl))).1)
    (fun t ht tail below htail hne _ => (hunmarked tail below hne fun line hl =>
      hmarks line (List.mem_append_right _
        (List.mem_flatMap.mpr ⟨t, Option.mem_toList.mpr ht, htail.subset hl⟩))).2)
    (fun below => rfl) (atField_wholeBlocks hitems)
  obtain ⟨hshapes, hstop⟩ := outline_wholeBlocks hitems n
  obtain ⟨p, hfold, hp⟩ := hreads _ hshapes
    ⟨Head.document ⟨d.summary, d.extended, n, Layout.separate (wholeBlocks d)⟩ .rest, none⟩ rfl
  refine ⟨p.finish, parse_eq_ok_iff.mpr ?_, (content_finish p).trans hp⟩
  have hnormal : normalLines (Layout.assemble (whole d)) =
      Layout.separate (Layout.wholeHead d.headOnly ++ wholeBlocks d) :=
    Layout.normalLines_wholeHead_append (d := d.headOnly) hhead hblocks
  rw [hnormal, hcut]
  exact ⟨hstop, p, hfold, rfl⟩

/-- Reading a document that was written with every line whole. -/
theorem parse_text (h : Tidy d) :
    ∃ d', parse (Layout.assemble (whole d)) = .ok d' ∧
      d'.content = d.reread Parameter.reread rereadValue := by
  apply parse_of_reads h.document.headOnly h.marks h.all_items
  rw [listed_append_apart, List.map_flatMap]
  exact reads_document h

end Documents

theorem sectionLines_reread (d : Document) (kind : SectionKind) (width : Nat)
    (hkind : kind ∈ fieldSections) :
    sectionLines (d.reread Parameter.reread rereadValue) kind width =
      sectionLines d kind width := by
  have hparam : ∀ p : Parameter, paramLines width p.reread = paramLines width p := by
    intro p
    have hdisplay : p.reread.display = p.display := p.display_meaning
    simp only [paramLines, fieldLines, hdisplay]
    rfl
  have hvalue : ∀ name typeName doc, returnLines width name typeName (rereadValue doc) =
      returnLines width name typeName doc := by
    intro name typeName doc
    unfold returnLines fieldLines rereadValue
    cases doc.type <;> simp
  have hraise : ∀ r : RaiseEntry, raiseLines width r.reread = raiseLines width r := by
    intro r
    simp [raiseLines, fieldLines, RaiseEntry.reread]
  simp only [fieldSections, List.mem_cons, List.not_mem_nil, or_false] at hkind
  rcases hkind with rfl | rfl | rfl | rfl
  · simp [sectionLines, Document.reread, List.flatMap_map, hparam]
  · cases hr : d.returns <;> simp [sectionLines, Document.reread, hr, hvalue]
  · cases hy : d.yields <;> simp [sectionLines, Document.reread, hy, hvalue]
  · simp [sectionLines, Document.reread, List.flatMap_map, hraise]

/-- What the style leaves out of a document does not show when it is written. -/
theorem render_reread (d : Document) (width : Nat) :
    render (d.reread Parameter.reread rereadValue) width = render d width := by
  have hlisted : (fieldSections.flatMap fun kind =>
      sectionLines (d.reread Parameter.reread rereadValue) kind width) =
      fieldSections.flatMap fun kind => sectionLines d kind width :=
    List.flatMap_congr fun kind hkind => sectionLines_reread d kind width hkind
  have hblocks : ∀ kind, blocks (d.reread Parameter.reread rereadValue) kind width =
      blocks d kind width := by
    intro kind
    simp only [blocks, Document.freeTexts_reread]
    rfl
  simp only [render, hlisted, hblocks]
  rfl

/-- A document that a field list can carry, written at a width that wraps no line, reads back: the
parser accepts the text, and the result says what was written but for defaults, which the style
leaves out. -/
theorem a_field_list_reads_back {d : Document} {width : Nat} (htidy : Tidy d)
    (hwidth : Style.rest.Unwrapped d width) :
    ∃ d', parse (render d width) = .ok d' ∧
      d'.content = d.reread Parameter.reread rereadValue ∧
      d'.meaning = d.withoutDefaults.meaning := by
  obtain ⟨d', hparse, hcontent⟩ := parse_text htidy
  refine ⟨d', ?_, hcontent, ?_⟩
  · have hrender : render d width = Layout.assemble (whole d) :=
      Style.render_of_unwrapped .rest (fun _ => render_of_fits htidy) hwidth
    rw [hrender, hparse]
  · have hsame : d'.content = (d.reread Parameter.reread rereadValue).content := by
      rw [hcontent]
      rfl
    rw [Document.meaning_congr hsame]
    exact Document.meaning_reread_withoutDefaults d rereadValue_meaning

theorem the_specimen_reads_back_from_a_field_list :
    Tidy Document.specimen ∧ Style.rest.Unwrapped Document.specimen 88 ∧
      ∃ d', parse (render Document.specimen 88) = .ok d' ∧
        d'.content = Document.specimen.reread Parameter.reread rereadValue ∧
        d'.meaning = Document.specimen.withoutDefaults.meaning := by
  have htidy : Tidy Document.specimen := by decide +kernel
  have hfits : Layout.Fits (whole Document.specimen) 88 := by decide +kernel
  have hwidth : Style.rest.Unwrapped Document.specimen 88 :=
    Style.unwrapped_of_fits .rest (fun _ => render_of_fits htidy) hfits
  exact ⟨htidy, hwidth, a_field_list_reads_back htidy hwidth⟩

end Docstring.Rest
