-- Which documents the NumPy style can carry, and how it writes them when no line is wrapped.
import Docstring.Numpy.Parser
import Docstring.Numpy.Printer
import Docstring.Proofs.Document.Sectioned
import Docstring.Proofs.Text.Letter
import Mathlib.Data.List.Chain

namespace Docstring.Numpy

open Text

/-! ## Lines without headers -/

/-- No line of a text is a title with the line below it as its underline. -/
def HasNoHeader (lines : List Line) : Prop := lines.IsChain fun a b => header? a b = none

instance (lines : List Line) : Decidable (HasNoHeader lines) :=
  inferInstanceAs (Decidable (lines.IsChain fun a b => header? a b = none))

theorem header?_of_not_underline {a b : Line} (h : isUnderline b = false) :
    header? a b = none := by
  simp [header?, h]

@[simp] theorem header?_empty (a : Line) : header? a [] = none := header?_of_not_underline rfl

@[simp] theorem header?_below_empty (b : Line) : header? [] b = none := by
  have htitle : headerOfTitle? [] = none := by decide
  simp [header?, htitle]

theorem header?_space_cons (a b : Line) : header? (' ' :: a) b = none := by
  have htitle : headerOfTitle? (' ' :: a) = none := by
    simp [headerOfTitle?, SectionKind.ofTitle?, SectionKind.titles, unsupportedTitles]
  simp [header?, htitle]

theorem not_underline_of_head {c : Char} (rest : Line) (hc : c ≠ '-') :
    isUnderline (c :: rest) = false := by
  simp [isUnderline, hc]

/-- Lines of which at most the first is an underline have no header. -/
theorem hasNoHeader_of_tail {lines : List Line} (h : ∀ b ∈ lines.tail, isUnderline b = false) :
    HasNoHeader lines := by
  induction lines with
  | nil => exact List.isChain_nil
  | cons a lines ih =>
    cases lines with
    | nil => exact List.isChain_singleton a
    | cons b lines =>
      have hb : isUnderline b = false := h b (by simp)
      refine List.isChain_cons_cons.mpr ⟨header?_of_not_underline hb, ih ?_⟩
      intro x hx
      exact h x (List.mem_of_mem_tail hx)

/-! ## Documents for this style -/

/-- What the NumPy style asks of a document: nowhere is a line underlined by the next one so that
it reads as a header, the word that marks defaults is in no type and no default, and types of
values have no colon outside brackets. -/
@[mk_iff]
structure Tidy (d : Document) : Prop where
  document : d.Tidy
  summary : HasNoHeader (splitLines d.summary)
  extended : ∀ t ∈ d.extended, HasNoHeader (splitLines t)
  paramTypes : ∀ p ∈ d.parameters, ∀ t ∈ p.type.toList ++ p.default.toList,
    IsOneLine t ∧ contains t "default".toList = false
  valueTypes : ∀ doc ∈ d.values, ∀ t ∈ doc.type, IsOneLine t ∧ cutAtColon? t = none
  exceptions : HasNoHeader (d.raises.map RaiseEntry.exception)
  examples : ∀ t ∈ d.examples, HasNoHeader (splitLines t)
  freeTexts : ∀ kind ∈ SectionKind.order, ∀ t ∈ Layout.freeTexts d kind,
    HasNoHeader (splitLines t)

instance : DecidablePred Tidy := fun d => decidable_of_iff _ (tidy_iff d).symm

theorem Tidy.type {d : Document} (h : Tidy d) {p : Parameter} (hp : p ∈ d.parameters) {t : Text}
    (ht : t ∈ p.type) : IsOneLine t ∧ contains t "default".toList = false :=
  h.paramTypes p hp t (List.mem_append_left _ (by simpa using ht))

theorem Tidy.default {d : Document} (h : Tidy d) {p : Parameter} (hp : p ∈ d.parameters) {t : Text}
    (ht : t ∈ p.default) : IsOneLine t ∧ contains t "default".toList = false :=
  h.paramTypes p hp t (List.mem_append_right _ (by simpa using ht))

/-! ## Whole lines -/

/-- The lines of a description below the line that it describes. -/
def wholeDescription (t : Text) : List Line :=
  if isBlank t then [] else indent descriptionIndent (splitLines t)

/-- The NumPy style as a way to write sections. -/
def sectioning : Sectioning where
  param p := paramHead p :: wholeDescription (p.description.getD [])
  value doc := doc.type.toList ++ wholeDescription (doc.description.getD [])
  raise r := r.exception :: wholeDescription (r.description.getD [])
  under kind body := headerLines kind ++ body

section Description

variable {t : Text}

theorem isClean_of_mem_wholeDescription (ht : IsDescription t) :
    ∀ line ∈ wholeDescription t, IsClean line := by
  intro line hl
  unfold wholeDescription at hl
  split at hl
  · simp at hl
  · exact isClean_of_mem_indent ht.clean hl

theorem endsInk_wholeDescription (ht : IsDescription t) : EndsInk (wholeDescription t) := by
  unfold wholeDescription
  split
  · simp [EndsInk]
  · rename_i hink
    rcases ht with rfl | ht
    · simp [isBlank] at hink
    · exact endsInk_indent _ ht.ends

/-- The lines of a description are empty or indented, so they are neither titles nor
underlines. -/
theorem mem_wholeDescription {line : Line} (h : line ∈ wholeDescription t) :
    line = [] ∨ ∃ rest, line = ' ' :: rest := by
  unfold wholeDescription at h
  split at h
  · simp at h
  · rcases mem_indent h with rfl | ⟨inner, _, _, rfl⟩
    · exact Or.inl rfl
    · exact Or.inr ⟨_, rfl⟩

theorem not_underline_of_mem_wholeDescription {line : Line} (h : line ∈ wholeDescription t) :
    isUnderline line = false := by
  rcases mem_wholeDescription h with rfl | ⟨rest, rfl⟩
  · rfl
  · exact not_underline_of_head rest (by decide)

theorem header?_of_mem_wholeDescription {line : Line} (b : Line) (h : line ∈ wholeDescription t) :
    header? line b = none := by
  rcases mem_wholeDescription h with rfl | ⟨rest, rfl⟩
  · exact header?_below_empty b
  · exact header?_space_cons rest b

/-- A line over its description is a block. -/
theorem isBlock_described {head : Line} (hhead : IsOneLine head) (ht : IsDescription t) :
    IsBlock (head :: wholeDescription t) := by
  refine ⟨hhead.opens, endsInk_cons hhead.not_blank (endsInk_wholeDescription ht), ?_⟩
  intro line hl
  rcases List.mem_cons.mp hl with rfl | hl
  · exact hhead.isClean
  · exact isClean_of_mem_wholeDescription ht line hl

end Description

/-! ## Parameters -/

/-- What stands to the right of the colon after a parameter. -/
def paramSuffix (p : Parameter) : Option Text :=
  match p.type, p.default with
  | some type, some default => some (type ++ ", default: ".toList ++ default)
  | some type, none => some type
  | none, some default => some ("default: ".toList ++ default)
  | none, none => none

theorem paramHead_of_suffix {p : Parameter} {suffix : Text} (h : paramSuffix p = some suffix) :
    paramHead p = p.display ++ ' ' :: ':' :: ' ' :: suffix := by
  unfold paramSuffix at h
  unfold paramHead
  split at h <;> simp_all

theorem paramHead_of_none {p : Parameter} (h : paramSuffix p = none) :
    paramHead p = p.display ∧ p.type = none ∧ p.default = none := by
  unfold paramSuffix at h
  unfold paramHead
  split at h <;> simp_all

section Bodies

variable {d : Document}

theorem Tidy.isOneLine_suffix (h : Tidy d) {p : Parameter} (hp : p ∈ d.parameters) {suffix : Text}
    (hs : paramSuffix p = some suffix) : IsOneLine suffix := by
  unfold paramSuffix at hs
  split at hs
  · rename_i type default ht hd
    have htype := (h.type hp (t := type) (by simp [ht])).1
    have hdefault := (h.default hp (t := default) (by simp [hd])).1
    injection hs with hs
    rw [← hs]
    apply IsOneLine.append (opensWithInk_append _ htype.opens) _ hdefault
    simp [htype.newline]
  · rename_i type ht hd
    injection hs with hs
    rw [← hs]
    exact (h.type hp (by simp [ht])).1
  · rename_i default ht hd
    injection hs with hs
    rw [← hs]
    exact IsOneLine.append (by decide) (by decide) (h.default hp (by simp [hd])).1
  · simp at hs

theorem Tidy.isOneLine_paramHead (h : Tidy d) {p : Parameter} (hp : p ∈ d.parameters) :
    IsOneLine (paramHead p) := by
  have hdisplay := Parameter.isOneLine_display (h.document.names p hp)
  cases hs : paramSuffix p with
  | none =>
    rw [(paramHead_of_none hs).1]
    exact hdisplay
  | some suffix =>
    have hsuffix := h.isOneLine_suffix hp hs
    have hcut : paramHead p = (p.display ++ " : ".toList) ++ suffix := by
      rw [paramHead_of_suffix hs]
      simp
    rw [hcut]
    apply IsOneLine.append (opensWithInk_append _ hdisplay.opens) _ hsuffix
    simp [hdisplay.newline]

/-- A parameter starts with a star or with its name, never with a dash. -/
theorem not_underline_paramHead {p : Parameter} (hname : isIdentifier p.name = true) :
    isUnderline (paramHead p) = false := by
  obtain ⟨c, rest, hdisplay⟩ :=
    List.exists_cons_of_ne_nil (Parameter.isOneLine_display hname).nonempty
  have hc : c ≠ '-' := by
    intro he
    exact Parameter.notMem_display (c := '-') hname (by decide) (by decide) (by simp [hdisplay, he])
  cases hs : paramSuffix p with
  | none =>
    rw [(paramHead_of_none hs).1, hdisplay]
    exact not_underline_of_head rest hc
  | some suffix =>
    rw [paramHead_of_suffix hs, hdisplay]
    exact not_underline_of_head _ hc

/-! ## Bodies -/

/-- What stands below a header: clean lines without blank ones at the ends and without
headers. -/
structure IsBody (lines : List Line) : Prop where
  ends : EndsInk lines
  clean : ∀ line ∈ lines, IsClean line
  kept : trimBlankLines lines = lines
  headerless : HasNoHeader lines

theorem isBody_of_block {lines : List Line} (h : IsBlock lines) (hno : HasNoHeader lines) :
    IsBody lines :=
  ⟨h.ends, h.clean, h.trimBlankLines, hno⟩

theorem isBody_wholeDescription {t : Text} (ht : IsDescription t) :
    IsBody (wholeDescription t) := by
  refine ⟨endsInk_wholeDescription ht, isClean_of_mem_wholeDescription ht, ?_, ?_⟩
  · unfold wholeDescription
    split
    · rfl
    · rename_i hink
      rcases ht with rfl | ht
      · simp [isBlank] at hink
      · obtain ⟨first, rest, hs, hfirst⟩ := ht.exists_cons
        have hends := endsInk_indent descriptionIndent ht.ends
        have hne : first ≠ [] := ne_nil_of_opensWithInk hfirst
        rw [hs, indent_cons_of_ne _ _ hne] at hends ⊢
        apply trimBlankLines_of_ink _ hends
        rw [isBlank_spaces_append]
        exact not_blank_of_opensWithInk hfirst
  · apply hasNoHeader_of_tail
    intro b hb
    exact not_underline_of_mem_wholeDescription (List.mem_of_mem_tail hb)

theorem Tidy.isBody_params (h : Tidy d) (hne : d.parameters ≠ []) :
    IsBody (d.parameters.flatMap sectioning.param) := by
  apply isBody_of_block
  · exact Layout.isBlock_flatMap hne fun p hp =>
      isBlock_described (h.isOneLine_paramHead hp) (h.document.param_description hp)
  · apply hasNoHeader_of_tail
    intro b hb
    obtain ⟨p, hp, hb⟩ := List.mem_flatMap.mp (List.mem_of_mem_tail hb)
    rcases List.mem_cons.mp hb with rfl | hb
    · exact not_underline_paramHead (h.document.names p hp)
    · exact not_underline_of_mem_wholeDescription hb

theorem Tidy.isBody_value (h : Tidy d) {doc : ReturnDoc} (hdoc : doc ∈ d.values) :
    IsBody (sectioning.value doc) := by
  have htext := h.document.value_description hdoc
  change IsBody (doc.type.toList ++ wholeDescription (doc.description.getD []))
  cases ht : doc.type with
  | none => exact isBody_wholeDescription htext
  | some type =>
    apply isBody_of_block
    · exact isBlock_described (h.valueTypes doc hdoc type (by simp [ht])).1 htext
    · apply hasNoHeader_of_tail
      intro b hb
      exact not_underline_of_mem_wholeDescription hb

/-- Exceptions with their descriptions: an exception may follow another one directly, but
otherwise the line above it is indented. -/
theorem hasNoHeader_raises {raises : List RaiseEntry}
    (h : HasNoHeader (raises.map RaiseEntry.exception)) :
    HasNoHeader (raises.flatMap sectioning.raise) := by
  induction raises with
  | nil => exact List.isChain_nil
  | cons r raises ih =>
    have hentry : HasNoHeader (sectioning.raise r) :=
      hasNoHeader_of_tail fun b hb => not_underline_of_mem_wholeDescription hb
    rw [List.flatMap_cons]
    refine List.IsChain.append hentry (ih (List.isChain_of_isChain_cons h)) ?_
    intro last hlast next hnext
    cases raises with
    | nil => simp at hnext
    | cons r' raises =>
      have hnext' : next = r'.exception := by
        simpa [sectioning, eq_comm] using hnext
      have hmem := List.mem_of_mem_getLast? hlast
      rcases List.mem_cons.mp hmem with rfl | hmem
      · rw [hnext']
        exact (List.isChain_cons_cons.mp h).1
      · exact header?_of_mem_wholeDescription next hmem

theorem Tidy.isBody_raises (h : Tidy d) (hne : d.raises ≠ []) :
    IsBody (d.raises.flatMap sectioning.raise) :=
  isBody_of_block
    (Layout.isBlock_flatMap hne fun r hr =>
      isBlock_described (h.document.exceptions r hr) (h.document.raise_description hr))
    (hasNoHeader_raises h.exceptions)

theorem Tidy.isBody (h : Tidy d) {kind : SectionKind} {body : List Line}
    (hbody : body ∈ sectioning.bodies d kind) : IsBody body :=
  Sectioning.forall_bodies h.isBody_params (fun _ => h.isBody_value) h.isBody_raises
    (fun t ht => isBody_of_block (h.document.examples t ht) (h.examples t ht))
    (fun kind hkind t ht =>
      isBody_of_block (h.document.freeTexts kind hkind t ht) (h.freeTexts kind hkind t ht))
    kind body hbody

theorem isBlock_headerLines (kind : SectionKind) : IsBlock (headerLines kind) := by
  cases kind <;> decide

theorem isBlock_under {body : List Line} (kind : SectionKind) (h : IsBody body) :
    IsBlock (sectioning.under kind body) := by
  have hheader := isBlock_headerLines kind
  change IsBlock (headerLines kind ++ body)
  refine ⟨hheader.opens, ?_, ?_⟩
  · by_cases hnil : body = []
    · simpa [hnil] using hheader.ends
    · exact endsInk_append _ h.ends hnil
  · intro line hl
    rcases List.mem_append.mp hl with hl | hl
    · exact hheader.clean line hl
    · exact h.clean line hl

theorem Tidy.isBlock_of_mem_blocks (h : Tidy d) {block : List Line}
    (hblock : block ∈ sectioning.blocks d) : IsBlock block := by
  obtain ⟨⟨kind, body⟩, hmem, rfl⟩ := List.mem_map.mp hblock
  exact isBlock_under kind (h.isBody (Sectioning.mem_bodies_of_mem_sections hmem))

end Bodies

/-! ## Writing at a great width -/

section Width

variable {d : Document} {width : Nat}

theorem length_le_of_fits (h : Layout.Fits (sectioning.whole d) width) (kind : SectionKind)
    {body : List Line} (hbody : body ∈ sectioning.bodies d kind) :
    ∀ line ∈ body, line.length ≤ width := by
  intro line hl
  apply h (sectioning.under kind body) _ line (by simp [sectioning, hl])
  exact List.mem_append_right _ (Sectioning.mem_blocks_of_mem_bodies hbody)

theorem descriptionLines_eq {description : Option Text}
    (hdesc : IsDescription (description.getD []))
    (h : ∀ line ∈ wholeDescription (description.getD []), line.length ≤ width) :
    descriptionLines width description = wholeDescription (description.getD []) := by
  unfold wholeDescription at h
  unfold descriptionLines wholeDescription
  dsimp only
  split
  · rfl
  · rename_i hink
    rw [if_neg hink] at h
    rcases hdesc with hnil | hblock
    · simp [hnil, isBlank] at hink
    · exact Layout.indent_wrapProse_of_short hblock h

/-- Entries under one header are whole if each of them is. -/
theorem underHeader_eq {α : Type} {entries : List α} {lines whole : α → List Line}
    (kind : SectionKind) (h : ∀ e ∈ entries, lines e = whole e) :
    underHeader kind (entries.map lines) = Layout.separate
      ((if entries.isEmpty then [] else [entries.flatMap whole]).map (sectioning.under kind)) := by
  have hflat : (entries.map lines).flatten = entries.flatMap whole := by
    rw [List.flatMap_def]
    exact congrArg _ (List.map_congr_left h)
  rw [Sectioning.separate_entries, underHeader, hflat, List.isEmpty_map]
  rfl

theorem eachUnderHeader_eq {texts : List Text} {lines : Text → List Line} (kind : SectionKind)
    (h : ∀ t ∈ texts, lines t = splitLines t) :
    eachUnderHeader kind (texts.map lines) =
      Layout.separate ((texts.map splitLines).map (sectioning.under kind)) := by
  rw [eachUnderHeader, List.map_map, List.map_map]
  refine congrArg _ (List.map_congr_left fun t ht => ?_)
  simp [h t ht, sectioning]

theorem valueLines_eq (htidy : Tidy d) (kind : SectionKind) {doc : Option ReturnDoc}
    (hdoc : ∀ x ∈ doc, x ∈ d.values)
    (h : ∀ x ∈ doc, ∀ line ∈ sectioning.value x, line.length ≤ width) :
    underHeader kind (doc.toList.map (returnLines width)) =
      Layout.separate ((doc.toList.map sectioning.value).map (sectioning.under kind)) := by
  cases doc with
  | none => rfl
  | some doc =>
    have hwhole := descriptionLines_eq (htidy.document.value_description (hdoc doc rfl))
      fun line hl => h doc rfl line (List.mem_append_right _ hl)
    simp [underHeader, returnLines, hwhole, Layout.separate_singleton, sectioning]

theorem freeTextLines_eq (htidy : Tidy d) (h : Layout.Fits (sectioning.whole d) width)
    {kind : SectionKind}
    (hkind : sectioning.bodies d kind = (Layout.freeTexts d kind).map splitLines) :
    eachUnderHeader kind ((Layout.freeTexts d kind).map (Layout.wrapProse width)) =
      Layout.separate ((sectioning.bodies d kind).map (sectioning.under kind)) := by
  rw [hkind]
  apply eachUnderHeader_eq
  intro t ht
  have hbody : splitLines t ∈ sectioning.bodies d kind := by
    rw [hkind]
    exact List.mem_map.mpr ⟨t, ht, rfl⟩
  have hblock := htidy.document.freeTexts kind (SectionKind.mem_order kind) t ht
  exact Layout.wrapProse_of_short hblock (length_le_of_fits h kind hbody)

/-- A section whose lines all fit is its bodies, each under a header. -/
theorem sectionLines_eq (htidy : Tidy d) (h : Layout.Fits (sectioning.whole d) width)
    (kind : SectionKind) :
    sectionLines d kind width =
      Layout.separate ((sectioning.bodies d kind).map (sectioning.under kind)) := by
  cases kind with
  | params =>
    apply underHeader_eq
    intro p hp
    rw [paramLines, descriptionLines_eq (htidy.document.param_description hp)]
    · rfl
    · intro line hl
      apply length_le_of_fits h .params (Sectioning.params_mem_bodies hp)
      exact List.mem_flatMap.mpr ⟨p, hp, List.mem_cons_of_mem _ hl⟩
  | returns =>
    apply valueLines_eq htidy .returns fun x hx => List.mem_append_left _ (by simpa using hx)
    intro x hx
    exact length_le_of_fits h .returns (List.mem_map.mpr ⟨x, by simpa using hx, rfl⟩)
  | yields =>
    apply valueLines_eq htidy .yields fun x hx => List.mem_append_right _ (by simpa using hx)
    intro x hx
    exact length_le_of_fits h .yields (List.mem_map.mpr ⟨x, by simpa using hx, rfl⟩)
  | raises =>
    apply underHeader_eq
    intro r hr
    rw [raiseLines, descriptionLines_eq (htidy.document.raise_description hr)]
    · rfl
    · intro line hl
      apply length_le_of_fits h .raises (Sectioning.raises_mem_bodies hr)
      exact List.mem_flatMap.mpr ⟨r, hr, List.mem_cons_of_mem _ hl⟩
  | examples =>
    apply eachUnderHeader_eq
    intro t ht
    rw [Layout.verbatim_of_clean 0 (htidy.document.examples t ht).clean, indent_zero]
  | notes => exact freeTextLines_eq htidy h rfl
  | warnings => exact freeTextLines_eq htidy h rfl
  | seeAlso => exact freeTextLines_eq htidy h rfl
  | references => exact freeTextLines_eq htidy h rfl

/-- A document whose lines all fit is written with every line whole. -/
theorem render_of_fits (htidy : Tidy d) (h : Layout.Fits (sectioning.whole d) width) :
    render d width = sectioning.text d := by
  have hhead : Layout.headBlocks d width = Layout.wholeHead d :=
    Layout.headBlocks_of_short htidy.document fun block hb => h block (List.mem_append_left _ hb)
  rw [render, hhead]
  exact Sectioning.assemble_eq_text (sectionLines_eq htidy h)

end Width

end Docstring.Numpy
