-- Which documents the Google style can carry, and how it writes them when no line is wrapped.
import Docstring.Google.Printer
import Docstring.Proofs.Document.Sectioned
import Docstring.Proofs.Text.Bracket
import Docstring.Proofs.Text.Letter

namespace Docstring.Google

open Text

/-! ## Documents for this style -/

/-- Does a line read as `type: text`? -/
def opensWithType (line : Line) : Bool :=
  match cutAtColon? line with
  | some (left, _) => looksLikeType (trim left)
  | none => false

/-- What the Google style asks of a document: no line of the head is a header, types are balanced
so that the bracket or colon after them is found, and a value without a type does not read as if
it had one. -/
@[mk_iff]
structure Tidy (d : Document) : Prop where
  document : d.Tidy
  headers : ∀ line ∈ d.headLines, header? line = none
  paramTypes : ∀ p ∈ d.parameters, ∀ t ∈ p.type, IsOneLine t ∧ isBalanced t = true
  valueTypes : ∀ doc ∈ d.values, ∀ t ∈ doc.type,
    trim t = t ∧ '\n' ∉ t ∧ looksLikeType t = true ∧ cutAtColon? t = none
  untyped : ∀ doc ∈ d.values, doc.type = none →
    opensWithType (firstLine (doc.description.getD [])) = false
  exceptions : ∀ r ∈ d.raises, isBalanced r.exception = true ∧ cutAtColon? r.exception = none

instance : DecidablePred Tidy := fun d => decidable_of_iff _ (tidy_iff d).symm

theorem Tidy.isOneLine_valueType {d : Document} (h : Tidy d) {doc : ReturnDoc}
    (hdoc : doc ∈ d.values) {t : Text} (ht : t ∈ doc.type) : IsOneLine t := by
  obtain ⟨htrim, hline, htype, _⟩ := h.valueTypes doc hdoc t ht
  refine ⟨?_, htrim, hline⟩
  rintro rfl
  simp [looksLikeType] at htype

/-! ## Whole lines -/

def wholeValue (doc : ReturnDoc) : List Line :=
  let text := doc.description.getD []
  match doc.type with
  | some type => Layout.wholeEntry (type ++ [':']) 0 text
  | none => if isBlank text then [] else Layout.wholeEntry [] 0 text

/-- The Google style as a way to write sections. -/
def sectioning : Sectioning where
  param p := Layout.wholeEntry (paramLead p) bodyIndent (p.description.getD [])
  value := wholeValue
  raise r := Layout.wholeEntry (r.exception ++ [':']) bodyIndent (r.description.getD [])
  under kind body := headerLine kind :: indent bodyIndent body

theorem isOneLine_colon {t : Text} (h : IsOneLine t) : IsOneLine (t ++ [':']) :=
  IsOneLine.append h.opens h.newline (by decide)

theorem isOneLine_paramLead {p : Parameter} (hname : isIdentifier p.name = true)
    (htype : ∀ t ∈ p.type, IsOneLine t) : IsOneLine (paramLead p) := by
  have hdisplay := Parameter.isOneLine_display hname
  unfold paramLead
  cases ht : p.type with
  | none => exact isOneLine_colon hdisplay
  | some type =>
    have hline : '\n' ∉ type := (htype type (by simp [ht])).newline
    have hopen := opensWithInk_append (" (".toList ++ type) hdisplay.opens
    apply IsOneLine.append (by simpa using hopen) _ (by decide)
    simp [hdisplay.newline, hline]

section Bodies

variable {d : Document}

theorem Tidy.isBlock_param (h : Tidy d) {p : Parameter} (hp : p ∈ d.parameters) :
    IsBlock (sectioning.param p) :=
  Layout.isBlock_wholeEntry _
    (isOneLine_paramLead (h.document.names p hp) fun t ht => (h.paramTypes p hp t ht).1)
    (h.document.param_description hp)

theorem Tidy.isBlock_raise (h : Tidy d) {r : RaiseEntry} (hr : r ∈ d.raises) :
    IsBlock (sectioning.raise r) :=
  Layout.isBlock_wholeEntry _ (isOneLine_colon (h.document.exceptions r hr))
    (h.document.raise_description hr)

theorem wholeEntry_nil_zero (t : Text) : Layout.wholeEntry [] 0 t = splitLines t := by
  rw [Layout.wholeEntry, Layout.beside_nil_left, indent_zero, ← splitLines_eq_cons]

/-- The section of a value is empty or a block. -/
theorem Tidy.value_cases (h : Tidy d) {doc : ReturnDoc} (hdoc : doc ∈ d.values) :
    sectioning.value doc = [] ∨ IsBlock (sectioning.value doc) := by
  have htext := h.document.value_description hdoc
  change wholeValue doc = [] ∨ IsBlock (wholeValue doc)
  unfold wholeValue
  cases ht : doc.type with
  | some type =>
    have hlead := isOneLine_colon (h.isOneLine_valueType hdoc (t := type) (by simp [ht]))
    exact Or.inr (Layout.isBlock_wholeEntry 0 hlead htext)
  | none =>
    dsimp only
    split
    · exact Or.inl rfl
    · rename_i hink
      right
      rw [wholeEntry_nil_zero]
      rcases htext with hnil | hblock
      · simp [hnil, isBlank] at hink
      · exact hblock

/-- Below every header there are clean lines, and the last one is not blank. -/
theorem Tidy.body_clean (h : Tidy d) {kind : SectionKind} {body : List Line}
    (hbody : body ∈ sectioning.bodies d kind) :
    EndsInk body ∧ ∀ line ∈ body, IsClean line := by
  refine Sectioning.forall_bodies (P := fun body => EndsInk body ∧ ∀ line ∈ body, IsClean line)
    ?_ ?_ ?_ (fun t ht => ?_) (fun kind hkind t ht => ?_) kind body hbody
  · intro hne
    have hblock := Layout.isBlock_flatMap hne fun p hp => h.isBlock_param hp
    exact ⟨hblock.ends, hblock.clean⟩
  · intro doc hdoc
    rcases h.value_cases hdoc with hnil | hblock
    · rw [hnil]
      exact ⟨by simp [EndsInk], by simp⟩
    · exact ⟨hblock.ends, hblock.clean⟩
  · intro hne
    have hblock := Layout.isBlock_flatMap hne fun r hr => h.isBlock_raise hr
    exact ⟨hblock.ends, hblock.clean⟩
  · have hblock := h.document.examples t ht
    exact ⟨hblock.ends, hblock.clean⟩
  · have hblock := h.document.freeTexts kind hkind t ht
    exact ⟨hblock.ends, hblock.clean⟩

theorem isOneLine_headerLine (kind : SectionKind) : IsOneLine (headerLine kind) := by
  cases kind <;> decide

theorem isBlock_under {body : List Line} (kind : SectionKind)
    (h : EndsInk body ∧ ∀ line ∈ body, IsClean line) : IsBlock (sectioning.under kind body) :=
  Layout.isBlock_header bodyIndent (isOneLine_headerLine kind) h.1 h.2

theorem Tidy.isBlock_of_mem_blocks (h : Tidy d) {block : List Line}
    (hblock : block ∈ sectioning.blocks d) : IsBlock block := by
  obtain ⟨⟨kind, body⟩, hmem, rfl⟩ := List.mem_map.mp hblock
  exact isBlock_under kind (h.body_clean (Sectioning.mem_bodies_of_mem_sections hmem))

end Bodies

/-! ## Writing at a great width -/

section Width

variable {d : Document} {width : Nat}

theorem length_le_of_fits (h : Layout.Fits (sectioning.whole d) width) (kind : SectionKind)
    {body : List Line} (hbody : body ∈ sectioning.bodies d kind) :
    ∀ line ∈ indent bodyIndent body, line.length ≤ width := by
  intro line hl
  apply h (sectioning.under kind body) _ line (by simp [sectioning, hl])
  exact List.mem_append_right _ (Sectioning.mem_blocks_of_mem_bodies hbody)

theorem returnLines_eq (htidy : Tidy d) {doc : ReturnDoc} (hdoc : doc ∈ d.values)
    (h : ∀ line ∈ indent bodyIndent (wholeValue doc), line.length ≤ width) :
    returnLines width doc = indent bodyIndent (wholeValue doc) := by
  have htext := htidy.document.value_description hdoc
  unfold returnLines wholeValue at *
  cases ht : doc.type with
  | some type =>
    simp only [ht] at h ⊢
    exact Layout.hanging_of_short 0 htext (by simp) h
  | none =>
    simp only [ht] at h ⊢
    split
    · rfl
    · rename_i hink
      rw [if_neg hink] at h
      have hne : doc.description.getD [] ≠ [] := by
        intro hnil
        simp [hnil, isBlank] at hink
      exact Layout.hanging_of_short 0 htext (Or.inr hne) h

theorem entryLines_eq {lead : Text} {description : Option Text}
    (hdesc : IsDescription (description.getD [])) (hlead : lead ≠ [])
    (h : ∀ line ∈ indent bodyIndent (Layout.wholeEntry lead bodyIndent (description.getD [])),
      line.length ≤ width) :
    entryLines width lead description =
      indent bodyIndent (Layout.wholeEntry lead bodyIndent (description.getD [])) := by
  have hcolumn : continuationIndent = bodyIndent + bodyIndent := rfl
  rw [entryLines, hcolumn]
  exact Layout.hanging_of_short bodyIndent hdesc (Or.inl hlead) h

/-- Entries under one header are whole if each of them is. -/
theorem underHeader_eq {α : Type} {entries : List α} {lines whole : α → List Line}
    (kind : SectionKind) (h : ∀ e ∈ entries, lines e = indent bodyIndent (whole e)) :
    underHeader kind (entries.map lines) = Layout.separate
      ((if entries.isEmpty then [] else [entries.flatMap whole]).map (sectioning.under kind)) := by
  have hflat : (entries.map lines).flatten = indent bodyIndent (entries.flatMap whole) := by
    rw [indent_flatMap, List.flatMap_def]
    exact congrArg _ (List.map_congr_left h)
  rw [Sectioning.separate_entries, underHeader, hflat, List.isEmpty_map]
  rfl

theorem eachUnderHeader_eq {texts : List Text} {lines : Text → List Line} (kind : SectionKind)
    (h : ∀ t ∈ texts, lines t = indent bodyIndent (splitLines t)) :
    eachUnderHeader kind (texts.map lines) =
      Layout.separate ((texts.map splitLines).map (sectioning.under kind)) := by
  rw [eachUnderHeader, List.map_map, List.map_map]
  refine congrArg _ (List.map_congr_left fun t ht => ?_)
  simp [h t ht, sectioning]

theorem valueLines_eq (htidy : Tidy d) (kind : SectionKind) {doc : Option ReturnDoc}
    (hdoc : ∀ x ∈ doc, x ∈ d.values)
    (h : ∀ x ∈ doc, ∀ line ∈ indent bodyIndent (wholeValue x), line.length ≤ width) :
    underHeader kind (doc.toList.map (returnLines width)) =
      Layout.separate ((doc.toList.map sectioning.value).map (sectioning.under kind)) := by
  cases doc with
  | none => rfl
  | some doc =>
    have hwhole := returnLines_eq htidy (hdoc doc rfl) (h doc rfl)
    simp [underHeader, hwhole, Layout.separate_singleton, sectioning]

theorem freeTextLines_eq (htidy : Tidy d) (h : Layout.Fits (sectioning.whole d) width)
    {kind : SectionKind}
    (hkind : sectioning.bodies d kind = (Layout.freeTexts d kind).map splitLines) :
    eachUnderHeader kind ((Layout.freeTexts d kind).map fun text =>
        indent bodyIndent (Layout.wrapProse (width - bodyIndent) text)) =
      Layout.separate ((sectioning.bodies d kind).map (sectioning.under kind)) := by
  rw [hkind]
  apply eachUnderHeader_eq
  intro t ht
  have hbody : splitLines t ∈ sectioning.bodies d kind := by
    rw [hkind]
    exact List.mem_map.mpr ⟨t, ht, rfl⟩
  have hblock := htidy.document.freeTexts kind (SectionKind.mem_order kind) t ht
  exact Layout.indent_wrapProse_of_short hblock (length_le_of_fits h kind hbody)

/-- A section whose lines all fit is its bodies, each under a header. -/
theorem sectionLines_eq (htidy : Tidy d) (h : Layout.Fits (sectioning.whole d) width)
    (kind : SectionKind) :
    sectionLines d kind width =
      Layout.separate ((sectioning.bodies d kind).map (sectioning.under kind)) := by
  cases kind with
  | params =>
    apply underHeader_eq
    intro p hp
    have hlead := isOneLine_paramLead (htidy.document.names p hp)
      fun t ht => (htidy.paramTypes p hp t ht).1
    apply entryLines_eq (htidy.document.param_description hp) hlead.nonempty
    intro line hl
    apply length_le_of_fits h .params (Sectioning.params_mem_bodies hp)
    rw [indent_flatMap, List.mem_flatMap]
    exact ⟨p, hp, hl⟩
  | returns =>
    apply valueLines_eq htidy .returns fun x hx => List.mem_append_left _ (by simpa using hx)
    intro x hx
    exact length_le_of_fits h .returns (List.mem_map.mpr ⟨x, by simpa using hx, rfl⟩)
  | yields =>
    apply valueLines_eq htidy .yields fun x hx => List.mem_append_right _ (by simpa using hx)
    intro x hx
    exact length_le_of_fits h .yields (List.mem_map.mpr ⟨x, by simpa using hx, rfl⟩)
  | raises =>
    apply underHeader_eq
    intro r hr
    apply entryLines_eq (htidy.document.raise_description hr) (by simp)
    intro line hl
    apply length_le_of_fits h .raises (Sectioning.raises_mem_bodies hr)
    rw [indent_flatMap, List.mem_flatMap]
    exact ⟨r, hr, hl⟩
  | examples =>
    apply eachUnderHeader_eq
    intro t ht
    exact Layout.verbatim_of_clean bodyIndent (htidy.document.examples t ht).clean
  | notes => exact freeTextLines_eq htidy h rfl
  | warnings => exact freeTextLines_eq htidy h rfl
  | seeAlso => exact freeTextLines_eq htidy h rfl
  | references => exact freeTextLines_eq htidy h rfl

/-- A document whose lines all fit is written with every line whole. -/
theorem render_of_fits (htidy : Tidy d) (h : Layout.Fits (sectioning.whole d) width) :
    render d width = sectioning.text d := by
  have hhead : Layout.headBlocks d width = Layout.wholeHead d :=
    Layout.headBlocks_of_short htidy.document fun block hb => h block (List.mem_append_left _ hb)
  rw [render, hhead]
  exact Sectioning.assemble_eq_text (sectionLines_eq htidy h)

end Width

end Docstring.Google
