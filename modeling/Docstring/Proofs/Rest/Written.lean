-- Which documents a field list can carry, and how it is written when no line is wrapped: every
-- parameter, value, exception and text is a list of fields, and a field is a marker with a text.
import Docstring.Proofs.Document.Reading
import Docstring.Proofs.Document.Whole
import Docstring.Proofs.Text.Letter
import Docstring.Rest.Parser
import Docstring.Rest.Printer

namespace Docstring.Rest

open Text

/-! ## Documents for this style -/

/-- What a field list asks of a document: no line of the head reads as a marker, types are on one
line, and no exception has a colon, which would end its field. -/
@[mk_iff]
structure Tidy (d : Document) : Prop where
  document : d.Tidy
  marks : ∀ line ∈ d.headLines, classify line = none
  paramTypes : ∀ p ∈ d.parameters, ∀ t ∈ p.type, IsOneLine t
  valueTypes : ∀ doc ∈ d.values, ∀ t ∈ doc.type, IsOneLine t
  exceptions : ∀ r ∈ d.raises, ':' ∉ r.exception

instance : DecidablePred Tidy := fun d => decidable_of_iff _ (tidy_iff d).symm

/-! ## Fields -/

/-- A field of which no line is wrapped: what stands between its colons, the text beside them and
the lines below, which are written deeper. -/
structure Item where
  name : Text
  first : Text
  below : List Line
deriving DecidableEq

namespace Item

/-- The marker of a field. -/
def lead (i : Item) : Text := ':' :: i.name ++ [':']

def lines (i : Item) : List Line :=
  Layout.beside i.lead i.first :: indent continuationIndent i.below

/-- A field that describes something. -/
def describing (name t : Text) : Item := ⟨name, firstLine t, laterLines t⟩

/-- A field that gives a type. -/
def typing (name type : Text) : Item := ⟨name, type, []⟩

/-- A field over a text of its own. -/
def holding (name t : Text) : Item := ⟨name, [], splitLines t⟩

/-- What a field must be like in order to be read back: its name has no colon, and its texts are
clean. -/
structure Tidy (i : Item) : Prop where
  line : IsOneLine i.name
  colon : ':' ∉ i.name
  trimmed : trim i.first = i.first
  newline : '\n' ∉ i.first
  clean : ∀ line ∈ i.below, IsClean line
  ends : EndsInk i.below

theorem isOneLine_lead {i : Item} (h : IsOneLine i.name) : IsOneLine i.lead := by
  have hname : IsOneLine (i.name ++ [':']) := IsOneLine.append h.opens h.newline (by decide)
  exact IsOneLine.append (s := [':']) (by decide) (by decide) hname

theorem Tidy.isOneLine_head {i : Item} (h : i.Tidy) : IsOneLine (Layout.beside i.lead i.first) := by
  have hlead := isOneLine_lead h.line
  by_cases hf : i.first = []
  · rw [hf, Layout.beside_nil_right]
    exact hlead
  · rw [Layout.beside_eq_append hlead.nonempty hf, ← List.singleton_append, ← List.append_assoc]
    apply IsOneLine.append (opensWithInk_append _ hlead.opens) _ ⟨hf, h.trimmed, h.newline⟩
    simp [hlead.newline]

theorem Tidy.isBlock {i : Item} (h : i.Tidy) : IsBlock i.lines := by
  refine ⟨h.isOneLine_head.opens, ?_, ?_⟩
  · exact endsInk_cons h.isOneLine_head.not_blank (endsInk_indent _ h.ends)
  · intro line hl
    rcases List.mem_cons.mp hl with rfl | hl
    · exact h.isOneLine_head.isClean
    · exact isClean_of_mem_indent h.clean hl

section Kinds

variable {name t : Text}

theorem tidy_describing (hname : IsOneLine name) (hcolon : ':' ∉ name) (ht : IsDescription t) :
    (describing name t).Tidy :=
  ⟨hname, hcolon, ht.trim_firstLine,
    newline_notMem_of_mem_splitLines (t := t) (by simp [describing, splitLines_eq_cons]),
    ht.clean_laterLines, ht.endsInk_laterLines⟩

theorem tidy_typing (hname : IsOneLine name) (hcolon : ':' ∉ name) (ht : IsOneLine t) :
    (typing name t).Tidy :=
  ⟨hname, hcolon, ht.trimmed, ht.newline, by simp [typing], by simp [typing, EndsInk]⟩

theorem tidy_holding (hname : IsOneLine name) (hcolon : ':' ∉ name)
    (ht : IsVerbatim (splitLines t)) : (holding name t).Tidy :=
  ⟨hname, hcolon, rfl, by simp [holding], ht.clean, ht.ends⟩

end Kinds

end Item

/-! ## Documents as fields -/

def paramItems (p : Parameter) : List Item :=
  .describing ("param ".toList ++ p.display) (p.description.getD []) ::
    p.type.toList.map (.typing ("type ".toList ++ p.display))

/-- A value with a type and no description has no field for one. -/
def valueItems (name typeName : Text) (doc : ReturnDoc) : List Item :=
  (if doc.description.isSome || doc.type.isNone then
      [.describing name (doc.description.getD [])]
    else []) ++
    doc.type.toList.map (.typing typeName)

def raiseItem (r : RaiseEntry) : Item :=
  .describing ("raises ".toList ++ r.exception) (r.description.getD [])

/-- The name of the field that opens a block of a kind. -/
def blockName (kind : SectionKind) : Text := (blockHeader kind).tail.dropLast

/-- The fields of each kind of section. -/
def items (d : Document) : SectionKind → List Item
  | .params => d.parameters.flatMap paramItems
  | .returns => d.returns.toList.flatMap (valueItems "returns".toList "rtype".toList)
  | .yields => d.yields.toList.flatMap (valueItems "yields".toList "ytype".toList)
  | .raises => d.raises.map raiseItem
  | .examples => d.examples.map (.holding (blockName .examples))
  | kind => (Layout.freeTexts d kind).map (.holding (blockName kind))

/-- The sections that stand apart from the field list. -/
def blockSections : List SectionKind := [.examples, .notes, .warnings, .seeAlso, .references]

/-- The fields that make up one list. -/
def listed (d : Document) : List Item := fieldSections.flatMap (items d)

/-- The fields that stand apart from the others. -/
def apart (d : Document) : List Item := blockSections.flatMap (items d)

/-- The field list and the other fields as blocks. -/
def wholeBlocks (d : Document) : List (List Line) :=
  (if (listed d).isEmpty then [] else [(listed d).flatMap Item.lines]) ++ (apart d).map Item.lines

/-- The blocks of the whole document. -/
def whole (d : Document) : List (List Line) := Layout.wholeHead d ++ wholeBlocks d

section Tidy

variable {d : Document}

theorem Tidy.param_items (h : Tidy d) {p : Parameter} (hp : p ∈ d.parameters) :
    ∀ i ∈ paramItems p, i.Tidy := by
  have hname := h.document.names p hp
  have hline := Parameter.isOneLine_display hname
  have hcolon : ':' ∉ p.display := Parameter.notMem_display hname (by decide) (by decide)
  intro i hi
  rcases List.mem_cons.mp hi with rfl | hi
  · exact Item.tidy_describing (IsOneLine.append (by decide) (by decide) hline)
      (by simp [hcolon]) (h.document.param_description hp)
  · obtain ⟨type, ht, rfl⟩ := List.mem_map.mp hi
    exact Item.tidy_typing (IsOneLine.append (by decide) (by decide) hline) (by simp [hcolon])
      (h.paramTypes p hp type (by simpa using ht))

theorem Tidy.value_items (h : Tidy d) {doc : ReturnDoc} (hdoc : doc ∈ d.values)
    {name typeName : Text} (hname : IsOneLine name ∧ ':' ∉ name)
    (htype : IsOneLine typeName ∧ ':' ∉ typeName) :
    ∀ i ∈ valueItems name typeName doc, i.Tidy := by
  intro i hi
  rcases List.mem_append.mp hi with hi | hi
  · split at hi
    · rw [List.mem_singleton.mp hi]
      exact Item.tidy_describing hname.1 hname.2 (h.document.value_description hdoc)
    · simp at hi
  · obtain ⟨type, ht, rfl⟩ := List.mem_map.mp hi
    exact Item.tidy_typing htype.1 htype.2 (h.valueTypes doc hdoc type (by simpa using ht))

theorem Tidy.raise_item (h : Tidy d) {r : RaiseEntry} (hr : r ∈ d.raises) : (raiseItem r).Tidy :=
  Item.tidy_describing
    (IsOneLine.append (by decide) (by decide) (h.document.exceptions r hr))
    (by simp [h.exceptions r hr]) (h.document.raise_description hr)

theorem blockName_line (kind : SectionKind) :
    IsOneLine (blockName kind) ∧ ':' ∉ blockName kind := by
  cases kind <;> decide

theorem Tidy.items (h : Tidy d) (kind : SectionKind) : ∀ i ∈ items d kind, i.Tidy := by
  have hfree : ∀ kind : SectionKind, ∀ i ∈ (Layout.freeTexts d kind).map
      (Item.holding (blockName kind)), i.Tidy := by
    intro kind i hi
    obtain ⟨t, ht, rfl⟩ := List.mem_map.mp hi
    exact Item.tidy_holding (blockName_line kind).1 (blockName_line kind).2
      (h.document.freeTexts kind (SectionKind.mem_order kind) t ht).isVerbatim
  cases kind with
  | params =>
    intro i hi
    obtain ⟨p, hp, hi⟩ := List.mem_flatMap.mp hi
    exact h.param_items hp i hi
  | returns =>
    intro i hi
    obtain ⟨doc, hdoc, hi⟩ := List.mem_flatMap.mp hi
    exact h.value_items (List.mem_append_left _ hdoc) (by decide) (by decide) i hi
  | yields =>
    intro i hi
    obtain ⟨doc, hdoc, hi⟩ := List.mem_flatMap.mp hi
    exact h.value_items (List.mem_append_right _ hdoc) (by decide) (by decide) i hi
  | raises =>
    intro i hi
    obtain ⟨r, hr, rfl⟩ := List.mem_map.mp hi
    exact h.raise_item hr
  | examples =>
    intro i hi
    obtain ⟨t, ht, rfl⟩ := List.mem_map.mp hi
    exact Item.tidy_holding (by decide) (by decide) (h.document.examples t ht).isVerbatim
  | notes => exact hfree .notes
  | warnings => exact hfree .warnings
  | seeAlso => exact hfree .seeAlso
  | references => exact hfree .references

theorem Tidy.all_items (h : Tidy d) : ∀ i ∈ listed d ++ apart d, i.Tidy := by
  intro i hi
  simp only [listed, apart, List.mem_append, List.mem_flatMap] at hi
  rcases hi with ⟨kind, _, hi⟩ | ⟨kind, _, hi⟩ <;> exact h.items kind i hi

theorem isBlock_of_mem_wholeBlocks (h : ∀ i ∈ listed d ++ apart d, i.Tidy) {block : List Line}
    (hb : block ∈ wholeBlocks d) : IsBlock block := by
  rcases List.mem_append.mp hb with hb | hb
  · split at hb
    · simp at hb
    · rename_i hne
      rw [List.mem_singleton.mp hb]
      exact Layout.isBlock_flatMap (by simpa using hne)
        fun i hi => (h i (List.mem_append_left _ hi)).isBlock
  · obtain ⟨i, hi, rfl⟩ := List.mem_map.mp hb
    exact (h i (List.mem_append_right _ hi)).isBlock

end Tidy

/-! ## Writing at a great width -/

section Width

variable {d : Document} {width : Nat}

theorem length_le_of_fits (h : Layout.Fits (whole d) width) {kind : SectionKind} {i : Item}
    (hi : i ∈ items d kind) : ∀ line ∈ i.lines, line.length ≤ width := by
  intro line hl
  have hkind : kind ∈ fieldSections ∨ kind ∈ blockSections := by
    cases kind <;> simp [fieldSections, blockSections]
  rcases hkind with hkind | hkind
  · have hmem : i ∈ listed d := List.mem_flatMap.mpr ⟨kind, hkind, hi⟩
    have hne : listed d ≠ [] := List.ne_nil_of_mem hmem
    apply h ((listed d).flatMap Item.lines) _ line (List.mem_flatMap.mpr ⟨i, hmem, hl⟩)
    simp [whole, wholeBlocks, hne]
  · have hmem : i ∈ apart d := List.mem_flatMap.mpr ⟨kind, hkind, hi⟩
    apply h i.lines _ line hl
    exact List.mem_append_right _ (List.mem_append_right _ (List.mem_map.mpr ⟨i, hmem, rfl⟩))

theorem fieldLines_eq (name : Text) {description : Option Text}
    (hdesc : IsDescription (description.getD []))
    (h : ∀ line ∈ (Item.describing name (description.getD [])).lines, line.length ≤ width) :
    fieldLines width (':' :: name ++ [':']) description =
      (Item.describing name (description.getD [])).lines := by
  have hcolumn : continuationIndent = 0 + continuationIndent := (Nat.zero_add _).symm
  have hlines : (Item.describing name (description.getD [])).lines =
      indent 0 (Layout.wholeEntry (':' :: name ++ [':']) continuationIndent
        (description.getD [])) := by
    rw [indent_zero]
    rfl
  rw [fieldLines, hcolumn, hlines]
  exact Layout.hanging_of_short continuationIndent hdesc (Or.inl (by simp))
    fun line hl => h line (hlines ▸ hl)

theorem typeLine_eq {name type : Text} (h : type ≠ []) :
    [typeLine name type] = (Item.typing name type).lines := by
  have hlead : (Item.typing name type).lead ≠ [] := by simp [Item.lead]
  have hline : Layout.beside (Item.typing name type).lead type = typeLine name type := by
    rw [Layout.beside_eq_append hlead h]
    simp [typeLine, Item.typing, Item.lead]
  exact congrArg (· :: []) hline.symm

theorem map_typeLine (types : List Text) (name : Text) (h : ∀ t ∈ types, IsOneLine t) :
    types.map (typeLine name) = (types.map (Item.typing name)).flatMap Item.lines := by
  induction types with
  | nil => rfl
  | cons t types ih =>
    rw [List.map_cons, List.map_cons, List.flatMap_cons, ← typeLine_eq (h t (by simp)).nonempty,
      ih fun x hx => h x (by simp [hx])]
    rfl

theorem paramLines_eq (htidy : Tidy d) {p : Parameter} (hp : p ∈ d.parameters)
    (h : ∀ i ∈ paramItems p, ∀ line ∈ i.lines, line.length ≤ width) :
    paramLines width p = (paramItems p).flatMap Item.lines := by
  have hfield := fieldLines_eq ("param ".toList ++ p.display)
    (htidy.document.param_description hp) (h _ (by simp [paramItems]))
  have htypes := map_typeLine p.type.toList ("type ".toList ++ p.display)
    fun t ht => htidy.paramTypes p hp t (by simpa using ht)
  have hlead : ":param ".toList ++ p.display ++ [':'] =
      ':' :: ("param ".toList ++ p.display) ++ [':'] := by simp
  rw [paramLines, hlead, hfield, htypes, paramItems, List.flatMap_cons]

theorem returnLines_eq (htidy : Tidy d) {doc : ReturnDoc} (hdoc : doc ∈ d.values)
    {name typeName : Text}
    (h : ∀ i ∈ valueItems name typeName doc, ∀ line ∈ i.lines, line.length ≤ width) :
    returnLines width name typeName doc = (valueItems name typeName doc).flatMap Item.lines := by
  have htypes := map_typeLine doc.type.toList typeName
    fun t ht => htidy.valueTypes doc hdoc t (by simpa using ht)
  rw [returnLines, valueItems, List.flatMap_append, htypes]
  unfold valueItems at h
  split
  · rename_i hwritten
    rw [if_pos hwritten] at h
    have hfield := fieldLines_eq name
      (htidy.document.value_description hdoc) (h _ (by simp))
    rw [hfield, List.flatMap_singleton]
  · rfl

theorem raiseLines_eq (htidy : Tidy d) {r : RaiseEntry} (hr : r ∈ d.raises)
    (h : ∀ line ∈ (raiseItem r).lines, line.length ≤ width) :
    raiseLines width r = (raiseItem r).lines := by
  have hlead : ":raises ".toList ++ r.exception ++ [':'] =
      ':' :: ("raises ".toList ++ r.exception) ++ [':'] := by simp
  rw [raiseLines, hlead]
  exact fieldLines_eq _ (htidy.document.raise_description hr) h

/-- The sections of the field list. -/
theorem sectionLines_eq (htidy : Tidy d) (h : Layout.Fits (whole d) width) {kind : SectionKind}
    (hkind : kind ∈ fieldSections) :
    sectionLines d kind width = (items d kind).flatMap Item.lines := by
  have hfits : ∀ i ∈ items d kind, ∀ line ∈ i.lines, line.length ≤ width :=
    fun i hi => length_le_of_fits h hi
  have hvalue : ∀ doc : Option ReturnDoc, ∀ name typeName, (∀ x ∈ doc, x ∈ d.values) →
      (∀ i ∈ doc.toList.flatMap (valueItems name typeName), ∀ line ∈ i.lines,
        line.length ≤ width) →
      doc.toList.flatMap (returnLines width name typeName) =
        (doc.toList.flatMap (valueItems name typeName)).flatMap Item.lines := by
    intro doc name typeName hdoc hshort
    cases doc with
    | none => rfl
    | some doc =>
      simp only [Option.toList_some, List.flatMap_cons, List.flatMap_nil,
        List.append_nil] at hshort ⊢
      exact returnLines_eq htidy (hdoc doc rfl) hshort
  simp only [fieldSections, List.mem_cons, List.not_mem_nil, or_false] at hkind
  rcases hkind with rfl | rfl | rfl | rfl
  · simp only [sectionLines, items, List.flatMap_assoc]
    exact List.flatMap_congr fun p hp => paramLines_eq htidy hp fun i hi =>
      hfits i (List.mem_flatMap.mpr ⟨p, hp, hi⟩)
  · exact hvalue d.returns _ _ (fun x hx => List.mem_append_left _ (by simpa using hx)) hfits
  · exact hvalue d.yields _ _ (fun x hx => List.mem_append_right _ (by simpa using hx)) hfits
  · simp only [sectionLines, items, List.flatMap_map]
    exact List.flatMap_congr fun r hr => raiseLines_eq htidy hr
      (hfits _ (List.mem_map.mpr ⟨r, hr, rfl⟩))

theorem blockHeader_eq (kind : SectionKind) (t : Text) :
    blockHeader kind = (Item.holding (blockName kind) t).lead := by
  cases kind <;> rfl

/-- The sections that stand apart. -/
theorem blocks_eq (htidy : Tidy d) (h : Layout.Fits (whole d) width) {kind : SectionKind}
    (hkind : kind ∈ blockSections) : blocks d kind width = (items d kind).map Item.lines := by
  have hfits : ∀ i ∈ items d kind, ∀ line ∈ i.lines, line.length ≤ width :=
    fun i hi => length_le_of_fits h hi
  have hholding : ∀ t, (Item.holding (blockName kind) t).lines =
      blockHeader kind :: indent continuationIndent (splitLines t) := by
    intro t
    rw [Item.lines, blockHeader_eq kind t]
    rfl
  by_cases hex : kind = .examples
  · subst hex
    simp only [blocks, items, if_true, List.map_map]
    refine List.map_congr_left fun t ht => ?_
    simp only [Function.comp_apply, hholding,
      Layout.verbatim_of_clean continuationIndent (htidy.document.examples t ht).clean]
  · have hitems : items d kind = (Layout.freeTexts d kind).map (.holding (blockName kind)) := by
      cases kind <;> first | rfl | simp_all [blockSections]
    rw [hitems] at hfits ⊢
    simp only [blocks, if_neg hex, List.map_map]
    refine List.map_congr_left fun t ht => ?_
    have hblock := htidy.document.freeTexts kind (SectionKind.mem_order kind) t ht
    have hwrap : indent continuationIndent
        (Layout.wrapProse (width - continuationIndent) t) =
        indent continuationIndent (splitLines t) := by
      apply Layout.indent_wrapProse_of_short hblock
      intro line hl
      apply hfits _ (List.mem_map.mpr ⟨t, ht, rfl⟩)
      rw [hholding]
      exact List.mem_cons_of_mem _ hl
    simp only [Function.comp_apply, hholding, hwrap]

/-- A document whose lines all fit is written with every line whole. -/
theorem render_of_fits (htidy : Tidy d) (h : Layout.Fits (whole d) width) :
    render d width = Layout.assemble (whole d) := by
  have hhead : Layout.headBlocks d width = Layout.wholeHead d :=
    Layout.headBlocks_of_short htidy.document fun block hb => h block (List.mem_append_left _ hb)
  have hlisted : (fieldSections.flatMap fun kind => sectionLines d kind width) =
      (listed d).flatMap Item.lines := by
    rw [listed, List.flatMap_assoc]
    exact List.flatMap_congr fun kind hkind => sectionLines_eq htidy h hkind
  have hapart : ((SectionKind.order.drop fieldSections.length).flatMap fun kind =>
      blocks d kind width) = (apart d).map Item.lines := by
    rw [apart, List.map_flatMap]
    exact List.flatMap_congr fun kind hkind => blocks_eq htidy h hkind
  simp only [render, hhead, hlisted, hapart, Layout.assemble, whole, wholeBlocks]
  rw [← List.append_assoc, Layout.separate_append, Layout.separate_append (_ ++ _),
    Layout.separate_append, Layout.separate_append]
  split
  · rename_i hnil
    rw [List.isEmpty_iff] at hnil
    simp [hnil, Layout.separate]
  · rfl

end Width

end Docstring.Rest
