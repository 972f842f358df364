-- What is written around the section on a value, in any style: blocks of which each starts with a line
-- of ink. A document that differs in that section only is written with the same lines around it.
import Docstring.Proofs.Document.Canonical
import Docstring.Proofs.Value

namespace Docstring

open Text

/-! ## How sections start -/

theorem Google.head?_sectionLines (d : Document) (kind : SectionKind) (width : Nat) :
    ∀ line ∈ (sectionLines d kind width).head?, line = headerLine kind := by
  have hunder : ∀ entries, ∀ line ∈ (underHeader kind entries).head?, line = headerLine kind := by
    intro entries line hline
    unfold underHeader at hline
    split at hline
    · cases hline
    · exact (Option.some.inj hline).symm
  have heach : ∀ blocks, ∀ line ∈ (eachUnderHeader kind blocks).head?, line = headerLine kind :=
    Layout.head?_separate_titled _ []
  cases kind
  case params | returns | yields | raises => exact hunder _
  case examples | notes | warnings | seeAlso | references => exact heach _

theorem Numpy.head?_sectionLines (d : Document) (kind : SectionKind) (width : Nat) :
    ∀ line ∈ (sectionLines d kind width).head?, line = title kind := by
  have hunder : ∀ entries, ∀ line ∈ (underHeader kind entries).head?, line = title kind := by
    intro entries line hline
    unfold underHeader at hline
    split at hline
    · cases hline
    · exact (Option.some.inj hline).symm
  have heach : ∀ blocks, ∀ line ∈ (eachUnderHeader kind blocks).head?, line = title kind :=
    Layout.head?_separate_titled _ _
  cases kind
  case params | returns | yields | raises => exact hunder _
  case examples | notes | warnings | seeAlso | references => exact heach _

section Fields

/-- A line that starts with a colon. -/
def Rest.OpensField (line : Line) : Prop := ∃ rest, line = ':' :: rest

theorem Rest.head?_fieldLines (width : Nat) {lead : Text} (description : Option Text)
    (hlead : Rest.OpensField lead) : ∀ line ∈ (fieldLines width lead description).head?,
      Rest.OpensField line := by
  obtain ⟨rest, rfl⟩ := hlead
  obtain ⟨piece, others, hpieces, _⟩ :=
    Layout.entryPieces_keeps 0 (':' :: rest) (description.getD []) width continuationIndent
  rw [fieldLines, Layout.hanging_eq_pieces _ _ _ _ _ hpieces,
    Layout.beside_eq_aside piece (by simp)]
  rintro _ ⟨⟩
  exact ⟨_, rfl⟩

theorem Rest.head?_blocks (d : Document) (kind : SectionKind) (width : Nat) :
    ∀ block ∈ blocks d kind width, ∀ line ∈ block.head?, Rest.OpensField line := by
  intro block hblock line hline
  obtain ⟨lines, _, rfl⟩ := List.mem_map.mp hblock
  obtain rfl : blockHeader kind = line := Option.some.inj hline
  cases kind <;> exact ⟨_, rfl⟩

/-- Sections that are no fields are written as blocks. -/
theorem Rest.sectionLines_of_mem_drop (d : Document) {kind : SectionKind} (width : Nat)
    (h : kind ∈ SectionKind.order.drop fieldSections.length) :
    kind ∉ fieldSections ∧ sectionLines d kind width = Layout.separate (blocks d kind width) := by
  revert h
  cases kind
  case params | returns | yields | raises => exact fun h => absurd h (by decide)
  case examples | notes | warnings | seeAlso | references => exact fun _ => ⟨by decide, rfl⟩

theorem Rest.head?_sectionLines (d : Document) (kind : SectionKind) (width : Nat) :
    ∀ line ∈ (sectionLines d kind width).head?, Rest.OpensField line := by
  have hfields : ∀ {α : Type} (entries : List α) (lines : α → List Line),
      (∀ entry, ∀ line ∈ (lines entry).head?, Rest.OpensField line) →
      ∀ line ∈ (entries.flatMap lines).head?, Rest.OpensField line := by
    intro α entries lines h
    rw [List.flatMap_def]
    refine Layout.forall_head?_flatten fun block hblock => ?_
    obtain ⟨entry, _, rfl⟩ := List.mem_map.mp hblock
    exact h entry
  have htyped : ∀ (name : Text) (type : Option Text),
      ∀ line ∈ (type.toList.map (typeLine name)).head?, Rest.OpensField line := by
    rintro name (_ | type)
    · simp
    · rintro _ ⟨⟩
      exact ⟨_, rfl⟩
  have hreturn : ∀ (name typeName : Text) (doc : ReturnDoc),
      ∀ line ∈ (returnLines width name typeName doc).head?, Rest.OpensField line := by
    intro name typeName doc
    refine Layout.forall_head?_append ?_ (htyped typeName doc.type)
    split
    · exact head?_fieldLines width _ ⟨_, rfl⟩
    · simp
  cases kind
  case params =>
    refine hfields _ _ fun p => Layout.forall_head?_append ?_ (htyped _ p.type)
    exact head?_fieldLines width _ ⟨_, rfl⟩
  case returns | yields => exact hfields _ _ fun doc => hreturn _ _ doc
  case raises => exact hfields _ _ fun r => head?_fieldLines width _ ⟨_, rfl⟩
  case examples | notes | warnings | seeAlso | references =>
    exact Layout.forall_head?_separate (head?_blocks d _ width)

end Fields

namespace Style

/-- A line that a section can start with. It is a header of the Google style in that style only. -/
structure Heads (style : Style) (line : Line) : Prop where
  ink : opensWithInk line = true
  lone : ¬style.opener.completes line
  header : Google.isHeader line = true ↔ style = .google

theorem heads_firstLine {line : Line} (h : Rest.OpensField line) :
    Style.rest.Heads (firstLine line) := by
  obtain ⟨rest, rfl⟩ := h
  have hsplit : splitLines (':' :: rest) = (':' :: firstLine rest) :: laterLines rest :=
    splitLines_lead_append (by decide : '\n' ∉ [':']) rest
  rw [firstLine, hsplit]
  exact ⟨rfl, id, by simp [Google.isHeader_colon]⟩

theorem heads_sectionLines (style : Style) (d : Document) (kind : SectionKind) (width : Nat) :
    ∀ line ∈ (style.sectionLines d kind width).head?, style.Heads (firstLine line) := by
  intro line hline
  cases style
  case rest => exact heads_firstLine (Rest.head?_sectionLines d kind width line hline)
  case google =>
    rw [Google.head?_sectionLines d kind width line hline]
    cases kind <;> exact ⟨by decide, id, by decide⟩
  case numpy =>
    rw [Numpy.head?_sectionLines d kind width line hline]
    have hlone : ∀ kind, ¬Numpy.isUnderline (firstLine (Numpy.title kind)) = true := by
      intro kind
      cases kind <;> decide
    have hheader : ∀ kind, Google.isHeader (firstLine (Numpy.title kind)) = false := by
      intro kind
      cases kind <;> decide
    exact ⟨by cases kind <;> decide, hlone kind, by simp [hheader]⟩
  case plain => cases hline

/-! ## What is around a section -/

/-- Sections that follow each other: in one field list, or with empty lines between them. -/
def group (style : Style) (blocks : List (List Line)) : List Line :=
  if style = .rest then blocks.flatten else Layout.separate blocks

variable {style : Style} {before kinds after : List SectionKind}

theorem forall_head?_group {P : Line → Prop} {blocks : List (List Line)}
    (h : ∀ block ∈ blocks, ∀ line ∈ block.head?, P line) :
    ∀ line ∈ (style.group blocks).head?, P line := by
  unfold group
  split
  · exact Layout.forall_head?_flatten h
  · exact Layout.forall_head?_separate h

theorem group_singleton (block : List Line) : style.group [block] = block := by
  unfold group
  split
  · simp
  · exact Layout.separate_singleton block

theorem group_nil_cons (blocks : List (List Line)) :
    style.group ([] :: blocks) = style.group blocks := by
  unfold group
  split
  · rfl
  · exact Layout.separate_cons [] blocks

theorem render_of_ne_rest (hrest : style ≠ .rest) (hplain : style ≠ .plain) (d : Document)
    (width : Nat) : style.render d width = Layout.assemble (Layout.headBlocks d width ++
      SectionKind.order.map fun kind => style.sectionLines d kind width) := by
  cases style
  case rest => exact absurd rfl hrest
  case plain => exact absurd rfl hplain
  all_goals rfl

theorem parse_nil (style : Style) : style.parse [] = .ok { metadata := { style := some style } } := by
  cases style <;> rfl

/-- Nothing is written about a value of which a document says nothing. -/
theorem sectionLines_of_value_eq_none {d : Document} {kind : SectionKind}
    (hkind : kind = .returns ∨ kind = .yields) (h : d.value kind = none) (width : Nat) :
    style.sectionLines d kind width = [] := by
  rcases hkind with rfl | rfl
  · have hnone : d.returns = none := h
    cases style <;> simp [sectionLines, Rest.sectionLines, Google.sectionLines, Numpy.sectionLines,
      Google.underHeader, Numpy.underHeader, hnone]
  · have hnone : d.yields = none := h
    cases style <;> simp [sectionLines, Rest.sectionLines, Google.sectionLines, Numpy.sectionLines,
      Google.underHeader, Numpy.underHeader, hnone]

/-- Sections that are left as they are. -/
theorem sectionLines_kept {d : Document} {returns yields : Option ReturnDoc}
    (hreturns : .returns ∉ kinds → returns = d.returns) (hyields : .yields ∉ kinds → yields = d.yields)
    (width : Nat) {kind : SectionKind} (hkind : kind ∉ kinds) :
    style.sectionLines { d with returns := returns, yields := yields } kind width =
      style.sectionLines d kind width := by
  cases kind
  case returns =>
    rw [hreturns hkind]
    cases style <;> rfl
  case yields =>
    rw [hyields hkind]
    cases style <;> rfl
  all_goals cases style <;> rfl

/-- The sections before and after some of them in an order are others. -/
theorem notMem_of_order {order among : List SectionKind} (hnodup : order.Nodup)
    (horder : order = before ++ kinds ++ among) :
    (∀ kind ∈ before, kind ∉ kinds) ∧ ∀ kind ∈ among, kind ∉ kinds := by
  obtain ⟨hleft, _, hright⟩ := List.nodup_append.mp (horder ▸ hnodup)
  refine ⟨fun kind hkind hmem => ?_, fun kind hkind hmem => ?_⟩
  · exact (List.nodup_append.mp hleft).2.2 kind hkind kind hmem rfl
  · exact hright kind (List.mem_append_right _ hmem) kind hkind rfl

/-- A line that is empty or that is written for a section of another kind than some. -/
def Elsewhere (style : Style) (kinds : List SectionKind) (d : Document) (width : Nat) (line : Line) :
    Prop :=
  line = [] ∨ ∃ kind ∉ kinds, line ∈ Layout.brokenUp (style.sectionLines d kind width)

theorem elsewhere_of_mem_brokenUp {d : Document} {width : Nat} {lines : List Line} {line : Line}
    (h : ∀ raw ∈ lines, raw = [] ∨ ∃ kind ∉ kinds, raw ∈ style.sectionLines d kind width)
    (hline : line ∈ Layout.brokenUp lines) : Elsewhere style kinds d width line := by
  obtain ⟨raw, hraw, hline⟩ := List.mem_flatMap.mp hline
  rcases h raw hraw with rfl | ⟨kind, hkind, hmem⟩
  · exact .inl (List.mem_singleton.mp hline)
  · exact .inr ⟨kind, hkind, List.mem_flatMap.mpr ⟨raw, hmem, hline⟩⟩

/-- A docstring with the sections of some kinds between other lines, which stay the same whatever the
document says about the value. -/
structure WrittenAround (style : Style) (kinds : List SectionKind) (d : Document) (width : Nat)
    (above front back below : List Line) : Prop where
  head : ∃ more, above = Layout.glue (Layout.separate (Layout.headBlocks d width)) more ∧
    ∀ line ∈ Layout.brokenUp (more ++ front), Elsewhere style kinds d width line
  others : ∀ line ∈ Layout.brokenUp (back ++ below), Elsewhere style kinds d width line
  front_heads : Layout.headBlocks d width = [] →
    ∀ line ∈ (above ++ front).head?, style.Heads (firstLine line)
  back_heads : ∀ line ∈ back.head?, style.Heads (firstLine line)
  below_heads : ∀ line ∈ below.head?, style.Heads (firstLine line)
  render_eq : ∀ returns yields, (.returns ∉ kinds → returns = d.returns) →
    (.yields ∉ kinds → yields = d.yields) →
    style.render { d with returns := returns, yields := yields } width =
      joinLines (Layout.arranged above front (style.group (kinds.map fun kind =>
        style.sectionLines { d with returns := returns, yields := yields } kind width)) back below)

section Surrounded

variable {d : Document} {width i : Nat} {above front back below up down : List Line} {line : Line}
  (h : WrittenAround style kinds d width above front back below)
  (hlines : Layout.Surrounds up (Layout.brokenUp above) (Layout.brokenUp front)
    (Layout.brokenUp back) (Layout.brokenUp below) down)

include h hlines

/-- Above the sections and below the head, lines are written for other sections. -/
theorem WrittenAround.elsewhere_up (hi : (Layout.writtenHead d width).length ≤ i)
    (hline : up[i]? = some line) : Elsewhere style kinds d width line := by
  obtain ⟨more, rfl, hmore⟩ := h.head
  obtain ⟨empty, hempty, rfl⟩ := hlines.up
  obtain ⟨gap, hgap, hglue⟩ := Layout.exists_glue_gap (Layout.writtenHead d width) (Layout.brokenUp more)
  rw [Layout.brokenUp_glue, ← Layout.writtenHead, hglue, List.append_assoc, List.append_assoc,
    List.getElem?_append_right hi] at hline
  have hmem := List.mem_of_getElem? hline
  simp only [Layout.brokenUp_append, List.mem_append] at hmore hmem
  rcases hmem with (hmem | hmem) | hmem | hmem
  · exact .inl (hgap line hmem)
  · exact hmore line (.inl hmem)
  · exact .inl (hempty line hmem)
  · exact hmore line (.inr hmem)

theorem WrittenAround.elsewhere_down (hline : line ∈ down) : Elsewhere style kinds d width line := by
  obtain ⟨empty, hempty, -, rfl⟩ := hlines.down
  have hothers := h.others
  simp only [Layout.brokenUp_append, List.mem_append] at hothers hline
  rcases hline with (hline | hline) | hline
  · exact hothers line (.inl hline)
  · exact .inl (hempty line hline)
  · exact hothers line (.inr hline)

/-- If there are lines below the sections, one of them starts with ink. -/
theorem WrittenAround.exists_ink_down (hne : down ≠ []) :
    ∃ line ∈ down, opensWithInk line = true := by
  obtain ⟨empty, -, hnone, rfl⟩ := hlines.down
  have hhead : ∀ {lines : List Line}, (∀ line ∈ lines.head?, style.Heads (firstLine line)) →
      Layout.brokenUp lines ≠ [] → ∃ line ∈ Layout.brokenUp lines, opensWithInk line = true := by
    intro lines hheads hsome
    obtain ⟨line, rest, hcons⟩ := List.exists_cons_of_ne_nil hsome
    exact ⟨line, by simp [hcons], (Layout.forall_head?_brokenUp hheads line (by simp [hcons])).ink⟩
  by_cases hback : Layout.brokenUp back = []
  · by_cases hbelow : Layout.brokenUp below = []
    · exact absurd (by rw [hnone (by simp [hback, hbelow]), hback, hbelow]; rfl) hne
    · obtain ⟨line, hline, hink⟩ := hhead h.below_heads hbelow
      exact ⟨line, by simp [hline], hink⟩
  · obtain ⟨line, hline, hink⟩ := hhead h.back_heads hback
    exact ⟨line, by simp [hline], hink⟩

end Surrounded

theorem heads_map_sectionLines (style : Style) (d : Document) (width : Nat)
    (among : List SectionKind) : ∀ block ∈ among.map fun kind => style.sectionLines d kind width,
      ∀ line ∈ block.head?, style.Heads (firstLine line) := by
  intro block hblock
  obtain ⟨kind, _, rfl⟩ := List.mem_map.mp hblock
  exact heads_sectionLines style d kind width

/-- In a field list, other fields stand right before and after those on the value. -/
theorem writtenAround_rest {fields : List SectionKind}
    (hfields : Rest.fieldSections = before ++ kinds ++ fields) (d : Document) (width : Nat) :
    WrittenAround .rest kinds d width (Layout.separate (Layout.headBlocks d width))
      (before.map fun kind => Style.rest.sectionLines d kind width).flatten
      (fields.map fun kind => Style.rest.sectionLines d kind width).flatten
      (Layout.separate ((SectionKind.order.drop Rest.fieldSections.length).flatMap fun kind =>
        Rest.blocks d kind width)) where
  head := by
    refine ⟨[], (Layout.glue_nil _).symm, fun line => elsewhere_of_mem_brokenUp fun raw hraw => .inr ?_⟩
    obtain ⟨block, hblock, hraw⟩ := List.mem_flatten.mp hraw
    obtain ⟨kind, hkind, rfl⟩ := List.mem_map.mp hblock
    exact ⟨kind, (notMem_of_order (by decide) hfields).1 kind hkind, hraw⟩
  others line := by
    refine elsewhere_of_mem_brokenUp fun raw hraw => ?_
    rcases List.mem_append.mp hraw with hraw | hraw
    · obtain ⟨block, hblock, hraw⟩ := List.mem_flatten.mp hraw
      obtain ⟨kind, hkind, rfl⟩ := List.mem_map.mp hblock
      exact .inr ⟨kind, (notMem_of_order (by decide) hfields).2 kind hkind, hraw⟩
    · refine (Layout.mem_separate hraw).imp_right fun ⟨block, hblock, hraw⟩ => ?_
      obtain ⟨kind, hkind, hblock⟩ := List.mem_flatMap.mp hblock
      obtain ⟨hfield, hlines⟩ := Rest.sectionLines_of_mem_drop d width hkind
      refine ⟨kind, fun hmem => hfield (hfields ▸ by simp [hmem]), ?_⟩
      change raw ∈ Rest.sectionLines d kind width
      rw [hlines]
      exact (Layout.isInfix_separate hblock).subset hraw
  front_heads hnone := by
    rw [hnone, Layout.separate, List.nil_append]
    exact Layout.forall_head?_flatten (heads_map_sectionLines .rest d width before)
  back_heads := Layout.forall_head?_flatten (heads_map_sectionLines .rest d width fields)
  below_heads := by
    refine Layout.forall_head?_separate fun block hblock line hline => ?_
    obtain ⟨kind, _, hmem⟩ := List.mem_flatMap.mp hblock
    exact heads_firstLine (Rest.head?_blocks d kind width block hmem line hline)
  render_eq returns yields hreturns hyields := by
    obtain ⟨hbefore, hafter⟩ := notMem_of_order (by decide) hfields
    rw [← List.map_congr_left fun kind hkind =>
        sectionLines_kept hreturns hyields width (hbefore kind hkind),
      ← List.map_congr_left fun kind hkind =>
        sectionLines_kept hreturns hyields width (hafter kind hkind),
      group, if_pos rfl, Layout.arranged, ← List.flatten_append, ← List.flatten_append,
      ← List.map_append, ← List.map_append, ← hfields]
    rw [render, Rest.render, Layout.assemble, Layout.separate_append, Layout.separate_append,
      Layout.separate_singleton, Layout.glue_assoc]
    rfl

/-- In the other styles, all sections are set apart. -/
theorem writtenAround_of_ne_rest (hrest : style ≠ .rest) (hplain : style ≠ .plain)
    (horder : SectionKind.order = before ++ kinds ++ after) (d : Document) (width : Nat) :
    WrittenAround style kinds d width
      (Layout.separate (Layout.headBlocks d width ++
        before.map fun kind => style.sectionLines d kind width)) [] []
      (Layout.separate (after.map fun kind => style.sectionLines d kind width)) where
  head := by
    refine ⟨_, Layout.separate_append _ _, fun line => elsewhere_of_mem_brokenUp fun raw hraw => ?_⟩
    rw [List.append_nil] at hraw
    refine (Layout.mem_separate hraw).imp_right fun ⟨block, hblock, hraw⟩ => ?_
    obtain ⟨kind, hkind, rfl⟩ := List.mem_map.mp hblock
    exact ⟨kind, (notMem_of_order (by decide) horder).1 kind hkind, hraw⟩
  others line := by
    refine elsewhere_of_mem_brokenUp fun raw hraw => ?_
    rw [List.nil_append] at hraw
    refine (Layout.mem_separate hraw).imp_right fun ⟨block, hblock, hraw⟩ => ?_
    obtain ⟨kind, hkind, rfl⟩ := List.mem_map.mp hblock
    exact ⟨kind, (notMem_of_order (by decide) horder).2 kind hkind, hraw⟩
  front_heads hnone := by
    rw [hnone, List.nil_append, List.append_nil]
    exact Layout.forall_head?_separate (heads_map_sectionLines style d width before)
  back_heads := by simp
  below_heads := Layout.forall_head?_separate (heads_map_sectionLines style d width after)
  render_eq returns yields hreturns hyields := by
    obtain ⟨hbefore, hafter⟩ := notMem_of_order (by decide) horder
    rw [← List.map_congr_left fun kind hkind =>
        sectionLines_kept hreturns hyields width (hbefore kind hkind),
      ← List.map_congr_left fun kind hkind =>
        sectionLines_kept hreturns hyields width (hafter kind hkind),
      group, if_neg hrest, Layout.arranged, List.nil_append, List.append_nil,
      ← Layout.separate_append, ← Layout.separate_append, List.append_assoc, ← List.map_append,
      ← List.map_append, ← List.append_assoc, ← horder, render_of_ne_rest hrest hplain]
    rfl

/-- Sections that differ, in a docstring that is written with the same lines around them. -/
theorem exists_writtenAround (hplain : style ≠ .plain)
    (horder : SectionKind.order = before ++ kinds ++ after)
    (hfields : ∃ fields, Rest.fieldSections = before ++ kinds ++ fields) (d : Document)
    (width : Nat) :
    ∃ above front back below, WrittenAround style kinds d width above front back below := by
  by_cases hrest : style = .rest
  · subst hrest
    obtain ⟨fields, hfields⟩ := hfields
    exact ⟨_, _, _, _, writtenAround_rest hfields d width⟩
  · exact ⟨_, _, _, _, writtenAround_of_ne_rest hrest hplain horder d width⟩

end Style

namespace Layout

/-- Lines that are joined to the text of normal lines are these, if they do not start with an empty
line where there is none. -/
theorem brokenUp_of_joinLines {lines old : List Line} (hnormal : IsNormal old)
    (htext : joinLines lines = joinLines old)
    (hhead : old = [] → ∀ line ∈ lines.head?, firstLine line ≠ []) :
    brokenUp lines = old := by
  have hold : old ≠ [] → splitLines (joinLines old) = old := fun hne =>
    splitLines_joinLines hne fun line hline => (hnormal.clean line hline).newline
  cases lines with
  | nil =>
    by_contra hne
    have hempty := hold (Ne.symm hne)
    rw [← htext] at hempty
    exact hnormal.opens [] (by rw [← hempty]; rfl) rfl
  | cons first rest =>
    rw [← splitLines_joinLines_eq (List.cons_ne_nil _ _), htext]
    by_cases hne : old = []
    · have hsplit := splitLines_joinLines_eq (List.cons_ne_nil first rest)
      rw [htext, hne, brokenUp_cons, splitLines_eq_cons first] at hsplit
      exact absurd (List.cons.inj hsplit).1.symm (hhead hne first rfl)
    · exact hold hne

/-- Where blocks start with ink, one of their lines stands at the first column. -/
theorem isLevel_append_setOff {after below : List Line}
    (hafter : ∀ line ∈ after.head?, opensWithInk line = true)
    (hbelow : ∀ line ∈ below.head?, opensWithInk line = true) : IsLevel (after ++ setOff below) := by
  by_cases hnone : after = []
  · rw [hnone, List.nil_append, setOff]
    split
    · exact .inr (by simp)
    · exact @isLevel_append [[]] _ (by simp) (isLevel_of_head hbelow)
  · refine isLevel_of_head fun line hline => hafter line ?_
    rwa [List.head?_append_of_ne_nil _ hnone] at hline

end Layout

namespace Style

variable {style : Style} {d : Document} {old : List Line}

/-! ## Canonical docstrings -/

/-- The lines that are written below the head of a document. -/
def bodyLines (style : Style) (d : Document) (width : Nat) : List Line :=
  if style = .rest then
    Layout.glue (Rest.fieldSections.map fun kind => Rest.sectionLines d kind width).flatten
      (Layout.separate ((SectionKind.order.drop Rest.fieldSections.length).flatMap fun kind =>
        Rest.blocks d kind width))
  else Layout.separate (SectionKind.order.map fun kind => style.sectionLines d kind width)

theorem render_eq_glue (hplain : style ≠ .plain) (d : Document) (width : Nat) :
    style.render d width = joinLines
      (Layout.glue (Layout.separate (Layout.headBlocks d width)) (style.bodyLines d width)) := by
  unfold bodyLines
  split
  · rename_i hrest
    subst hrest
    rw [render, Rest.render, Layout.assemble, Layout.separate_append, Layout.separate_append,
      Layout.separate_singleton, Layout.glue_assoc]
    rfl
  · rename_i hrest
    rw [render_of_ne_rest hrest hplain, Layout.assemble, Layout.separate_append]

theorem heads_bodyLines (style : Style) (d : Document) (width : Nat) :
    ∀ line ∈ (style.bodyLines d width).head?, style.Heads (firstLine line) := by
  unfold bodyLines
  split
  · rename_i hrest
    subst hrest
    exact Layout.forall_head?_glue
      (Layout.forall_head?_flatten (heads_map_sectionLines .rest d width Rest.fieldSections))
      (Layout.forall_head?_separate fun block hblock line hline => by
        obtain ⟨kind, _, hmem⟩ := List.mem_flatMap.mp hblock
        exact heads_firstLine (Rest.head?_blocks d kind width block hmem line hline))
  · exact Layout.forall_head?_separate (heads_map_sectionLines style d width SectionKind.order)

/-- Of no lines, there is no head. -/
theorem headBlocks_eq_nil (width : Nat) (hnil : old = []) (h : style.parse (joinLines old) = .ok d) :
    Layout.headBlocks d width = [] := by
  rw [hnil, joinLines, parse_nil] at h
  obtain rfl := Except.ok.inj h
  rfl

/-- A canonical docstring is its head with other lines below. -/
theorem isWritten_of_render {width : Nat} (hplain : style ≠ .plain) (hnormal : IsNormal old)
    (hparse : style.parse (joinLines old) = .ok d) (hcanonical : style.render d width = joinLines old) :
    Layout.IsWritten d width old (Layout.brokenUp (style.bodyLines d width)) where
  normal := hnormal
  eq := by
    rw [Layout.writtenHead, ← Layout.brokenUp_glue]
    refine (Layout.brokenUp_of_joinLines hnormal
      ((render_eq_glue hplain d width).symm.trans hcanonical) fun hnil => ?_).symm
    rw [headBlocks_eq_nil width hnil hparse]
    exact fun line hline => ne_nil_of_opensWithInk (heads_bodyLines style d width line hline).ink
  front _ := Layout.forall_head?_brokenUp fun line hline => (heads_bodyLines style d width line hline).ink

end Style

end Docstring
