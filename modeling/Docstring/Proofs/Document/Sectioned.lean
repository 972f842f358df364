-- Styles that put every section under a header of its own. They differ in how an entry and a
-- header are written; which sections there are and in which order is the same for all of them.
import Docstring.Proofs.Document.Reading
import Docstring.Proofs.Document.Whole

namespace Docstring

open Text

/-- How a style writes entries and puts the lines of a section under a header, every line being
whole. -/
structure Sectioning where
  param : Parameter → List Line
  value : ReturnDoc → List Line
  raise : RaiseEntry → List Line
  under : SectionKind → List Line → List Line

namespace Sectioning

variable (style : Sectioning) (d : Document)

/-! ## Sections -/

/-- What stands below the headers of a kind. Examples and free texts have a header each. -/
def bodies : SectionKind → List (List Line)
  | .params => if d.parameters.isEmpty then [] else [d.parameters.flatMap style.param]
  | .returns => d.returns.toList.map style.value
  | .yields => d.yields.toList.map style.value
  | .raises => if d.raises.isEmpty then [] else [d.raises.flatMap style.raise]
  | .examples => d.examples.map splitLines
  | kind => (Layout.freeTexts d kind).map splitLines

/-- The sections of a document in their order. -/
def sections : List (SectionKind × List Line) :=
  SectionKind.order.flatMap fun kind => (style.bodies d kind).map fun body => (kind, body)

/-- The sections with their headers. -/
def blocks : List (List Line) := (style.sections d).map fun s => style.under s.1 s.2

/-- The blocks of the whole document. -/
def whole : List (List Line) := Layout.wholeHead d ++ style.blocks d

/-- The document as it is written when no line is wrapped. -/
def text : Text := Layout.assemble (style.whole d)

variable {style d}

theorem mem_bodies_of_mem_sections {s : SectionKind × List Line} (h : s ∈ style.sections d) :
    s.2 ∈ style.bodies d s.1 := by
  simp only [sections, List.mem_flatMap, List.mem_map] at h
  obtain ⟨kind, _, body, hbody, rfl⟩ := h
  exact hbody

theorem mem_blocks_of_mem_bodies {kind : SectionKind} {body : List Line}
    (h : body ∈ style.bodies d kind) : style.under kind body ∈ style.blocks d := by
  refine List.mem_map.mpr ⟨(kind, body), ?_, rfl⟩
  rw [sections, List.mem_flatMap]
  exact ⟨kind, SectionKind.mem_order kind, List.mem_map.mpr ⟨body, h, rfl⟩⟩

theorem params_mem_bodies {p : Parameter} (h : p ∈ d.parameters) :
    d.parameters.flatMap style.param ∈ style.bodies d .params := by
  simp [bodies, List.ne_nil_of_mem h]

theorem raises_mem_bodies {r : RaiseEntry} (h : r ∈ d.raises) :
    d.raises.flatMap style.raise ∈ style.bodies d .raises := by
  simp [bodies, List.ne_nil_of_mem h]

/-- What holds of the lines of every entry and of every text holds below every header. -/
theorem forall_bodies {P : List Line → Prop}
    (params : d.parameters ≠ [] → P (d.parameters.flatMap style.param))
    (values : ∀ doc ∈ d.values, P (style.value doc))
    (raises : d.raises ≠ [] → P (d.raises.flatMap style.raise))
    (examples : ∀ t ∈ d.examples, P (splitLines t))
    (free : ∀ kind ∈ SectionKind.order, ∀ t ∈ Layout.freeTexts d kind, P (splitLines t))
    (kind : SectionKind) : ∀ body ∈ style.bodies d kind, P body := by
  have hfree : ∀ kind : SectionKind, ∀ body ∈ (Layout.freeTexts d kind).map splitLines, P body := by
    intro kind body hbody
    obtain ⟨t, ht, rfl⟩ := List.mem_map.mp hbody
    exact free kind (SectionKind.mem_order kind) t ht
  intro body hbody
  cases kind with
  | params =>
    simp only [bodies] at hbody
    split at hbody
    · simp at hbody
    · rename_i hne
      rw [List.mem_singleton.mp hbody]
      exact params (by simpa using hne)
  | returns =>
    obtain ⟨doc, hdoc, rfl⟩ := List.mem_map.mp hbody
    exact values doc (List.mem_append_left _ hdoc)
  | yields =>
    obtain ⟨doc, hdoc, rfl⟩ := List.mem_map.mp hbody
    exact values doc (List.mem_append_right _ hdoc)
  | raises =>
    simp only [bodies] at hbody
    split at hbody
    · simp at hbody
    · rename_i hne
      rw [List.mem_singleton.mp hbody]
      exact raises (by simpa using hne)
  | examples =>
    obtain ⟨t, ht, rfl⟩ := List.mem_map.mp hbody
    exact examples t ht
  | notes => exact hfree .notes body hbody
  | warnings => exact hfree .warnings body hbody
  | seeAlso => exact hfree .seeAlso body hbody
  | references => exact hfree .references body hbody

/-! ## Writing -/

/-- Entries of one section come under one header, if there are any. -/
theorem separate_entries {α : Type} (entries : List α) (lines : α → List Line)
    (kind : SectionKind) :
    Layout.separate ((if entries.isEmpty then [] else [entries.flatMap lines]).map
        (style.under kind)) =
      if entries.isEmpty then [] else style.under kind (entries.flatMap lines) := by
  split
  · rfl
  · rw [List.map_singleton, Layout.separate_singleton]

/-- A printer that writes each kind of section as it should writes the whole document so. -/
theorem assemble_eq_text {lines : SectionKind → List Line}
    (h : ∀ kind, lines kind = Layout.separate ((style.bodies d kind).map (style.under kind))) :
    Layout.assemble (Layout.wholeHead d ++ SectionKind.order.map lines) = style.text d := by
  have hlines : SectionKind.order.map lines =
      (SectionKind.order.map fun kind =>
        (style.bodies d kind).map (style.under kind)).map Layout.separate := by
    rw [List.map_map]
    exact List.map_congr_left fun kind _ => h kind
  have hblocks : (SectionKind.order.map fun kind =>
      (style.bodies d kind).map (style.under kind)).flatten = style.blocks d := by
    rw [blocks, sections, List.map_flatMap, ← List.flatMap_def]
    simp only [List.map_map]
    rfl
  rw [text, whole, Layout.assemble, Layout.assemble, Layout.separate_append, Layout.separate_append,
    hlines, Layout.separate_map_separate, hblocks]

/-! ## Reading -/

/-- The first section starts with its header. -/
theorem mark_separate_blocks {mark : List Line → Bool}
    (hmark : ∀ kind body more, mark (style.under kind body ++ more) = true)
    (hne : style.blocks d ≠ []) : mark (Layout.separate (style.blocks d)) = true := by
  obtain ⟨block, blocks, hb⟩ := List.exists_cons_of_ne_nil hne
  obtain ⟨s, _, rfl⟩ := List.mem_map.mp (show block ∈ style.blocks d by simp [hb])
  obtain ⟨more, hmore⟩ := Layout.prefix_glue (style.under s.1 s.2) (Layout.separate blocks)
  rw [hb, Layout.separate_cons, ← hmore]
  exact hmark s.1 s.2 more

/-- Reading the sections gives the document back if each section gives its part back. -/
theorem reads_sections {State Item Shape Error : Type} {r : Reader State Item Shape Error}
    (shape : SectionKind → List Line → Shape) (param : Parameter → Parameter)
    (params : d.parameters ≠ [] → ∀ c, c.parameters = [] →
      r.Reads [shape .params (d.parameters.flatMap style.param)] c
        { c with parameters := d.parameters.map param })
    (returns : ∀ doc ∈ d.returns, ∀ c,
      r.Reads [shape .returns (style.value doc)] c { c with returns := some doc.reread })
    (yields : ∀ doc ∈ d.yields, ∀ c,
      r.Reads [shape .yields (style.value doc)] c { c with yields := some doc.reread })
    (raises : d.raises ≠ [] → ∀ c, r.Reads [shape .raises (d.raises.flatMap style.raise)] c
      { c with raises := c.raises ++ d.raises.map RaiseEntry.reread })
    (examples : ∀ t ∈ d.examples, ∀ c, r.Reads [shape .examples (splitLines t)] c
      { c with examples := c.examples ++ [t] })
    (free : ∀ kind, kind.isFreeText = true → ∀ t ∈ Layout.freeTexts d kind, ∀ c,
      r.Reads [shape kind (splitLines t)] c (c.addFreeText t kind)) :
    r.Reads ((style.sections d).map fun s => shape s.1 s.2) d.headOnly
      (d.reread param ReturnDoc.reread) := by
  have hall : (style.sections d).map (fun s => shape s.1 s.2) =
      SectionKind.order.flatMap fun kind => (style.bodies d kind).map (shape kind) := by
    rw [sections, List.map_flatMap]
    simp only [List.map_map]
    rfl
  rw [hall]
  apply Reader.reads_order
  · intro c hc
    simp only [bodies]
    split
    · rename_i hnil
      rw [List.isEmpty_iff] at hnil
      have hsame : { c with parameters := d.parameters.map param } = c := by
        rw [hnil, List.map_nil, ← hc]
      rw [hsame]
      exact Reader.reads_nil c
    · rename_i hne
      exact params (by simpa using hne) c hc
  · intro c hc
    cases hdoc : d.returns with
    | none => simpa [bodies, hdoc, ValueSlot.returns] using Reader.reads_absent .returns hc
    | some doc => simpa [bodies, hdoc] using returns doc (by simp [hdoc]) c
  · intro c hc
    cases hdoc : d.yields with
    | none => simpa [bodies, hdoc, ValueSlot.yields] using Reader.reads_absent .yields hc
    | some doc => simpa [bodies, hdoc] using yields doc (by simp [hdoc]) c
  · intro c
    simp only [bodies]
    split
    · rename_i hnil
      rw [List.isEmpty_iff] at hnil
      simpa [hnil] using Reader.reads_nil c
    · rename_i hne
      exact raises (by simpa using hne) c
  · intro c
    rw [← foldl_examples]
    rw [bodies, List.map_map]
    exact Reader.reads_map examples c
  · intro kind hkind c
    have hbodies : style.bodies d kind = (Layout.freeTexts d kind).map splitLines := by
      cases kind <;> first | rfl | simp [SectionKind.isFreeText] at hkind
    rw [hbodies, List.map_map]
    exact Reader.reads_map (free kind hkind) c

end Sectioning

end Docstring
