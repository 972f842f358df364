-- Which documents a style can carry, as far as the styles agree on it, and what a document means
-- in every style.
import Docstring.Codec
import Docstring.Proofs.Text.Block

namespace Docstring

open Text

/-! ## Texts -/

namespace Text

/-- A description is empty or a text block. -/
def IsDescription (t : Text) : Prop := t = [] ∨ IsTextBlock t

instance : DecidablePred IsDescription := fun t =>
  inferInstanceAs (Decidable (t = [] ∨ IsTextBlock t))

theorem IsDescription.clean {t : Text} (h : IsDescription t) :
    ∀ line ∈ splitLines t, IsClean line := by
  rcases h with rfl | h
  · intro line hl
    rw [splitLines_nil, List.mem_singleton] at hl
    rw [hl]
    exact isClean_nil
  · exact h.clean

/-- The first line of a description is empty or has ink at both ends. -/
theorem IsDescription.trim_firstLine {t : Text} (h : IsDescription t) :
    trim (firstLine t) = firstLine t := by
  rcases h with rfl | h
  · rfl
  · have hopen := h.opens
    rw [splitLines_eq_cons] at hopen
    exact trim_of_ink hopen (h.clean _ (by simp [splitLines_eq_cons])).trimmed

theorem IsDescription.clean_laterLines {t : Text} (h : IsDescription t) :
    ∀ line ∈ laterLines t, IsClean line :=
  fun line hl => h.clean line (by simp [splitLines_eq_cons, hl])

theorem IsDescription.endsInk_laterLines {t : Text} (h : IsDescription t) :
    EndsInk (laterLines t) := by
  rcases h with rfl | h
  · intro line hl
    simp [laterLines] at hl
  · intro line hl
    have hne : laterLines t ≠ [] := by
      intro hnil
      simp [hnil] at hl
    apply h.ends line
    rw [splitLines_eq_cons, ← List.singleton_append, List.getLast?_append_of_ne_nil _ hne]
    exact hl

/-- A text that may be left out: no text says as much as an empty one. -/
def unlessEmpty (t : Text) : Option Text := if t.isEmpty then none else some t

@[simp] theorem unlessEmpty_nil : unlessEmpty [] = none := rfl

theorem unlessEmpty_of_ne {t : Text} (h : t ≠ []) : t.unlessEmpty = some t := by
  simp [unlessEmpty, h]

@[simp] theorem unlessEmpty_getD (t : Text) : t.unlessEmpty.getD [] = t := by
  unfold unlessEmpty
  cases t <;> simp

end Text

/-! ## Documents -/

theorem SectionKind.mem_order (kind : SectionKind) : kind ∈ order := by
  cases kind <;> decide

/-- The sections on what is returned and yielded. -/
def Document.values (d : Document) : List ReturnDoc := d.returns.toList ++ d.yields.toList

/-- The descriptions of a document, empty where there is none. -/
def Document.descriptions (d : Document) : List Text :=
  d.parameters.map (fun p => p.description.getD []) ++
    d.values.map (fun doc => doc.description.getD []) ++
    d.raises.map fun r => r.description.getD []

/-- The lines before the first section. -/
def Document.headLines (d : Document) : List Line :=
  splitLines d.summary ++ d.extended.toList.flatMap splitLines

/-- What every style asks of a document: a summary of lines with ink at both ends, names that
differ, prose in text blocks, and exceptions on one line. -/
@[mk_iff]
structure Document.Tidy (d : Document) : Prop where
  summary : ∀ line ∈ splitLines d.summary, opensWithInk line = true ∧ closesWithInk line = true
  extended : ∀ t ∈ d.extended, IsTextBlock t
  distinct : (d.parameters.map Parameter.name).Nodup
  names : ∀ p ∈ d.parameters, isIdentifier p.name = true
  descriptions : ∀ t ∈ d.descriptions, IsDescription t
  exceptions : ∀ r ∈ d.raises, IsOneLine r.exception
  examples : ∀ t ∈ d.examples, IsTextBlock t
  freeTexts : ∀ kind ∈ SectionKind.order, ∀ t ∈ Layout.freeTexts d kind, IsTextBlock t

instance : DecidablePred Document.Tidy := fun d => decidable_of_iff _ (Document.tidy_iff d).symm

/-- A width at which a style wraps no line of a document: no greater width changes the text. -/
def Style.Unwrapped (style : Style) (d : Document) (width : Nat) : Prop :=
  ∀ wider, width ≤ wider → style.render d wider = style.render d width

namespace Document.Tidy

variable {d : Document}

theorem param_description (h : d.Tidy) {p : Parameter} (hp : p ∈ d.parameters) :
    IsDescription (p.description.getD []) := by
  apply h.descriptions
  simp only [Document.descriptions, List.mem_append, List.mem_map]
  exact Or.inl (Or.inl ⟨p, hp, rfl⟩)

theorem value_description (h : d.Tidy) {doc : ReturnDoc} (hdoc : doc ∈ d.values) :
    IsDescription (doc.description.getD []) := by
  apply h.descriptions
  simp only [Document.descriptions, List.mem_append, List.mem_map]
  exact Or.inl (Or.inr ⟨doc, hdoc, rfl⟩)

theorem raise_description (h : d.Tidy) {r : RaiseEntry} (hr : r ∈ d.raises) :
    IsDescription (r.description.getD []) := by
  apply h.descriptions
  simp only [Document.descriptions, List.mem_append, List.mem_map]
  exact Or.inr ⟨r, hr, rfl⟩

/-- The summary is a block, and each of its lines starts at the first column. -/
theorem summary_block (h : d.Tidy) : IsTextBlock d.summary := by
  have hclean : ∀ line ∈ splitLines d.summary, IsClean line := by
    intro line hl
    have hink := h.summary line hl
    exact isClean_of_ink (newline_notMem_of_mem_splitLines hl) hink.1
      (trimEnd_of_closesWithInk hink.2)
  obtain ⟨first, rest, hs⟩ := List.exists_cons_of_ne_nil (splitLines_ne_nil d.summary)
  refine ⟨?_, ?_, hclean⟩
  · rw [hs]
    exact (h.summary first (by simp [hs])).1
  · intro line hl
    exact not_blank_of_opensWithInk (h.summary line (List.mem_of_mem_getLast? hl)).1

end Document.Tidy

/-! ## Meaning -/

/-- What a parameter says: no style marks keyword-only parameters, and an empty description says
as much as none. -/
def Parameter.meaning (p : Parameter) : Parameter :=
  { p with
    kind := if p.kind = .keywordOnly then .positional else p.kind
    description := some (p.description.getD []) }

def ReturnDoc.meaning (doc : ReturnDoc) : ReturnDoc :=
  { doc with description := some (doc.description.getD []) }

def RaiseEntry.meaning (r : RaiseEntry) : RaiseEntry :=
  { r with description := some (r.description.getD []) }

namespace Document

/-- What a document says in every style: its content up to empty descriptions, keyword-only
parameters and blank free texts, and without what was noticed while it was read. -/
def meaning (d : Document) : Document where
  summary := d.summary
  extended := d.extended
  parameters := d.parameters.map Parameter.meaning
  returns := d.returns.map ReturnDoc.meaning
  yields := d.yields.map ReturnDoc.meaning
  raises := d.raises.map RaiseEntry.meaning
  examples := d.examples
  notes := Layout.freeTexts d .notes
  warnings := Layout.freeTexts d .warnings
  seeAlso := Layout.freeTexts d .seeAlso
  references := Layout.freeTexts d .references

/-- A document without the defaults of its parameters, which only the NumPy style writes. -/
def withoutDefaults (d : Document) : Document :=
  { d with parameters := d.parameters.map fun p => { p with default := none } }

/-- A document without what was noticed while it was read. -/
def content (d : Document) : Document := { d with metadata := {} }

/-- A document with all sorts of sections: prose with code in it, descriptions of several
paragraphs, none and empty ones, and every kind of parameter. -/
def specimen : Document where
  summary := "Fit a model\nto points.".toList
  extended := some "The fit: slow.\n\n    fit(xs)\n\nIt may fail.".toList
  parameters :=
    [{ name := "xs".toList, type := some "dict[str, int]".toList, default := some "{}".toList,
       description := some "Points.\n\n  One per row.".toList },
      { name := "step".toList, default := some "None".toList, description := some [],
        kind := .keywordOnly },
      { name := "more".toList, type := some "int".toList, kind := .varPositional },
      { name := "kw_2".toList, description := some "The rest.".toList, kind := .varKeyword }]
  returns :=
    some { type := some "list[int]".toList, description := some "The fit.\nSorted.".toList }
  yields := some { description := some "Each step: one by one.".toList }
  raises :=
    [{ exception := "ValueError".toList, description := some "If empty.".toList },
      { exception := "KeyError".toList }]
  examples := [">>> fit({})\n[]\n\nArgs:\n    x".toList]
  notes := [[], "Known\n\n    since long.".toList]
  references := ["Book.".toList, "Paper.".toList]

end Document

end Docstring
