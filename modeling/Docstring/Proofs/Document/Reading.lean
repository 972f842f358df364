-- What reading a written document gives back, and how reading section by section adds up to the
-- whole document.
import Docstring.Document.Failure
import Docstring.Document.Head
import Docstring.Proofs.Document.Tidy

namespace Docstring

open Text

/-! ## Documents as they are read back -/

/-- A parameter as it is read back by a style that writes no defaults. -/
def Parameter.reread (p : Parameter) : Parameter := { p.meaning with default := none }

/-- An exception as every style reads it back. -/
def RaiseEntry.reread (r : RaiseEntry) : RaiseEntry :=
  { r with description := (r.description.getD []).unlessEmpty }

/-- A returned or yielded value as it is read back from a section. A section without a type is
opened even when it is left empty. -/
def ReturnDoc.reread (doc : ReturnDoc) : ReturnDoc :=
  { doc with
    description :=
      if doc.type.isSome then (doc.description.getD []).unlessEmpty
      else some (doc.description.getD []) }

/-- Keyword-only parameters have no stars, as positional ones. -/
theorem Parameter.display_meaning (p : Parameter) : p.meaning.display = p.display := by
  unfold display meaning
  cases p.kind <;> rfl

theorem Parameter.meaning_meaning (p : Parameter) : p.meaning.meaning = p.meaning := by
  simp only [meaning, Option.getD_some]
  split <;> simp_all

theorem Parameter.reread_meaning (p : Parameter) :
    p.reread.meaning = { p.meaning with default := none } := by
  simp only [reread, meaning, Option.getD_some]
  split <;> simp_all

@[simp] theorem RaiseEntry.reread_meaning (r : RaiseEntry) : r.reread.meaning = r.meaning := by
  simp [reread, meaning]

@[simp] theorem ReturnDoc.reread_meaning (doc : ReturnDoc) : doc.reread.meaning = doc.meaning := by
  unfold reread meaning
  split <;> simp

namespace Document

/-- A document as it is read back by a style that reads parameters and values back in the given
ways. -/
def reread (param : Parameter → Parameter) (value : ReturnDoc → ReturnDoc) (d : Document) :
    Document where
  summary := d.summary
  extended := d.extended
  parameters := d.parameters.map param
  returns := d.returns.map value
  yields := d.yields.map value
  raises := d.raises.map RaiseEntry.reread
  examples := d.examples
  notes := Layout.freeTexts d .notes
  warnings := Layout.freeTexts d .warnings
  seeAlso := Layout.freeTexts d .seeAlso
  references := Layout.freeTexts d .references

/-- No blank text is left once the blank ones are dropped. -/
theorem freeTexts_reread (param : Parameter → Parameter) (value : ReturnDoc → ReturnDoc)
    (d : Document) (kind : SectionKind) :
    Layout.freeTexts (d.reread param value) kind = Layout.freeTexts d kind := by
  cases kind <;> simp [Layout.freeTexts, freeTexts, reread]

theorem meaning_congr {d e : Document} (h : d.content = e.content) : d.meaning = e.meaning := by
  simp only [content, Document.mk.injEq, and_true] at h
  obtain ⟨h1, h2, h3, h4, h5, h6, h7, h8, h9, h10, h11⟩ := h
  simp [meaning, Layout.freeTexts, freeTexts, *]

/-- What is read back means what was written, as far as parameters and values do. -/
theorem meaning_reread {param : Parameter → Parameter} {value : ReturnDoc → ReturnDoc}
    (d : Document) (hvalue : ∀ doc, (value doc).meaning = doc.meaning) :
    (d.reread param value).meaning =
      { d.meaning with parameters := d.parameters.map fun p => (param p).meaning } := by
  have hraise : RaiseEntry.meaning ∘ RaiseEntry.reread = RaiseEntry.meaning :=
    funext RaiseEntry.reread_meaning
  have hdoc : ReturnDoc.meaning ∘ value = ReturnDoc.meaning := funext hvalue
  unfold meaning
  simp only [freeTexts_reread]
  simp [reread, hraise, hdoc, Function.comp_def]

/-- Where defaults are not written, the rest of the meaning is kept. -/
theorem meaning_reread_withoutDefaults {value : ReturnDoc → ReturnDoc} (d : Document)
    (hvalue : ∀ doc, (value doc).meaning = doc.meaning) :
    (d.reread Parameter.reread value).meaning = d.withoutDefaults.meaning := by
  rw [meaning_reread d hvalue]
  simp only [Parameter.reread_meaning]
  simp [meaning, withoutDefaults, Layout.freeTexts, freeTexts, Parameter.meaning,
    Function.comp_def]

end Document

/-! ## Reading item by item -/

/-- A way to read a document item by item. What an item says is its shape, and the state holds
more than the content of the document. -/
structure Reader (State Item Shape Error : Type) where
  content : State → Document
  add : State → Item → Except Error State
  shape : Item → Shape

namespace Reader

variable {State Item Shape Error α : Type} (r : Reader State Item Shape Error)

/-- Reading items of the given shapes succeeds and takes the content `c` to `c'`. -/
def Reads (shapes : List Shape) (c c' : Document) : Prop :=
  ∀ items : List Item, items.map r.shape = shapes → ∀ s, r.content s = c →
    ∃ s', items.foldlM r.add s = .ok s' ∧ r.content s' = c'

variable {r}

theorem reads_nil (c : Document) : r.Reads [] c c := by
  intro items hitems s hs
  rw [List.map_eq_nil_iff] at hitems
  subst hitems
  exact ⟨s, rfl, hs⟩

theorem reads_singleton {shape : Shape} {c c' : Document}
    (h : ∀ item, r.shape item = shape → ∀ s, r.content s = c →
      ∃ s', r.add s item = .ok s' ∧ r.content s' = c') : r.Reads [shape] c c' := by
  intro items hitems s hs
  obtain ⟨item, rfl, hitem⟩ := List.map_eq_singleton_iff.mp hitems
  obtain ⟨s', hadd, hs'⟩ := h item hitem s hs
  refine ⟨s', ?_, hs'⟩
  rw [List.foldlM_cons, hadd]
  rfl

theorem Reads.append {above below : List Shape} {c c' c'' : Document} (h : r.Reads above c c')
    (h' : r.Reads below c' c'') : r.Reads (above ++ below) c c'' := by
  intro items hitems s hs
  obtain ⟨first, second, rfl, hfirst, hsecond⟩ := List.map_eq_append_iff.mp hitems
  obtain ⟨s', hfold, hs'⟩ := h first hfirst s hs
  obtain ⟨s'', hfold', hs''⟩ := h' second hsecond s' hs'
  refine ⟨s'', ?_, hs''⟩
  rw [List.foldlM_append, hfold]
  exact hfold'

/-- Reading the items of one entry after the other. -/
theorem reads_flatMap {entries : List α} {shapes : α → List Shape}
    {step : Document → α → Document}
    (h : ∀ entry ∈ entries, ∀ c, r.Reads (shapes entry) c (step c entry)) (c : Document) :
    r.Reads (entries.flatMap shapes) c (entries.foldl step c) := by
  induction entries generalizing c with
  | nil => exact reads_nil c
  | cons entry entries ih =>
    rw [List.flatMap_cons, List.foldl_cons]
    exact (h entry (by simp) c).append (ih (fun e he => h e (by simp [he])) _)

/-- Reading one item for each entry. -/
theorem reads_map {entries : List α} {shape : α → Shape} {step : Document → α → Document}
    (h : ∀ entry ∈ entries, ∀ c, r.Reads [shape entry] c (step c entry)) (c : Document) :
    r.Reads (entries.map shape) c (entries.foldl step c) := by
  rw [List.map_eq_flatMap]
  exact reads_flatMap h c

/-- Reading parameters of different names one after the other. -/
theorem reads_parameters {shapes : Parameter → List Shape} (params : List Parameter)
    (param : Parameter → Parameter) (hname : ∀ p, (param p).name = p.name)
    (hdistinct : (params.map Parameter.name).Nodup)
    (h : ∀ p ∈ params, ∀ c : Document, p.name ∉ c.parameters.map Parameter.name →
      r.Reads (shapes p) c { c with parameters := c.parameters ++ [param p] })
    {c : Document} (hc : ∀ p ∈ params, p.name ∉ c.parameters.map Parameter.name) :
    r.Reads (params.flatMap shapes) c
      { c with parameters := c.parameters ++ params.map param } := by
  induction params generalizing c with
  | nil => simpa using reads_nil c
  | cons p params ih =>
    rw [List.map_cons, List.nodup_cons] at hdistinct
    have hfirst := h p (by simp) c (hc p (by simp))
    have hrest := ih hdistinct.2 (fun q hq => h q (by simp [hq]))
      (c := { c with parameters := c.parameters ++ [param p] }) (by
        intro q hq hmem
        simp only [List.map_append, List.mem_append, List.map_cons, List.map_nil,
          List.mem_singleton, hname] at hmem
        rcases hmem with hold | hsame
        · exact hc q (by simp [hq]) hold
        · exact hdistinct.1 (List.mem_map.mpr ⟨q, hq, hsame⟩))
    simpa using hfirst.append hrest

end Reader

/-- Adding a parameter of a new name changes nothing but the list of parameters. -/
theorem Document.content_addParameter {d : Document} {p : Parameter}
    (h : p.name ∉ d.content.parameters.map Parameter.name) :
    (d.addParameter p).content =
      { d.content with parameters := d.content.parameters ++ [p] } := by
  have hnew : ∀ q ∈ d.parameters, q.name ≠ p.name := by
    intro q hq hsame
    exact h (List.mem_map.mpr ⟨q, hq, hsame⟩)
  have hnone : d.parameter? p.name = none := by
    simpa [parameter?, List.find?_eq_none] using hnew
  have hany : d.parameters.any (fun q => q.name = p.name) = false := by
    simpa using hnew
  simp [addParameter, pushParameter, insertParameter, hnone, hany, content]

/-! ## Reading section by section -/

theorem foldl_examples (texts : List Text) (c : Document) :
    texts.foldl (fun c t => { c with examples := c.examples ++ [t] }) c =
      { c with examples := c.examples ++ texts } := by
  induction texts generalizing c with
  | nil => simp
  | cons t texts ih => simp [ih]

theorem foldl_raises (entries : List RaiseEntry) (c : Document) :
    entries.foldl (fun c e => { c with raises := c.raises ++ [e.reread] }) c =
      { c with raises := c.raises ++ entries.map RaiseEntry.reread } := by
  induction entries generalizing c with
  | nil => simp
  | cons e entries ih => simp [ih]

theorem foldl_addFreeText (texts : List Text) (kind : SectionKind) (c : Document) :
    texts.foldl (fun c t => c.addFreeText t kind) c =
      match kind with
      | .notes => { c with notes := c.notes ++ texts }
      | .warnings => { c with warnings := c.warnings ++ texts }
      | .seeAlso => { c with seeAlso := c.seeAlso ++ texts }
      | .references => { c with references := c.references ++ texts }
      | _ => c := by
  induction texts generalizing c with
  | nil => cases kind <;> simp
  | cons t texts ih =>
    rw [List.foldl_cons, ih]
    cases kind <;> simp [Document.addFreeText]

/-- The place of a document for what is returned or yielded. -/
structure ValueSlot where
  get : Document → Option ReturnDoc
  set : Document → Option ReturnDoc → Document
  get_set : ∀ d v, get (set d v) = v
  set_get : ∀ d, set d (get d) = d
  set_set : ∀ d v w, set (set d v) w = set d w
  content_set : ∀ d v, (set d v).content = set d.content v
  get_content : ∀ d, get d.content = get d

namespace ValueSlot

def returns : ValueSlot where
  get := Document.returns
  set d v := { d with returns := v }
  get_set _ _ := rfl
  set_get _ := rfl
  set_set _ _ _ := rfl
  content_set _ _ := rfl
  get_content _ := rfl

def yields : ValueSlot where
  get := Document.yields
  set d v := { d with yields := v }
  get_set _ _ := rfl
  set_get _ := rfl
  set_set _ _ _ := rfl
  content_set _ _ := rfl
  get_content _ := rfl

end ValueSlot

/-- Nothing is written for a value that is not there. -/
theorem Reader.reads_absent {State Item Shape Error : Type} {r : Reader State Item Shape Error}
    (slot : ValueSlot) {c : Document} (hc : slot.get c = none) :
    r.Reads [] c (slot.set c none) := by
  rw [← hc, slot.set_get]
  exact reads_nil c

/-- A document that has a head and nothing else. -/
def Document.headOnly (d : Document) : Document :=
  { summary := d.summary, extended := d.extended }

theorem Document.Tidy.headOnly {d : Document} (h : d.Tidy) : d.headOnly.Tidy where
  summary := h.summary
  extended := h.extended
  distinct := List.nodup_nil
  names := by simp [Document.headOnly]
  descriptions := by simp [Document.headOnly, Document.descriptions, Document.values]
  exceptions := by simp [Document.headOnly]
  examples := by simp [Document.headOnly]
  freeTexts kind _ t ht := by
    cases kind <;> simp [Document.headOnly, Layout.freeTexts, Document.freeTexts] at ht

/-- Sections in their fixed order add up to the document if each kind of section adds its own
part to a document that lacks it. -/
theorem Reader.reads_order {State Item Shape Error : Type} {r : Reader State Item Shape Error}
    {d : Document} {shapes : SectionKind → List Shape} {param : Parameter → Parameter}
    {value : ReturnDoc → ReturnDoc}
    (params : ∀ c, c.parameters = [] →
      r.Reads (shapes .params) c { c with parameters := d.parameters.map param })
    (returns : ∀ c, c.returns = none →
      r.Reads (shapes .returns) c { c with returns := d.returns.map value })
    (yields : ∀ c, c.yields = none →
      r.Reads (shapes .yields) c { c with yields := d.yields.map value })
    (raises : ∀ c, r.Reads (shapes .raises) c
      { c with raises := c.raises ++ d.raises.map RaiseEntry.reread })
    (examples : ∀ c, r.Reads (shapes .examples) c
      { c with examples := c.examples ++ d.examples })
    (free : ∀ kind, kind.isFreeText = true → ∀ c, r.Reads (shapes kind) c
      ((Layout.freeTexts d kind).foldl (fun c t => c.addFreeText t kind) c)) :
    r.Reads (SectionKind.order.flatMap shapes) d.headOnly (d.reread param value) := by
  have hnotes := free .notes rfl
  have hwarnings := free .warnings rfl
  have hsee := free .seeAlso rfl
  have hreferences := free .references rfl
  simp only [foldl_addFreeText] at hnotes hwarnings hsee hreferences
  have hall := (((((((params d.headOnly rfl).append (returns _ rfl)).append
    (yields _ rfl)).append (raises _)).append (examples _)).append (hnotes _)).append
    (hwarnings _)).append (hsee _) |>.append (hreferences _)
  simpa [SectionKind.order, Document.headOnly, Document.reread, List.append_assoc] using hall

end Docstring
