-- Breaking the lines of a document and reading it back settle it, so that a signature that was met
-- before has nothing to add.
import Docstring.Proofs.Document.Wrapped
import Docstring.Proofs.Enrichment

namespace Docstring

open Text Layout

/-! ## Parameters and values read back -/

/-- A way to read parameters back. It keeps what a description stands beside, and a description
whose lines are already broken. -/
structure RereadsParam (param : Parameter → Parameter) : Prop extends KeepsParam param where
  display : ∀ p, (param p).display = p.display
  type : ∀ p, (param p).type = p.type
  fixed : ∀ p (b : Breaking), p.description.map b.apply = p.description →
    (param p).description.map b.apply = (param p).description

/-- A way to read values back, which keeps a description whose lines are already broken. -/
structure RereadsValue (value : ReturnDoc → ReturnDoc) : Prop extends KeepsValue value where
  fixed : ∀ doc (b : Breaking), doc.description.map b.apply = doc.description →
    (value doc).description.map b.apply = (value doc).description

theorem Layout.Breaking.fixed_getD (b : Breaking) {t : Option Text} (h : t.map b.apply = t) :
    b.apply (t.getD []) = t.getD [] := by
  rw [← b.getD_map, h]

theorem Layout.Breaking.fixed_unlessEmpty (b : Breaking) {t : Option Text}
    (h : t.map b.apply = t) :
    (t.getD []).unlessEmpty.map b.apply = (t.getD []).unlessEmpty := by
  have hfixed := b.fixed_getD h
  unfold unlessEmpty
  split
  · rfl
  · rw [Option.map_some, hfixed]

theorem rereadsParam_reread : RereadsParam Parameter.reread where
  name _ := rfl
  again := Parameter.reread_reread
  matched _ _ _ := Parameter.reread_matched
  display := Parameter.display_meaning
  type _ := rfl
  fixed _ b h := congrArg some (b.fixed_getD h)

theorem rereadsParam_meaning : RereadsParam Parameter.meaning where
  name _ := rfl
  again := Parameter.meaning_meaning
  matched _ _ _ := Parameter.meaning_matched
  display := Parameter.display_meaning
  type _ := rfl
  fixed _ b h := congrArg some (b.fixed_getD h)

theorem rereadsValue_reread : RereadsValue ReturnDoc.reread where
  type _ := rfl
  blank doc := by
    unfold ReturnDoc.reread ReturnDoc.isBlank
    cases doc.type <;> simp
  again doc := by
    unfold ReturnDoc.reread
    cases doc.type <;> simp
  fixed doc b h := by
    unfold ReturnDoc.reread
    cases doc.type with
    | none => exact congrArg some (b.fixed_getD h)
    | some type => exact b.fixed_unlessEmpty h

/-! ## Broken and read back -/

section Broken

variable (k : Wrapping) {param : Parameter → Parameter} {value : ReturnDoc → ReturnDoc}

theorem Parameter.broken_of_fixed {p q : Parameter} (hdisplay : q.display = p.display)
    (htype : q.type = p.type)
    (h : q.description.map (k.param p).apply = q.description) : q.broken k = q := by
  rw [broken, k.param_congr hdisplay htype, h]

theorem Parameter.broken_param (h : RereadsParam param) (p : Parameter) :
    (param (p.broken k)).broken k = param (p.broken k) := by
  refine broken_of_fixed k (p := p) (h.display _) (h.type _) ?_
  exact h.fixed _ _ ((k.param p).map_map p.description)

theorem ReturnDoc.broken_value (h : RereadsValue value) (b : Option Text → Breaking)
    (doc : ReturnDoc) : (value (doc.broken b)).broken b = value (doc.broken b) := by
  have htype : (value (doc.broken b)).type = doc.type := h.type _
  have hfixed := h.fixed (doc.broken b) (b doc.type) ((b doc.type).map_map doc.description)
  rw [broken, htype, hfixed, ← htype]

theorem RaiseEntry.broken_reread (b : Text → Breaking) (r : RaiseEntry) :
    ((r.broken b).reread).broken b = (r.broken b).reread := by
  have hfixed := (b r.exception).fixed_unlessEmpty ((b r.exception).map_map r.description)
  exact congrArg (fun t => ({ r with description := t } : RaiseEntry)) hfixed

theorem keepsParam_broken (h : RereadsParam param) :
    KeepsParam fun p => param (p.broken k) where
  name p := h.name (p.broken k)
  again p := by rw [p.broken_param k h, h.again]
  matched preference fact p hp := by
    have hsettled : Enriched.Settled preference fact (p.broken k) :=
      ⟨hp.name, hp.kind, hp.type, hp.default⟩
    have hmatched := h.matched preference fact (p.broken k) hsettled
    have hbroken : (Enriched.matched preference fact (param (p.broken k))).1.broken k =
        (Enriched.matched preference fact (param (p.broken k))).1 := by
      rw [Enriched.matched_fst]
      refine Parameter.broken_of_fixed k (p := p) ?_ ?_ ?_
      · rw [Parameter.display, Parameter.display, hp.kind]
        exact congrArg _ (h.name (p.broken k))
      · change Enriched.matchedType preference fact (param (p.broken k)).type = p.type
        rw [h.type]
        exact Enriched.matchedType_of_settled hsettled
      · exact h.fixed _ _ ((k.param p).map_map p.description)
    rw [hbroken, hmatched]

theorem keepsValue_broken (h : RereadsValue value) (b : Option Text → Breaking) :
    KeepsValue fun doc => value (doc.broken b) where
  type doc := h.type (doc.broken b)
  blank doc := by
    rw [h.blank]
    simp only [ReturnDoc.isBlank, ReturnDoc.broken, Breaking.getD_map]
    exact congrArg _ ((b doc.type).blank _)
  again doc := by rw [doc.broken_value h b, h.again]

/-- A document of which every text is broken already. -/
theorem Document.broken_of_fixed {x : Document} (summary : k.head.apply x.summary = x.summary)
    (extended : x.extended.map k.head.apply = x.extended)
    (params : ∀ p ∈ x.parameters, p.broken k = p)
    (returns : ∀ doc ∈ x.returns, doc.broken k.returns = doc)
    (yields : ∀ doc ∈ x.yields, doc.broken k.yields = doc)
    (raises : ∀ r ∈ x.raises, r.broken k.raise = r)
    (free : ∀ kind, ∀ t ∈ x.freeTexts kind, k.free.apply t = t) : x.broken k = x := by
  have hlist : ∀ {α : Type} {f : α → α} {l : List α}, (∀ a ∈ l, f a = a) → l.map f = l :=
    fun h => (List.map_congr_left h).trans (List.map_id _)
  have hoption : ∀ {f : ReturnDoc → ReturnDoc} {o : Option ReturnDoc}, (∀ a ∈ o, f a = a) →
      o.map f = o := by
    intro f o h
    cases o with
    | none => rfl
    | some a => exact congrArg some (h a rfl)
  have hnotes : x.notes.map k.free.apply = x.notes := hlist (free .notes)
  have hwarnings : x.warnings.map k.free.apply = x.warnings := hlist (free .warnings)
  have hsee : x.seeAlso.map k.free.apply = x.seeAlso := hlist (free .seeAlso)
  have hreferences : x.references.map k.free.apply = x.references := hlist (free .references)
  rw [broken, summary, extended, hlist params, hoption returns, hoption yields, hlist raises,
    hnotes, hwarnings, hsee, hreferences]

/-- What was broken and read back is broken already. -/
theorem Document.broken_reread (hp : RereadsParam param) (hv : RereadsValue value)
    (d : Document) :
    ((d.broken k).reread param value).broken k = (d.broken k).reread param value := by
  apply broken_of_fixed
  · exact k.head.again d.summary
  · exact k.head.map_map d.extended
  · intro p hmem
    obtain ⟨q, hq, rfl⟩ := List.mem_map.mp hmem
    obtain ⟨p, _, rfl⟩ := List.mem_map.mp hq
    exact p.broken_param k hp
  · intro doc hmem
    obtain ⟨old, hold, rfl⟩ := Option.map_eq_some_iff.mp hmem
    obtain ⟨doc, _, rfl⟩ := Option.map_eq_some_iff.mp hold
    exact doc.broken_value hv k.returns
  · intro doc hmem
    obtain ⟨old, hold, rfl⟩ := Option.map_eq_some_iff.mp hmem
    obtain ⟨doc, _, rfl⟩ := Option.map_eq_some_iff.mp hold
    exact doc.broken_value hv k.yields
  · intro r hmem
    obtain ⟨old, hold, rfl⟩ := List.mem_map.mp hmem
    obtain ⟨r, _, rfl⟩ := List.mem_map.mp hold
    exact r.broken_reread k.raise
  · intro kind t hmem
    have hfree : t ∈ Layout.freeTexts (d.broken k) kind := by
      cases kind <;> exact hmem
    rw [freeTexts_broken] at hfree
    obtain ⟨t, _, rfl⟩ := List.mem_map.mp hfree
    exact k.free.again t

theorem Document.reread_reread (hp : RereadsParam param) (hv : RereadsValue value)
    (d : Document) :
    (d.reread param value).reread param value = d.reread param value := by
  have hparam : param ∘ param = param := funext hp.again
  have hvalue : value ∘ value = value := funext hv.again
  have hraise : RaiseEntry.reread ∘ RaiseEntry.reread = RaiseEntry.reread :=
    funext fun r => by simp [RaiseEntry.reread]
  rw [reread]
  simp only [freeTexts_reread]
  simp [reread, hparam, hvalue, hraise]

/-- Breaking lines and reading back settle a document. -/
def Wrapping.settling (hp : RereadsParam param) (hv : RereadsValue value) : Settling where
  apply d := (d.broken k).reread param value
  param p := param (p.broken k)
  returns doc := value (doc.broken k.returns)
  yields doc := value (doc.broken k.yields)
  keepsParam := keepsParam_broken k hp
  keepsReturns := keepsValue_broken hv k.returns
  keepsYields := keepsValue_broken hv k.yields
  content _ := rfl
  again d := by rw [d.broken_reread k hp hv, Document.reread_reread hp hv]
  update d params rs ys := by
    have hfree : ∀ kind, Layout.freeTexts
        (({ d with parameters := params, returns := rs, yields := ys } : Document).broken k) kind =
        Layout.freeTexts (d.broken k) kind := by
      intro kind
      cases kind <;> rfl
    simp only [Document.reread, hfree]
    simp [Document.broken, Function.comp_def]

end Broken

end Docstring
