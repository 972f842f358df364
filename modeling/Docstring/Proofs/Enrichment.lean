-- What a signature has added to a document once, it does not add again: not even after the
-- document was written, which loses keyword-only marks, and read back.
import Docstring.Enrichment
import Docstring.Proofs.Document.Reading

namespace Docstring

open Text

/-! ## Types -/

namespace Enriched

/-- The type that is documented once an annotation was met. -/
def reconciled (preference : TypesPreference) (documented : Option Text) (hint : Text) :
    Option Text :=
  match documented with
  | none => if preference = .reportOnly then none else some hint
  | some type =>
    if Hint.same type hint then some type
    else if preference = .preferAnnotations then some hint
    else some type

theorem reconcile_fst (preference : TypesPreference) (documented : Option Text) (hint : Text)
    (what : String) : (reconcile preference documented hint what).1 =
      reconciled preference documented hint := by
  unfold reconcile reconciled
  cases documented with
  | none => by_cases hp : preference = .reportOnly <;> simp [hp]
  | some type =>
    by_cases hs : Hint.same type hint = true
    · simp [hs]
    · by_cases hp : preference = .preferAnnotations <;> simp [hs, hp]

theorem same_self (t : Text) : Hint.same t t = true := by
  simp [Hint.same]

/-- An annotation that was met once changes nothing more. -/
theorem reconciled_reconciled (preference : TypesPreference) (documented : Option Text)
    (hint : Text) :
    reconciled preference (reconciled preference documented hint) hint =
      reconciled preference documented hint := by
  unfold reconciled
  cases documented with
  | none => by_cases hp : preference = .reportOnly <;> simp [hp, same_self]
  | some type =>
    by_cases hs : Hint.same type hint = true
    · simp [hs]
    · by_cases hp : preference = .preferAnnotations <;> simp [hs, hp, same_self]

/-! ## Parameters -/

/-- An entry that its declaration has nothing to add to. -/
structure Settled (preference : TypesPreference) (fact : ParamFact) (p : Parameter) : Prop where
  name : p.name = fact.name
  kind : p.kind = fact.kind
  type : ∀ hint ∈ fact.hint, reconciled preference p.type hint = p.type
  default : p.default.or (declaredDefault fact) = p.default

/-- The type of a parameter once its declaration was met. -/
def matchedType (preference : TypesPreference) (fact : ParamFact) (type : Option Text) :
    Option Text :=
  match fact.hint with
  | some hint => reconciled preference type hint
  | none => type

theorem matched_fst (preference : TypesPreference) (fact : ParamFact) (p : Parameter) :
    (matched preference fact p).1 =
      { p with
        type := matchedType preference fact p.type
        kind := fact.kind
        default := p.default.or (declaredDefault fact) } := by
  unfold matched matchedType
  cases fact.hint with
  | none => rfl
  | some hint => simp only [reconcile_fst]

theorem matchedType_of_settled {preference : TypesPreference} {fact : ParamFact} {p : Parameter}
    (h : Settled preference fact p) : matchedType preference fact p.type = p.type := by
  unfold matchedType
  cases hh : fact.hint with
  | none => rfl
  | some hint => exact h.type hint (by simp [hh])

theorem settled_matched {fact : ParamFact} {p : Parameter} (preference : TypesPreference)
    (h : p.name = fact.name) : Settled preference fact (matched preference fact p).1 := by
  rw [matched_fst]
  refine ⟨h, rfl, ?_, ?_⟩
  · intro hint hh
    simp only [matchedType, Option.mem_def.mp hh, reconciled_reconciled]
  · cases p.default <;> simp

theorem settled_added (preference : TypesPreference) (fact : ParamFact) :
    Settled preference fact (added preference fact).1 := by
  refine ⟨rfl, rfl, ?_, ?_⟩
  · intro hint hh
    by_cases hp : preference = .reportOnly <;>
      simp [added, reconciled, hp, Option.mem_def.mp hh, same_self]
  · cases hd : declaredDefault fact <;> simp [added, hd]

theorem name_of_takeNamed? {name : Text} {params others : List Parameter} {p : Parameter}
    (h : takeNamed? name params = some (p, others)) : p.name = name := by
  induction params generalizing others with
  | nil => simp [takeNamed?] at h
  | cons q params ih =>
    unfold takeNamed? at h
    split at h
    · simp_all
    · simp only [Option.map_eq_some_iff, Prod.mk.injEq, Prod.exists] at h
      obtain ⟨found, rest, hfound, rfl, _⟩ := h
      exact ih hfound

/-- The declared parameters come first, each settled, and the others follow. -/
theorem reorder_settled (preference : TypesPreference) (documented : List Parameter)
    (facts : List ParamFact) :
    ∃ entries others, (reorder preference documented facts).1 = entries ++ others ∧
      List.Forall₂ (Settled preference) facts entries := by
  induction facts generalizing documented with
  | nil => exact ⟨[], documented, rfl, .nil⟩
  | cons fact facts ih =>
    cases hfound : takeNamed? fact.name documented with
    | none =>
      obtain ⟨entries, others, hrest, hsettled⟩ := ih documented
      refine ⟨(added preference fact).1 :: entries, others, ?_,
        .cons (settled_added preference fact) hsettled⟩
      simp [reorder, hfound, hrest]
    | some found =>
      obtain ⟨p, left⟩ := found
      obtain ⟨entries, others, hrest, hsettled⟩ := ih left
      refine ⟨(matched preference fact p).1 :: entries, others, ?_,
        .cons (settled_matched preference (name_of_takeNamed? hfound)) hsettled⟩
      simp [reorder, hfound, hrest]

/-- Settled entries that were read back are found again in their places, and settling them once
more changes nothing that is written. -/
theorem reorder_reread {preference : TypesPreference} {facts : List ParamFact}
    {entries : List Parameter} (others : List Parameter) {param : Parameter → Parameter}
    (hname : ∀ p, (param p).name = p.name) (hidem : ∀ p, param (param p) = param p)
    (hmatched : ∀ fact p, Settled preference fact p →
      param (matched preference fact (param p)).1 = param p)
    (h : List.Forall₂ (Settled preference) facts entries) :
    (reorder preference ((entries ++ others).map param) facts).1.map param =
      (entries ++ others).map param := by
  induction h with
  | nil => simp [reorder, hidem]
  | @cons fact p facts entries hsettled _ ih =>
    have hfound : takeNamed? fact.name (param p :: (entries ++ others).map param) =
        some (param p, (entries ++ others).map param) := by
      simp [takeNamed?, hname, hsettled.name]
    rw [List.cons_append, List.map_cons]
    simp only [reorder, hfound, List.map_cons, hmatched fact p hsettled, ih]

end Enriched

theorem Parameter.reread_reread (p : Parameter) : p.reread.reread = p.reread := by
  simp only [reread, meaning, Option.getD_some]
  split <;> simp_all

/-- Keyword-only marks come back with the declaration, and are lost again when it is written. -/
theorem Parameter.reread_matched {preference : TypesPreference} {fact : ParamFact} {p : Parameter}
    (h : Enriched.Settled preference fact p) :
    (Enriched.matched preference fact p.reread).1.reread = p.reread := by
  have htype := Enriched.matchedType_of_settled h
  rw [Enriched.matched_fst]
  simp [reread, meaning, htype, h.kind]

theorem Parameter.meaning_matched {preference : TypesPreference} {fact : ParamFact} {p : Parameter}
    (h : Enriched.Settled preference fact p) :
    (Enriched.matched preference fact p.meaning).1.meaning = p.meaning := by
  have htype := Enriched.matchedType_of_settled h
  rw [Enriched.matched_fst]
  simp [meaning, htype, h.kind, h.default]

/-! ## Values -/

namespace Enriched

/-- What a generator returns and yields once its return is documented as yielded. -/
def routed (symbol : SymbolFact) (returns yields : Option ReturnDoc) :
    Option ReturnDoc × Option ReturnDoc :=
  match returns with
  | some doc =>
    if symbol.isGenerator && !doc.isBlank then (none, some (mergeYields yields doc))
    else (returns, yields)
  | none => (none, yields)

/-- A value with the annotated type. -/
def filled (preference : TypesPreference) (hint : Text) (doc : Option ReturnDoc) :
    Option ReturnDoc :=
  doc.map fun doc => { doc with type := reconciled preference doc.type hint }

/-- What is documented as returned and yielded once the signature was met. -/
def valuesAfter (preference : TypesPreference) (symbol : SymbolFact)
    (returns yields : Option ReturnDoc) : Option ReturnDoc × Option ReturnDoc :=
  let values := routed symbol returns yields
  match symbol.returnHint with
  | none => values
  | some hint =>
    if Hint.isNoValue hint then values
    else if symbol.isGenerator then (values.1, filled preference (Hint.yieldType hint) values.2)
    else (filled preference hint values.1, values.2)

theorem routeReturns_fst (d : Document) (symbol : SymbolFact) :
    (routeReturns d symbol).1 =
      { d with
        returns := (routed symbol d.returns d.yields).1
        yields := (routed symbol d.returns d.yields).2 } := by
  unfold routeReturns routed
  cases hg : symbol.isGenerator with
  | true =>
    cases hr : d.returns with
    | none => simp [← hr]
    | some doc => cases hb : doc.isBlank <;> simp [hb, ← hr]
  | false =>
    cases hr : d.returns with
    | none => simp [← hr]; split <;> rfl
    | some doc => simp [← hr]; split <;> rfl

theorem fillType_fst (preference : TypesPreference) (doc : Option ReturnDoc) (hint : Text)
    (what : String) : (fillType preference doc hint what).1 = filled preference hint doc := by
  unfold fillType filled
  cases doc with
  | none => rfl
  | some doc => simp [reconcile_fst]

/-- Nothing is left that a generator could be said to yield instead. -/
theorem blank_of_mem_routed {symbol : SymbolFact} {returns yields : Option ReturnDoc}
    (hg : symbol.isGenerator = true) :
    ∀ doc ∈ (routed symbol returns yields).1, doc.isBlank = true := by
  intro doc hdoc
  unfold routed at hdoc
  cases returns with
  | none => simp at hdoc
  | some old =>
    cases hb : old.isBlank with
    | true =>
      simp [hg, hb] at hdoc
      rw [← hdoc, hb]
    | false => simp [hg, hb] at hdoc

theorem routed_of_blank {symbol : SymbolFact} {returns : Option ReturnDoc}
    (yields : Option ReturnDoc)
    (h : symbol.isGenerator = true → ∀ doc ∈ returns, doc.isBlank = true) :
    routed symbol returns yields = (returns, yields) := by
  unfold routed
  cases returns with
  | none => rfl
  | some doc =>
    cases hg : symbol.isGenerator with
    | true => simp [h hg doc rfl]
    | false => simp

theorem filled_map {value : ReturnDoc → ReturnDoc} (preference : TypesPreference) (hint : Text)
    (doc : Option ReturnDoc) (htype : ∀ doc, (value doc).type = doc.type) :
    filled preference hint ((filled preference hint doc).map value) =
      (filled preference hint doc).map value := by
  cases doc with
  | none => rfl
  | some doc =>
    have hkept : ∀ x : ReturnDoc, { value x with type := x.type } = value x := by
      intro x
      rw [← htype x]
    simp only [filled, Option.map_some, htype, reconciled_reconciled]
    exact congrArg some (hkept { doc with type := reconciled preference doc.type hint })

end Enriched

/-- What reading back may do to a value so that a signature that was met before has nothing to add
to it. -/
structure KeepsValue (value : ReturnDoc → ReturnDoc) : Prop where
  type : ∀ doc, (value doc).type = doc.type
  blank : ∀ doc, (value doc).isBlank = doc.isBlank
  again : ∀ doc, value (value doc) = value doc

/-- Values that met the signature and were read back do not change when they meet it again. -/
theorem Enriched.valuesAfter_map {f g : ReturnDoc → ReturnDoc} (preference : TypesPreference)
    (symbol : SymbolFact) (returns yields : Option ReturnDoc) (hf : KeepsValue f)
    (hg : KeepsValue g) :
    let after := valuesAfter preference symbol returns yields
    valuesAfter preference symbol (after.1.map f) (after.2.map g) =
      (after.1.map f, after.2.map g) := by
  have hrouted : ∀ r y : Option ReturnDoc,
      (symbol.isGenerator = true → ∀ doc ∈ r, doc.isBlank = true) →
      routed symbol (r.map f) y = (r.map f, y) := by
    intro r y hr
    apply routed_of_blank
    intro hgen doc hdoc
    obtain ⟨old, hold, rfl⟩ := Option.map_eq_some_iff.mp hdoc
    rw [hf.blank, hr hgen old hold]
  have hreturns : symbol.isGenerator = true →
      ∀ doc ∈ (routed symbol returns yields).1, doc.isBlank = true :=
    fun hgen => blank_of_mem_routed hgen
  unfold valuesAfter
  cases symbol.returnHint with
  | none => simp only [hrouted _ _ hreturns]
  | some hint =>
    by_cases hno : Hint.isNoValue hint = true
    · simp only [hno, if_true, hrouted _ _ hreturns]
    · cases hgen : symbol.isGenerator with
      | true =>
        simp only [hno, if_true, hrouted _ _ hreturns, filled_map _ _ _ hg.type,
          Bool.false_eq_true, if_false]
      | false =>
        have hfree : symbol.isGenerator = true →
            ∀ doc ∈ filled preference hint (routed symbol returns yields).1,
              doc.isBlank = true := by
          simp [hgen]
        simp only [hno, Bool.false_eq_true, if_false, hrouted _ _ hfree, filled_map _ _ _ hf.type]

/-- Enriching changes the parameters and the values of a document, and nothing else of its
content. -/
theorem content_enrich {symbol : SymbolFact} (d : Document) (preference : TypesPreference)
    (h : symbol.kind.isCallable = true) :
    (enrich d symbol preference).document.content =
      { d.content with
        parameters :=
          (Enriched.reorder preference d.parameters symbol.documentedParams).1
        returns := (Enriched.valuesAfter preference symbol d.returns d.yields).1
        yields := (Enriched.valuesAfter preference symbol d.returns d.yields).2 } := by
  simp only [enrich, h, if_true, Enriched.fillReturnType, Enriched.valuesAfter,
    Enriched.routeReturns_fst]
  cases symbol.returnHint with
  | none => rfl
  | some hint =>
    simp only [Document.content, Document.warnAll, Document.mk.injEq]
    split
    · simp
    · split <;> simp [Enriched.fillType_fst]

/-! ## Documents -/

/-- What reading back may do to a parameter so that a declaration that was met before has nothing
to add to it. -/
structure KeepsParam (param : Parameter → Parameter) : Prop where
  name : ∀ p, (param p).name = p.name
  again : ∀ p, param (param p) = param p
  matched : ∀ preference fact p, Enriched.Settled preference fact p →
    param (Enriched.matched preference fact (param p)).1 = param p

/-- What becomes of a document that is written and read back, parameters and values one by one. -/
structure Settling where
  apply : Document → Document
  param : Parameter → Parameter
  returns : ReturnDoc → ReturnDoc
  yields : ReturnDoc → ReturnDoc
  keepsParam : KeepsParam param
  keepsReturns : KeepsValue returns
  keepsYields : KeepsValue yields
  content : ∀ d, apply d.content = apply d
  again : ∀ d, apply (apply d) = apply d
  update : ∀ d params rs ys,
    apply { d with parameters := params, returns := rs, yields := ys } =
      { apply d with
        parameters := params.map param
        returns := rs.map returns
        yields := ys.map yields }

/-- A signature has nothing to add to a document that it was added to before, even when the
document was written and read back in between. -/
theorem Settling.apply_enrich (s : Settling) {d e : Document} {symbol : SymbolFact}
    {preference : TypesPreference}
    (he : e.content = s.apply (enrich d symbol preference).document) :
    s.apply (enrich e symbol preference).document =
      s.apply (enrich d symbol preference).document := by
  cases hc : symbol.kind.isCallable with
  | false =>
    have hsame : ∀ d : Document, (enrich d symbol preference).document = d := by
      simp [enrich, hc]
    rw [hsame] at he ⊢
    rw [hsame, ← s.content e, he, s.again]
  | true =>
    have hx := content_enrich d preference hc
    have hy := content_enrich e preference hc
    generalize (enrich d symbol preference).document = x at he hx ⊢
    obtain ⟨entries, others, hparams, hsettled⟩ :=
      Enriched.reorder_settled preference d.parameters symbol.documentedParams
    have hx3 : x.parameters = entries ++ others := (congrArg Document.parameters hx).trans hparams
    have hx4 : x.returns = (Enriched.valuesAfter preference symbol d.returns d.yields).1 :=
      congrArg Document.returns hx
    have hx5 : x.yields = (Enriched.valuesAfter preference symbol d.returns d.yields).2 :=
      congrArg Document.yields hx
    have hself := s.update x x.parameters x.returns x.yields
    have he3 : e.parameters = x.parameters.map s.param :=
      (congrArg Document.parameters he).trans (congrArg Document.parameters hself)
    have he4 : e.returns = x.returns.map s.returns :=
      (congrArg Document.returns he).trans (congrArg Document.returns hself)
    have he5 : e.yields = x.yields.map s.yields :=
      (congrArg Document.yields he).trans (congrArg Document.yields hself)
    have hagain := Enriched.reorder_reread others s.keepsParam.name s.keepsParam.again
      (s.keepsParam.matched preference) hsettled
    have hvalues := Enriched.valuesAfter_map preference symbol d.returns d.yields s.keepsReturns
      s.keepsYields
    simp only [← hx4, ← hx5] at hvalues
    rw [← hx3] at hagain
    rw [he3, he4, he5, hvalues] at hy
    have hreturns : s.returns ∘ s.returns = s.returns := funext s.keepsReturns.again
    have hyields : s.yields ∘ s.yields = s.yields := funext s.keepsYields.again
    rw [← s.content (enrich e symbol preference).document, hy, he, s.update, s.again, hagain]
    simp only [Option.map_map, hreturns, hyields]
    exact hself.symm

end Docstring
