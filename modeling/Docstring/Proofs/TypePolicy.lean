-- What enrichment does to documented types under each preference, and when it warns about one.
-- Every type that meets an annotation is a slot, and the warnings about types are those of the
-- slots.
import Docstring.Proofs.Reordering

namespace Docstring

open Text

namespace Enriched

/-! ## Slots -/

/-- A documented type that meets an annotation, and how messages call it. -/
structure TypeSlot where
  type : Option Text
  hint : Text
  label : String

namespace TypeSlot

/-- Why a slot is reported: its type is missing and nothing may be written, or it differs from the
annotation in more than white space. -/
def reason? (preference : TypesPreference) (slot : TypeSlot) : Option Reason :=
  match slot.type with
  | none => if preference = .reportOnly then some .typeMissing else none
  | some type =>
    if Hint.same type slot.hint then none
    else if preference = .preferAnnotations then some .typeReplaced
    else some .typeMismatch

/-- What is said about a slot that is reported. -/
def message (slot : TypeSlot) : Reason → String
  | .typeMissing =>
    slot.label ++ " has no documented type; annotation is '" ++ slot.hint.asString ++ "'"
  | .typeReplaced =>
    slot.label ++ " type '" ++ (slot.type.getD []).asString ++ "' replaced by annotation '" ++
      slot.hint.asString ++ "'"
  | _ =>
    slot.label ++ " documented as '" ++ (slot.type.getD []).asString ++ "' but annotated as '" ++
      slot.hint.asString ++ "'"

def warning? (preference : TypesPreference) (slot : TypeSlot) : Option Diagnostic :=
  (slot.reason? preference).map fun reason => ⟨reason, slot.message reason⟩

end TypeSlot

/-- The slot of a declared parameter that is documented and has an annotation. -/
def paramSlot? (documented : List Parameter) (fact : ParamFact) : Option TypeSlot :=
  (documented.find? fun p => p.name = fact.name).bind fun p =>
    fact.hint.map fun hint => ⟨p.type, hint, "parameter '" ++ fact.name.asString ++ "'"⟩

/-- The slot of the value that a callable yields or returns, if the value is documented once the
return of a generator is routed. -/
def valueSlot? (d : Document) (symbol : SymbolFact) : Option TypeSlot :=
  symbol.returnHint.bind fun hint =>
    if Hint.isNoValue hint then none
    else if symbol.isGenerator then
      (routed symbol d.returns d.yields).2.map fun doc => ⟨doc.type, Hint.yieldType hint, "yields"⟩
    else (routed symbol d.returns d.yields).1.map fun doc => ⟨doc.type, hint, "returns"⟩

/-- The slots of a document, parameters first. -/
def typeSlots (d : Document) (symbol : SymbolFact) : List TypeSlot :=
  symbol.documentedParams.filterMap (paramSlot? d.parameters) ++ (valueSlot? d symbol).toList

theorem reconcile_snd (preference : TypesPreference) (documented : Option Text) (hint : Text)
    (what : String) : (reconcile preference documented hint what).2 =
      TypeSlot.warning? preference ⟨documented, hint, what⟩ := by
  unfold reconcile TypeSlot.warning? TypeSlot.reason?
  cases documented with
  | none => by_cases hp : preference = .reportOnly <;> simp [hp, TypeSlot.message]
  | some type =>
    by_cases hs : Hint.same type hint = true
    · simp [hs]
    · by_cases hp : preference = .preferAnnotations <;> simp [hs, hp, TypeSlot.message]

theorem reason_of_warning? {preference : TypesPreference} {slot : TypeSlot} {w : Diagnostic}
    (h : w ∈ slot.warning? preference) : w.reason ∈ typeReasons := by
  rw [← reconcile_snd] at h
  exact reconcile_reason h

/-! ## Warnings -/

/-- The warnings about types. -/
def typeWarnings (warnings : List Diagnostic) : List Diagnostic :=
  warnings.filter fun w => w.reason ∈ typeReasons

theorem typeWarnings_append (a b : List Diagnostic) :
    typeWarnings (a ++ b) = typeWarnings a ++ typeWarnings b :=
  List.filter_append ..

theorem typeWarnings_eq_nil {warnings : List Diagnostic}
    (h : ∀ w ∈ warnings, w.reason ∉ typeReasons) : typeWarnings warnings = [] := by
  rw [typeWarnings, List.filter_eq_nil_iff]
  intro w hw
  simpa using h w hw

theorem typeWarnings_warning? (preference : TypesPreference) (slot : TypeSlot) :
    typeWarnings (slot.warning? preference).toList = (slot.warning? preference).toList := by
  rw [typeWarnings, List.filter_eq_self]
  intro w hw
  simpa using reason_of_warning? (Option.mem_toList.mp hw)

/-- The warnings about the type of a declared parameter are those of its slot. -/
theorem typeWarnings_declared (preference : TypesPreference) (documented : List Parameter)
    (fact : ParamFact) : typeWarnings (declared preference documented fact).2 =
      ((paramSlot? documented fact).bind (TypeSlot.warning? preference)).toList := by
  unfold declared paramSlot?
  cases documented.find? fun p => p.name = fact.name with
  | none => exact typeWarnings_eq_nil (by simp [added, typeReasons])
  | some p =>
    unfold matched
    cases fact.hint with
    | none => rfl
    | some hint =>
      simp only [Option.bind_some, Option.map_some, reconcile_snd, typeWarnings_warning?]

theorem typeWarnings_flatMap_declared (preference : TypesPreference)
    (documented : List Parameter) (facts : List ParamFact) :
    typeWarnings (facts.flatMap fun fact => (declared preference documented fact).2) =
      (facts.filterMap (paramSlot? documented)).filterMap (TypeSlot.warning? preference) := by
  induction facts with
  | nil => rfl
  | cons fact facts ih =>
    rw [List.flatMap_cons, typeWarnings_append, ih, typeWarnings_declared]
    cases hslot : paramSlot? documented fact with
    | none => simp [hslot]
    | some slot => cases hwarning : slot.warning? preference <;> simp [hslot, hwarning]

/-- The warnings about the type of a value are those of its slot. -/
theorem fillReturnType_snd (preference : TypesPreference) (d : Document) (symbol : SymbolFact) :
    (fillReturnType preference (routeReturns d symbol).1 symbol).2 =
      ((valueSlot? d symbol).bind (TypeSlot.warning? preference)).toList := by
  have hfill : ∀ (doc : Option ReturnDoc) (hint : Text) (what : String),
      (fillType preference doc hint what).2 =
        ((doc.map fun doc => (⟨doc.type, hint, what⟩ : TypeSlot)).bind
          (TypeSlot.warning? preference)).toList := by
    intro doc hint what
    cases doc with
    | none => rfl
    | some doc => simp [fillType, reconcile_snd]
  unfold fillReturnType valueSlot?
  rw [routeReturns_fst]
  cases symbol.returnHint with
  | none => rfl
  | some hint =>
    simp only [Option.bind_some]
    split
    · rfl
    · split
      · exact hfill _ _ _
      · exact hfill _ _ _

/-- The warnings about types are those of the slots, in their order. -/
theorem typeWarnings_enrich {d : Document} {symbol : SymbolFact} (preference : TypesPreference)
    (hc : symbol.kind.isCallable = true) (hdocumented : (d.parameters.map Parameter.name).Nodup)
    (hdeclared : (symbol.documentedParams.map ParamFact.name).Nodup) :
    typeWarnings (enrich d symbol preference).warnings =
      (typeSlots d symbol).filterMap (TypeSlot.warning? preference) := by
  have hstale : ∀ params : List Parameter, typeWarnings (params.map stale) = [] := fun params =>
    typeWarnings_eq_nil (by simp [stale, typeReasons])
  have hroute : ∀ d : Document, typeWarnings (routeReturns d symbol).2 = [] := fun d =>
    typeWarnings_eq_nil fun w hw => by
      have hreason := routeReturns_reason hw
      revert hreason
      cases w.reason <;> decide
  have hfilled : typeWarnings ((valueSlot? d symbol).bind (TypeSlot.warning? preference)).toList =
      (valueSlot? d symbol).toList.filterMap (TypeSlot.warning? preference) := by
    cases valueSlot? d symbol with
    | none => rfl
    | some slot =>
      rw [Option.bind_some, typeWarnings_warning?]
      cases hwarning : slot.warning? preference <;> simp [hwarning]
  rw [enrich_warnings d symbol preference hc, reorder_eq preference hdocumented hdeclared]
  unfold routedDocument
  rw [fillReturnType_snd]
  simp only [typeWarnings_append, hstale, hroute, typeWarnings_flatMap_declared, List.append_nil,
    typeSlots, List.filterMap_append]
  rw [← hfilled]
  rfl

/-! ## Types -/

/-- The type of a declared parameter: what is documented of it meets its annotation. -/
theorem declared_type (preference : TypesPreference) (documented : List Parameter)
    (fact : ParamFact) : (declared preference documented fact).1.type =
      matchedType preference fact
        ((documented.find? fun p => p.name = fact.name).bind Parameter.type) := by
  unfold declared
  cases documented.find? fun p => p.name = fact.name with
  | some p => simp [matched_fst]
  | none => cases hh : fact.hint <;> simp [added, matchedType, reconciled, hh]

theorem matchedType_reportOnly (fact : ParamFact) (type : Option Text) :
    matchedType .reportOnly fact type = type := by
  unfold matchedType reconciled
  cases fact.hint with
  | none => rfl
  | some hint => cases type <;> simp

theorem matchedType_preferDocstring (fact : ParamFact) (type : Option Text) :
    matchedType .preferDocstring fact type = type.or fact.hint := by
  unfold matchedType reconciled
  cases fact.hint with
  | none => simp
  | some hint => cases type <;> simp

theorem exists_same_matchedType {fact : ParamFact} {hint : Text} (h : hint ∈ fact.hint)
    (type : Option Text) :
    ∃ t ∈ matchedType .preferAnnotations fact type, Hint.same t hint = true := by
  unfold matchedType reconciled
  rw [Option.mem_def.mp h]
  cases type with
  | none => exact ⟨hint, by simp, same_self hint⟩
  | some t =>
    by_cases hs : Hint.same t hint = true
    · exact ⟨t, by simp [hs], hs⟩
    · exact ⟨hint, by simp [hs], same_self hint⟩

/-- Where only reports are wanted, a value keeps its type. -/
theorem filled_reportOnly (hint : Text) (doc : Option ReturnDoc) :
    filled .reportOnly hint doc = doc := by
  cases doc with
  | none => rfl
  | some doc =>
    have hsame : reconciled .reportOnly doc.type hint = doc.type := by
      unfold reconciled
      cases doc.type <;> simp
    rw [filled, Option.map_some, hsame]

theorem valuesAfter_reportOnly (symbol : SymbolFact) (returns yields : Option ReturnDoc) :
    valuesAfter .reportOnly symbol returns yields = routed symbol returns yields := by
  unfold valuesAfter
  cases symbol.returnHint with
  | none => rfl
  | some hint => simp only [filled_reportOnly, ite_self]

/-- Routing makes no type up. -/
theorem exists_type_of_routed {symbol : SymbolFact} {returns yields : Option ReturnDoc}
    {doc : ReturnDoc} {type : Text}
    (h : doc ∈ (routed symbol returns yields).1.toList ++ (routed symbol returns yields).2.toList)
    (htype : type ∈ doc.type) :
    ∃ old ∈ returns.toList ++ yields.toList, type ∈ old.type := by
  unfold routed at h
  cases returns with
  | none => exact ⟨doc, by simpa using h, htype⟩
  | some old =>
    by_cases hmoved : (symbol.isGenerator && !old.isBlank) = true
    · simp only [hmoved, if_true, Option.toList_none, List.nil_append, Option.toList_some,
        List.mem_singleton] at h
      subst h
      rcases Option.or_eq_some_iff.mp (Option.mem_def.mp htype) with hyields | ⟨-, hreturns⟩
      · cases yields with
        | none => simp at hyields
        | some doc => exact ⟨doc, by simp, hyields⟩
      · exact ⟨old, by simp, hreturns⟩
    · simp only [hmoved, Bool.false_eq_true, if_false] at h
      exact ⟨doc, h, htype⟩

end Enriched

/-! ## Documents -/

/-- What enrichment does to the types of a document under each preference, and the warnings that it
gives about them. -/
structure FollowsPolicy (preference : TypesPreference) (d : Document) (symbol : SymbolFact)
    (e : Enriched) : Prop where
  distinct : (e.document.parameters.map Parameter.name).Nodup
  /-- Where only reports are wanted, no type is written. -/
  untouched : preference = .reportOnly → ∀ q ∈ e.document.parameters,
    q.type = (d.parameter? q.name).bind Parameter.type
  unmoved : preference = .reportOnly → ∀ doc ∈ e.document.values, ∀ type ∈ doc.type,
    ∃ old ∈ d.values, type ∈ old.type
  /-- What is documented is kept where it goes first, and only gaps are filled. -/
  kept : preference = .preferDocstring → ∀ p ∈ d.parameters, p.type.isSome = true →
    ∃ q ∈ e.document.parameters, q.name = p.name ∧ q.type = p.type
  filled : preference = .preferDocstring → ∀ fact ∈ symbol.documentedParams,
    ∀ hint ∈ fact.hint, (d.parameter? fact.name).bind Parameter.type = none →
      ∃ q ∈ e.document.parameters, q.name = fact.name ∧ q.type = some hint
  /-- Every annotated parameter agrees with its annotation where that goes first. -/
  agreed : preference = .preferAnnotations → ∀ fact ∈ symbol.documentedParams,
    ∀ hint ∈ fact.hint, ∃ q ∈ e.document.parameters, q.name = fact.name ∧
      ∃ type ∈ q.type, Hint.same type hint = true
  reported : Enriched.typeWarnings e.warnings =
    (Enriched.typeSlots d symbol).filterMap (Enriched.TypeSlot.warning? preference)

/-- Enrichment writes and reports types as the preference says. -/
theorem enrichment_follows_the_policy (d : Document) (symbol : SymbolFact)
    (preference : TypesPreference) (hc : symbol.kind.isCallable = true)
    (hdocumented : (d.parameters.map Parameter.name).Nodup)
    (hdeclared : (symbol.documentedParams.map ParamFact.name).Nodup) :
    FollowsPolicy preference d symbol (enrich d symbol preference) := by
  have hcontent := content_enrich d preference hc
  have hparams : (enrich d symbol preference).document.parameters =
      Enriched.joined preference d.parameters symbol.documentedParams :=
    (congrArg Document.parameters hcontent).trans
      (congrArg Prod.fst (Enriched.reorder_eq preference hdocumented hdeclared))
  have hvalues : (enrich d symbol preference).document.values =
      (Enriched.valuesAfter preference symbol d.returns d.yields).1.toList ++
        (Enriched.valuesAfter preference symbol d.returns d.yields).2.toList :=
    congrArg Document.values hcontent
  have hentry : ∀ fact ∈ symbol.documentedParams,
      ∃ q ∈ (enrich d symbol preference).document.parameters, q.name = fact.name ∧
        q.type = Enriched.matchedType preference fact
          ((d.parameter? fact.name).bind Parameter.type) := fun fact hf =>
    ⟨_, hparams ▸ Enriched.declared_mem_joined hf, Enriched.declared_name _ _ _,
      Enriched.declared_type _ _ _⟩
  refine
    { distinct := hparams ▸ Enriched.nodup_joined hdocumented hdeclared
      untouched := ?_
      unmoved := ?_
      kept := ?_
      filled := ?_
      agreed := ?_
      reported := Enriched.typeWarnings_enrich preference hc hdocumented hdeclared }
  · rintro rfl q hq
    rcases List.mem_append.mp (hparams ▸ hq) with hq | hq
    · obtain ⟨fact, _, rfl⟩ := List.mem_map.mp hq
      rw [Enriched.declared_type, Enriched.matchedType_reportOnly, Enriched.declared_name]
      rfl
    · rw [Document.parameter?,
        Enriched.find?_of_nodup hdocumented (Enriched.mem_undeclared.mp hq).1]
      rfl
  · rintro rfl doc hdoc type htype
    rw [hvalues, Enriched.valuesAfter_reportOnly] at hdoc
    exact Enriched.exists_type_of_routed hdoc htype
  · rintro rfl p hp htype
    by_cases hmem : p.name ∈ symbol.documentedParams.map ParamFact.name
    · obtain ⟨fact, hf, hname⟩ := List.mem_map.mp hmem
      obtain ⟨q, hq, hqname, hqtype⟩ := hentry fact hf
      refine ⟨q, hq, hqname.trans hname, ?_⟩
      rw [hqtype, hname, Document.parameter?, Enriched.find?_of_nodup hdocumented hp,
        Enriched.matchedType_preferDocstring, Option.bind_some]
      obtain ⟨type, htype⟩ := Option.isSome_iff_exists.mp htype
      simp [htype]
    · have hq := Enriched.mem_undeclared.mpr ⟨hp, hmem⟩
      exact ⟨p, hparams ▸ List.mem_append_right _ hq, rfl, rfl⟩
  · rintro rfl fact hf hint hh hnone
    obtain ⟨q, hq, hqname, hqtype⟩ := hentry fact hf
    refine ⟨q, hq, hqname, ?_⟩
    rw [hqtype, hnone, Enriched.matchedType_preferDocstring, Option.none_or, Option.mem_def.mp hh]
  · rintro rfl fact hf hint hh
    obtain ⟨q, hq, hqname, hqtype⟩ := hentry fact hf
    exact ⟨q, hq, hqname, hqtype ▸ Enriched.exists_same_matchedType hh _⟩

/-- Where only reports are wanted of the specimen, no type is written: those of `xs` and of the
yielded value are only said to differ. -/
theorem types_of_a_generator_are_reported :
    FollowsPolicy .reportOnly .specimen .specimen (enrich .specimen .specimen .reportOnly) ∧
      (enrich .specimen .specimen .reportOnly).document.parameters.map Parameter.type =
        [none, some "dict[str, int]".toList, none, none, some "int".toList] ∧
      (Enriched.typeWarnings (enrich .specimen .specimen .reportOnly).warnings).map
        Diagnostic.reason = [.typeMismatch, .typeMismatch] := by
  refine ⟨enrichment_follows_the_policy _ _ _ rfl (by decide) (by decide), by decide, ?_⟩
  decide

end Docstring
