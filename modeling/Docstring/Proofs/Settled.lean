-- A signature that a document has met has nothing more to say to it: the second run changes nothing
-- but the list of warnings, and repeats only what the first one could not settle.
import Docstring.Proofs.Reordering

namespace Docstring

namespace Enriched

/-! ## Types -/

/-- The reasons to warn about a departure from the signature that enrichment leaves as it is. -/
def lastingReasons : List Reason :=
  [.typeMissing, .typeMismatch, .paramNotInSignature, .yieldsOnNonGenerator]

variable {preference : TypesPreference} {w : Diagnostic}

/-- A type that met its annotation is not replaced. -/
theorem reconcile_reason_of_settled {documented : Option Text} {hint : Text} {what : String}
    (h : reconciled preference documented hint = documented)
    (hw : w ∈ (reconcile preference documented hint what).2) : w.reason ∈ lastingReasons := by
  cases documented with
  | none =>
    by_cases hp : preference = .reportOnly
    · simp only [reconcile, hp, if_true, Option.mem_some_iff] at hw
      rw [← hw]
      simp [lastingReasons]
    · simp [reconcile, hp] at hw
  | some type =>
    by_cases hs : Hint.same type hint = true
    · simp [reconcile, hs] at hw
    · by_cases hp : preference = .preferAnnotations
      · simp only [reconciled, hs, hp, if_true, Bool.false_eq_true, if_false,
          Option.some.injEq] at h
        rw [h] at hs
        exact absurd (same_self type) hs
      · simp only [reconcile, hs, hp, Bool.false_eq_true, if_false, Option.mem_some_iff] at hw
        rw [← hw]
        simp [lastingReasons]

/-! ## Parameters -/

theorem matched_fst_of_settled {fact : ParamFact} {p : Parameter} (h : Settled preference fact p) :
    (matched preference fact p).1 = p := by
  rw [matched_fst, matchedType_of_settled h, h.default, ← h.kind]

theorem matched_reason_of_settled {fact : ParamFact} {p : Parameter}
    (h : Settled preference fact p) (hw : w ∈ (matched preference fact p).2) :
    w.reason ∈ lastingReasons := by
  unfold matched at hw
  cases hh : fact.hint with
  | none => simp [hh] at hw
  | some hint =>
    simp only [hh, Option.mem_toList] at hw
    exact reconcile_reason_of_settled (h.type hint hh) hw

/-- Settled entries stay in their places, and none is missing. -/
theorem reorder_of_settled {facts : List ParamFact} {entries : List Parameter}
    (others : List Parameter) (h : List.Forall₂ (Settled preference) facts entries) :
    (reorder preference (entries ++ others) facts).1 = entries ++ others ∧
      ∀ w ∈ (reorder preference (entries ++ others) facts).2, w.reason ∈ lastingReasons := by
  induction h with
  | nil =>
    refine ⟨rfl, fun w hw => ?_⟩
    obtain ⟨p, _, rfl⟩ := List.mem_map.mp hw
    simp [stale, lastingReasons]
  | @cons fact p facts entries hsettled _ ih =>
    have hfound : takeNamed? fact.name (p :: (entries ++ others)) = some (p, entries ++ others) := by
      simp [takeNamed?, hsettled.name]
    rw [List.cons_append]
    simp only [reorder, hfound, matched_fst_of_settled hsettled, ih.1, true_and]
    intro w hw
    rcases List.mem_append.mp hw with hw | hw
    · exact matched_reason_of_settled hsettled hw
    · exact ih.2 w hw

/-! ## Values -/

/-- What is returned and yielded has met the signature. -/
def ValuesSettled (preference : TypesPreference) (symbol : SymbolFact)
    (returns yields : Option ReturnDoc) : Prop :=
  valuesAfter preference symbol returns yields = (returns, yields)

theorem valuesSettled_valuesAfter (preference : TypesPreference) (symbol : SymbolFact)
    (returns yields : Option ReturnDoc) :
    let after := valuesAfter preference symbol returns yields
    ValuesSettled preference symbol after.1 after.2 := by
  have hid : KeepsValue id := ⟨fun _ => rfl, fun _ => rfl, fun _ => rfl⟩
  simpa [ValuesSettled] using valuesAfter_map preference symbol returns yields hid hid

variable {symbol : SymbolFact} {returns yields : Option ReturnDoc}

theorem valuesAfter_fst_of_generator (preference : TypesPreference)
    (returns yields : Option ReturnDoc) (h : symbol.isGenerator = true) :
    (valuesAfter preference symbol returns yields).1 = (routed symbol returns yields).1 := by
  unfold valuesAfter
  cases symbol.returnHint with
  | none => rfl
  | some hint =>
    by_cases hno : Hint.isNoValue hint = true
    · simp only [hno, if_true]
    · simp only [hno, h, if_true, Bool.false_eq_true, if_false]

/-- A generator is left with no return to route. -/
theorem ValuesSettled.blank (h : ValuesSettled preference symbol returns yields)
    (hgen : symbol.isGenerator = true) : ∀ doc ∈ returns, doc.isBlank = true := by
  have hfirst : (routed symbol returns yields).1 = returns := by
    rw [← valuesAfter_fst_of_generator preference returns yields hgen]
    exact congrArg Prod.fst h
  have hblank : ∀ doc ∈ (Enriched.routed symbol returns yields).1, doc.isBlank = true :=
    blank_of_mem_routed hgen
  rwa [hfirst] at hblank

theorem ValuesSettled.routed (h : ValuesSettled preference symbol returns yields) :
    routed symbol returns yields = (returns, yields) :=
  routed_of_blank yields h.blank

/-- The value that the return annotation is about has met it. -/
theorem ValuesSettled.filled (h : ValuesSettled preference symbol returns yields) {hint : Text}
    (hhint : symbol.returnHint = some hint) (hno : Hint.isNoValue hint = false) :
    if symbol.isGenerator then filled preference (Hint.yieldType hint) yields = yields
    else filled preference hint returns = returns := by
  have hsettled := h
  simp only [ValuesSettled, valuesAfter, h.routed, hhint, hno, Bool.false_eq_true, if_false]
    at hsettled
  split
  · rename_i hgen
    simpa [hgen] using hsettled
  · rename_i hgen
    simpa [hgen] using hsettled

theorem fillType_reason_of_settled {doc : Option ReturnDoc} {hint : Text} {what : String}
    (h : filled preference hint doc = doc) (hw : w ∈ (fillType preference doc hint what).2) :
    w.reason ∈ lastingReasons := by
  cases doc with
  | none => simp [fillType] at hw
  | some doc =>
    have htype : reconciled preference doc.type hint = doc.type :=
      congrArg ReturnDoc.type (Option.some.inj h)
    exact reconcile_reason_of_settled htype (Option.mem_toList.mp hw)

theorem fillReturnType_reason_of_settled {d : Document}
    (h : ValuesSettled preference symbol d.returns d.yields)
    (hw : w ∈ (fillReturnType preference d symbol).2) : w.reason ∈ lastingReasons := by
  unfold fillReturnType at hw
  cases hhint : symbol.returnHint with
  | none => simp [hhint] at hw
  | some hint =>
    cases hno : Hint.isNoValue hint with
    | true => simp [hhint, hno] at hw
    | false =>
      have hfilled := h.filled hhint hno
      cases hgen : symbol.isGenerator with
      | true =>
        simp only [hhint, hno, hgen, Bool.false_eq_true, if_true, if_false] at hw hfilled
        exact fillType_reason_of_settled hfilled hw
      | false =>
        simp only [hhint, hno, hgen, Bool.false_eq_true, if_false] at hw hfilled
        exact fillType_reason_of_settled hfilled hw

theorem routeReturns_reason_of_settled {d : Document}
    (h : ValuesSettled preference symbol d.returns d.yields)
    (hw : w ∈ (routeReturns d symbol).2) : w.reason ∈ lastingReasons := by
  unfold routeReturns at hw
  cases hgen : symbol.isGenerator with
  | true =>
    cases hdoc : d.returns with
    | none => simp [hgen, hdoc] at hw
    | some doc =>
      have hblank := h.blank hgen doc hdoc
      simp [hgen, hdoc, hblank] at hw
  | false =>
    simp only [hgen, Bool.false_eq_true, if_false] at hw
    split at hw
    · rw [List.mem_singleton.mp hw]
      simp [lastingReasons]
    · simp at hw

end Enriched

/-! ## Documents -/

/-- A document that a signature has nothing to add to. -/
structure Document.Meets (d : Document) (symbol : SymbolFact) (preference : TypesPreference) :
    Prop where
  parameters : ∃ entries others, d.parameters = entries ++ others ∧
    List.Forall₂ (Enriched.Settled preference) symbol.documentedParams entries
  values : Enriched.ValuesSettled preference symbol d.returns d.yields

/-- Whatever it said before, a document meets the signature that it was enriched with. -/
theorem meets_enrich {symbol : SymbolFact} (d : Document) (preference : TypesPreference)
    (h : symbol.kind.isCallable = true) :
    (enrich d symbol preference).document.Meets symbol preference := by
  have hcontent := content_enrich d preference h
  obtain ⟨entries, others, hparams, hsettled⟩ :=
    Enriched.reorder_settled preference d.parameters symbol.documentedParams
  have hreturns : (enrich d symbol preference).document.returns =
      (Enriched.valuesAfter preference symbol d.returns d.yields).1 :=
    congrArg Document.returns hcontent
  have hyields : (enrich d symbol preference).document.yields =
      (Enriched.valuesAfter preference symbol d.returns d.yields).2 :=
    congrArg Document.yields hcontent
  refine ⟨⟨entries, others, (congrArg Document.parameters hcontent).trans hparams, hsettled⟩, ?_⟩
  rw [hreturns, hyields]
  exact Enriched.valuesSettled_valuesAfter preference symbol d.returns d.yields

section Meets

variable {d : Document} {symbol : SymbolFact} {preference : TypesPreference}

theorem Document.Meets.content_enrich (h : d.Meets symbol preference)
    (hc : symbol.kind.isCallable = true) :
    (enrich d symbol preference).document.content = d.content := by
  obtain ⟨⟨entries, others, hparams, hsettled⟩, hvalues⟩ := h
  have hkept := (Enriched.reorder_of_settled others hsettled).1
  rw [← hparams] at hkept
  rw [Docstring.content_enrich d preference hc, hkept, hvalues]
  rfl

/-- All that is left to say of such a document is what enrichment never changes. -/
theorem Document.Meets.reason (h : d.Meets symbol preference)
    (hc : symbol.kind.isCallable = true) :
    ∀ w ∈ (enrich d symbol preference).warnings, w.reason ∈ Enriched.lastingReasons := by
  obtain ⟨⟨entries, others, hparams, hsettled⟩, hvalues⟩ := h
  have hrouted : (Enriched.routedDocument d symbol preference).1.returns = d.returns ∧
      (Enriched.routedDocument d symbol preference).1.yields = d.yields := by
    simp [Enriched.routedDocument, Enriched.routeReturns_fst, hvalues.routed]
  intro w hw
  rw [Enriched.enrich_warnings d symbol preference hc] at hw
  rcases List.mem_append.mp hw with hw | hw
  · rcases List.mem_append.mp hw with hw | hw
    · rw [hparams] at hw
      exact (Enriched.reorder_of_settled others hsettled).2 w hw
    · let ordered := (Enriched.reorder preference d.parameters symbol.documentedParams).1
      exact Enriched.routeReturns_reason_of_settled (d := { d with parameters := ordered })
        hvalues hw
  · refine Enriched.fillReturnType_reason_of_settled ?_ hw
    rwa [hrouted.1, hrouted.2]

end Meets

/-- Enriching a document a second time adds nothing but warnings, and none that a parameter was
missing, a type replaced or a return moved. -/
theorem a_second_enrichment_changes_only_the_warnings (d : Document) (symbol : SymbolFact)
    (preference : TypesPreference) :
    let once := (enrich d symbol preference).document
    let twice := enrich once symbol preference
    { twice.document with
      metadata := { twice.document.metadata with warnings := once.metadata.warnings } } = once ∧
    ∀ w ∈ twice.warnings,
      w.reason ∉ [Reason.paramUndocumented, .typeReplaced, .returnsMovedToYields] := by
  intro once twice
  cases hc : symbol.kind.isCallable with
  | false =>
    have hsame : twice = ⟨once, []⟩ := by simp [twice, enrich, hc]
    rw [hsame]
    exact ⟨rfl, by simp⟩
  | true =>
    have hmeets : once.Meets symbol preference := meets_enrich d preference hc
    have hcontent : twice.document.content = once.content := hmeets.content_enrich hc
    have hmetadata : twice.document.metadata =
        { once.metadata with warnings := once.metadata.warnings ++ twice.warnings } :=
      Enriched.enrich_metadata once symbol preference hc
    constructor
    · rw [hmetadata]
      exact congrArg (fun e : Document => { e with metadata := once.metadata }) hcontent
    · intro w hw
      have hlasting := hmeets.reason hc w hw
      intro hgone
      revert hlasting hgone
      generalize w.reason = reason
      cases reason <;> decide

/-- Of five warnings one stays: `more` is still not declared. -/
theorem a_second_enrichment_of_a_generator_repeats_one_warning :
    let once := (enrich .specimen .specimen .preferAnnotations).document
    let twice := enrich once .specimen .preferAnnotations
    { twice.document with
      metadata := { twice.document.metadata with warnings := once.metadata.warnings } } = once ∧
      (∀ w ∈ twice.warnings,
        w.reason ∉ [Reason.paramUndocumented, .typeReplaced, .returnsMovedToYields]) ∧
      twice.warnings.map Diagnostic.reason = [.paramNotInSignature] :=
  have h := a_second_enrichment_changes_only_the_warnings .specimen .specimen .preferAnnotations
  ⟨h.1, h.2, by decide⟩

end Docstring
