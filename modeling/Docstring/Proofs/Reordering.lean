-- What enrichment does to a document with a signature: its parameters are joined with the declared
-- ones by name, and nothing that it says is lost, doubled or made up.
import Docstring.Proofs.Enrichment
import Docstring.Proofs.Text.Words
import Mathlib.Data.List.Nodup

namespace Docstring

open Text

namespace Enriched

/-! ## The join of two lists by name -/

/-- The entry of a declared parameter: the documented one of its name, if there is one. -/
def declared (preference : TypesPreference) (documented : List Parameter) (fact : ParamFact) :
    Parameter × List Diagnostic :=
  match documented.find? fun p => p.name = fact.name with
  | some p => matched preference fact p
  | none => added preference fact

/-- The documented parameters that are not declared, in their order. -/
def undeclared (documented : List Parameter) (facts : List ParamFact) : List Parameter :=
  documented.filter fun p => facts.all fun fact => p.name ≠ fact.name

/-- The declared parameters that are not documented, in their order. -/
def undocumented (documented : List Parameter) (facts : List ParamFact) : List ParamFact :=
  facts.filter fun fact => documented.all fun p => p.name ≠ fact.name

/-- The entries of the declared parameters, and then what is documented without being declared. -/
def joined (preference : TypesPreference) (documented : List Parameter) (facts : List ParamFact) :
    List Parameter :=
  facts.map (fun fact => (declared preference documented fact).1) ++ undeclared documented facts

/-- The warning about a declared parameter that is not documented. -/
def missing (fact : ParamFact) : Diagnostic :=
  ⟨.paramUndocumented, "parameter '" ++ fact.name.asString ++ "' is not documented"⟩

theorem takeNamed?_eq (name : Text) (params : List Parameter) :
    takeNamed? name params =
      (params.find? fun p => p.name = name).map fun p =>
        (p, params.eraseP fun p => p.name = name) := by
  induction params with
  | nil => rfl
  | cons p params ih =>
    by_cases hname : p.name = name
    · simp [takeNamed?, hname]
    · cases hfound : params.find? fun p => p.name = name <;>
        simp [takeNamed?, hname, ih, hfound]

/-- Where names differ, no other parameter goes with the one that is taken. -/
theorem eraseP_eq_filter {params : List Parameter} (name : Text)
    (h : (params.map Parameter.name).Nodup) :
    (params.eraseP fun p => p.name = name) = params.filter fun p => p.name ≠ name := by
  induction params with
  | nil => rfl
  | cons p params ih =>
    rw [List.map_cons, List.nodup_cons] at h
    by_cases hname : p.name = name
    · have hrest : ∀ q ∈ params, q.name ≠ name := fun q hq hsame =>
        h.1 (hname ▸ hsame ▸ List.mem_map_of_mem hq)
      have hkept : (params.filter fun q => decide (q.name ≠ name)) = params := by
        rw [List.filter_eq_self]
        exact fun q hq => by simp [hrest q hq]
      rw [List.filter_cons_of_neg (by simp [hname]), hkept]
      simp [hname]
    · rw [List.filter_cons_of_pos (by simp [hname]), ← ih h.2]
      simp [hname]

/-- One step of the reordering: the entry of a declared parameter, and the documented ones of
other names. -/
theorem reorder_cons {preference : TypesPreference} {documented : List Parameter}
    (fact : ParamFact) (facts : List ParamFact) (h : (documented.map Parameter.name).Nodup) :
    let rest := reorder preference (documented.filter fun p => p.name ≠ fact.name) facts
    reorder preference documented (fact :: facts) =
      ((declared preference documented fact).1 :: rest.1,
        (declared preference documented fact).2 ++ rest.2) := by
  have hothers := eraseP_eq_filter fact.name h
  have htaken := takeNamed?_eq fact.name documented
  cases hfound : documented.find? fun p => p.name = fact.name with
  | some p =>
    rw [hfound, Option.map_some, hothers] at htaken
    simp only [reorder, declared, hfound, htaken]
  | none =>
    have hkept : (documented.filter fun p => decide (p.name ≠ fact.name)) = documented := by
      rw [List.filter_eq_self]
      intro p hp
      simpa using List.find?_eq_none.mp hfound p hp
    rw [hfound, Option.map_none] at htaken
    simp only [reorder, declared, hfound, htaken, hkept]

theorem declared_filter {name : Text} {fact : ParamFact} (preference : TypesPreference)
    (documented : List Parameter) (h : fact.name ≠ name) :
    declared preference (documented.filter fun p => p.name ≠ name) fact =
      declared preference documented fact := by
  have hfind : (documented.filter fun p => decide (p.name ≠ name)).find?
      (fun p => p.name = fact.name) = documented.find? fun p => p.name = fact.name := by
    rw [List.find?_filter]
    congr 1
    funext p
    by_cases hp : p.name = fact.name <;> simp [hp, h]
  simp only [declared, hfind]

/-- The reordering is a join. -/
theorem reorder_eq (preference : TypesPreference) {documented : List Parameter}
    {facts : List ParamFact} (hdocumented : (documented.map Parameter.name).Nodup)
    (hfacts : (facts.map ParamFact.name).Nodup) :
    reorder preference documented facts =
      (joined preference documented facts,
        facts.flatMap (fun fact => (declared preference documented fact).2) ++
          (undeclared documented facts).map stale) := by
  induction facts generalizing documented with
  | nil => simp [reorder, joined, undeclared]
  | cons fact facts ih =>
    rw [List.map_cons, List.nodup_cons] at hfacts
    have hother : ∀ f ∈ facts, f.name ≠ fact.name := fun f hf hsame =>
      hfacts.1 (hsame ▸ List.mem_map_of_mem hf)
    have hsub : ((documented.filter fun p => p.name ≠ fact.name).map Parameter.name).Nodup :=
      hdocumented.sublist (List.filter_sublist.map _)
    have hentries : ∀ f ∈ facts,
        declared preference (documented.filter fun p => p.name ≠ fact.name) f =
          declared preference documented f :=
      fun f hf => declared_filter preference documented (hother f hf)
    have hrest : undeclared (documented.filter fun p => p.name ≠ fact.name) facts =
        undeclared documented (fact :: facts) := by
      simp only [undeclared, List.filter_filter, List.all_cons]
      congr 1
      funext p
      rw [Bool.and_comm]
    have hparams := List.map_congr_left fun f hf => congrArg Prod.fst (hentries f hf)
    have hwarnings : facts.flatMap (fun f =>
        (declared preference (documented.filter fun p => p.name ≠ fact.name) f).2) =
          facts.flatMap fun f => (declared preference documented f).2 :=
      List.flatMap_congr fun f hf => congrArg Prod.snd (hentries f hf)
    rw [reorder_cons fact facts hdocumented, ih hsub hfacts.2, joined, hrest, hparams, hwarnings]
    simp [joined]

/-! ## The entry of a declared parameter -/

section Entry

variable (preference : TypesPreference) (documented : List Parameter) (fact : ParamFact)

@[simp] theorem declared_name : (declared preference documented fact).1.name = fact.name := by
  unfold declared
  cases hfound : documented.find? fun p => p.name = fact.name with
  | none => rfl
  | some p => simpa [matched_fst] using List.find?_some hfound

@[simp] theorem declared_kind : (declared preference documented fact).1.kind = fact.kind := by
  unfold declared
  cases documented.find? fun p => p.name = fact.name with
  | none => rfl
  | some p => simp [matched_fst]

/-- An entry says what the documented parameter of its name says, and nothing if there is none. -/
@[simp] theorem declared_description :
    (declared preference documented fact).1.description =
      (documented.find? fun p => p.name = fact.name).bind Parameter.description := by
  unfold declared
  cases documented.find? fun p => p.name = fact.name with
  | none => rfl
  | some p => simp [matched_fst]

end Entry

theorem find?_of_nodup {documented : List Parameter} {p : Parameter}
    (h : (documented.map Parameter.name).Nodup) (hp : p ∈ documented) :
    (documented.find? fun q => q.name = p.name) = some p := by
  cases hfound : documented.find? fun q => q.name = p.name with
  | none => simpa using List.find?_eq_none.mp hfound p hp
  | some q =>
    have hname : q.name = p.name := by simpa using List.find?_some hfound
    rw [List.inj_on_of_nodup_map h (List.mem_of_find?_eq_some hfound) hp hname]

/-! ## The entries of the join -/

theorem mem_undeclared {documented : List Parameter} {facts : List ParamFact} {p : Parameter} :
    p ∈ undeclared documented facts ↔ p ∈ documented ∧ p.name ∉ facts.map ParamFact.name := by
  simp only [undeclared, List.mem_filter, List.all_eq_true, decide_eq_true_eq, List.mem_map,
    not_exists, not_and]
  exact and_congr_right fun _ => forall₂_congr fun _ _ => ne_comm

section Joined

variable {preference : TypesPreference} {documented : List Parameter} {facts : List ParamFact}

theorem joined_names : (joined preference documented facts).map Parameter.name =
    facts.map ParamFact.name ++ (undeclared documented facts).map Parameter.name := by
  rw [joined, List.map_append, List.map_map]
  congr 1
  exact List.map_congr_left fun fact _ => declared_name preference documented fact

theorem nodup_joined (hdocumented : (documented.map Parameter.name).Nodup)
    (hfacts : (facts.map ParamFact.name).Nodup) :
    ((joined preference documented facts).map Parameter.name).Nodup := by
  rw [joined_names, List.nodup_append]
  refine ⟨hfacts, hdocumented.sublist (List.filter_sublist.map _), ?_⟩
  intro name hname other hother hsame
  obtain ⟨p, hp, rfl⟩ := List.mem_map.mp hother
  exact (mem_undeclared.mp hp).2 (hsame ▸ hname)

theorem declared_mem_joined {fact : ParamFact} (hf : fact ∈ facts) :
    (declared preference documented fact).1 ∈ joined preference documented facts :=
  List.mem_append_left _ (List.mem_map_of_mem hf)

/-- What is documented keeps its description. -/
theorem exists_joined (hdocumented : (documented.map Parameter.name).Nodup) {p : Parameter}
    (hp : p ∈ documented) : ∃ q ∈ joined preference documented facts,
      q.name = p.name ∧ q.description = p.description := by
  by_cases hmem : p.name ∈ facts.map ParamFact.name
  · obtain ⟨fact, hf, hname⟩ := List.mem_map.mp hmem
    refine ⟨_, declared_mem_joined hf, by simp [hname], ?_⟩
    rw [declared_description, hname, find?_of_nodup hdocumented hp]
    rfl
  · exact ⟨p, List.mem_append_right _ (mem_undeclared.mpr ⟨hp, hmem⟩), rfl, rfl⟩

/-- What is not documented has no description. -/
theorem description_of_mem_joined {q : Parameter} (hq : q ∈ joined preference documented facts)
    (hnew : q.name ∉ documented.map Parameter.name) : q.description = none := by
  rcases List.mem_append.mp hq with hq | hq
  · obtain ⟨fact, _, rfl⟩ := List.mem_map.mp hq
    rw [declared_name] at hnew
    have hnone : (documented.find? fun p => p.name = fact.name) = none := by
      rw [List.find?_eq_none]
      intro p hp hsame
      exact hnew (List.mem_map.mpr ⟨p, hp, of_decide_eq_true hsame⟩)
    rw [declared_description, hnone]
    rfl
  · exact absurd (List.mem_map_of_mem (mem_undeclared.mp hq).1) hnew

end Joined

/-! ## Warnings -/

/-- The reasons to warn about a documented type. -/
def typeReasons : List Reason := [.typeMissing, .typeReplaced, .typeMismatch]

/-- The reasons to warn about what a generator returns or another function yields. -/
def routeReasons : List Reason := [.returnsMovedToYields, .yieldsOnNonGenerator]

theorem reconcile_reason {preference : TypesPreference} {documented : Option Text} {hint : Text}
    {what : String} {w : Diagnostic} (h : w ∈ (reconcile preference documented hint what).2) :
    w.reason ∈ typeReasons := by
  have hsaid : ∀ {reason : Reason} {message : String}, reason ∈ typeReasons →
      w ∈ some (⟨reason, message⟩ : Diagnostic) → w.reason ∈ typeReasons := by
    intro reason message hreason hw
    rwa [← Option.some.inj hw]
  unfold reconcile at h
  cases documented with
  | none =>
    by_cases hp : preference = .reportOnly
    · simp only [hp, if_true] at h
      exact hsaid (by decide) h
    · simp [hp] at h
  | some type =>
    by_cases hs : Hint.same type hint = true
    · simp [hs] at h
    · by_cases hp : preference = .preferAnnotations
      · simp only [hs, hp, if_true, Bool.false_eq_true, if_false] at h
        exact hsaid (by decide) h
      · simp only [hs, hp, Bool.false_eq_true, if_false] at h
        exact hsaid (by decide) h

theorem matched_reason {preference : TypesPreference} {fact : ParamFact} {p : Parameter}
    {w : Diagnostic} (h : w ∈ (matched preference fact p).2) : w.reason ∈ typeReasons := by
  unfold matched at h
  cases hh : fact.hint with
  | none => simp [hh] at h
  | some hint =>
    simp only [hh, Option.mem_toList] at h
    exact reconcile_reason h

theorem routeReturns_reason {d : Document} {symbol : SymbolFact} {w : Diagnostic}
    (h : w ∈ (routeReturns d symbol).2) : w.reason ∈ routeReasons := by
  unfold routeReturns at h
  split at h
  · split at h
    · split at h
      · simp at h
      · rw [List.mem_singleton.mp h]
        simp [routeReasons]
    · simp at h
  · split at h
    · rw [List.mem_singleton.mp h]
      simp [routeReasons]
    · simp at h

theorem fillReturnType_reason {preference : TypesPreference} {d : Document} {symbol : SymbolFact}
    {w : Diagnostic} (h : w ∈ (fillReturnType preference d symbol).2) :
    w.reason ∈ typeReasons := by
  have hfill : ∀ {doc : Option ReturnDoc} {hint : Text} {what : String},
      w ∈ (fillType preference doc hint what).2 → w.reason ∈ typeReasons := by
    intro doc hint what hw
    cases doc with
    | none => simp [fillType] at hw
    | some doc => exact reconcile_reason (Option.mem_toList.mp hw)
  unfold fillReturnType at h
  split at h
  · simp at h
  · split at h
    · simp at h
    · split at h
      · exact hfill h
      · exact hfill h

/-- The warnings that are given for one reason. -/
def warningsFor (reason : Reason) (warnings : List Diagnostic) : List Diagnostic :=
  warnings.filter fun w => w.reason = reason

theorem warningsFor_append (reason : Reason) (a b : List Diagnostic) :
    warningsFor reason (a ++ b) = warningsFor reason a ++ warningsFor reason b :=
  List.filter_append ..

theorem warningsFor_eq_nil {reason : Reason} {warnings : List Diagnostic} {others : List Reason}
    (h : ∀ w ∈ warnings, w.reason ∈ others) (hreason : reason ∉ others) :
    warningsFor reason warnings = [] := by
  rw [warningsFor, List.filter_eq_nil_iff]
  intro w hw hsame
  exact hreason (of_decide_eq_true hsame ▸ h w hw)

theorem warningsFor_stale (reason : Reason) (params : List Parameter) :
    warningsFor reason (params.map stale) =
      if reason = .paramNotInSignature then params.map stale else [] := by
  split
  · rename_i hreason
    rw [warningsFor, List.filter_eq_self]
    intro w hw
    obtain ⟨p, _, rfl⟩ := List.mem_map.mp hw
    simp [stale, hreason]
  · rename_i hreason
    have hother : reason ∉ [Reason.paramNotInSignature] := by simpa using hreason
    refine warningsFor_eq_nil ?_ hother
    intro w hw
    obtain ⟨p, _, rfl⟩ := List.mem_map.mp hw
    simp [stale]

/-- The one warning about a declared parameter that its entry can cause besides those about its
type. -/
theorem warningsFor_declared {reason : Reason} (preference : TypesPreference)
    (documented : List Parameter) (facts : List ParamFact) (hreason : reason ∉ typeReasons) :
    warningsFor reason (facts.flatMap fun fact => (declared preference documented fact).2) =
      if reason = .paramUndocumented then (undocumented documented facts).map missing
      else [] := by
  induction facts with
  | nil => simp [warningsFor, undocumented]
  | cons fact facts ih =>
    rw [List.flatMap_cons, warningsFor_append, ih]
    cases hfound : documented.find? fun p => p.name = fact.name with
    | some p =>
      have hname : p.name = fact.name := by simpa using List.find?_some hfound
      have hnone : warningsFor reason (declared preference documented fact).2 = [] := by
        simp only [declared, hfound]
        exact warningsFor_eq_nil (fun w => matched_reason) hreason
      have hrest : undocumented documented (fact :: facts) = undocumented documented facts :=
        List.filter_cons_of_neg (by simpa using ⟨p, List.mem_of_find?_eq_some hfound, hname⟩)
      rw [hnone, hrest, List.nil_append]
    | none =>
      have hone : (declared preference documented fact).2 = [missing fact] := by
        simp only [declared, hfound]
        rfl
      have hrest : undocumented documented (fact :: facts) =
          fact :: undocumented documented facts :=
        List.filter_cons_of_pos (by simpa using List.find?_eq_none.mp hfound)
      rw [hone, hrest]
      by_cases hr : reason = .paramUndocumented
      · simp [warningsFor, missing, hr]
      · simp [warningsFor, missing, hr, Ne.symm hr]

/-! ## What is returned and yielded -/

/-- The words of the description of a value. -/
def valueWords (doc : Option ReturnDoc) : List Text :=
  words ((doc.bind ReturnDoc.description).getD [])

theorem words_joinDescriptions (a b : Option Text) :
    words ((joinDescriptions a b).getD []) = words (a.getD []) ++ words (b.getD []) := by
  cases a with
  | none => cases b <;> simp [joinDescriptions, words]
  | some s =>
    cases b with
    | none => simp [joinDescriptions, words]
    | some t =>
      have hjoined := words_append_space (c := '\n') s t (by decide)
      cases s with
      | nil => simp [joinDescriptions, words]
      | cons c s =>
        cases t with
        | nil => simp [joinDescriptions, words]
        | cons x t => simpa [joinDescriptions] using hjoined

/-- Moving a return to the yields moves its words behind theirs. -/
theorem valueWords_routed (symbol : SymbolFact) (returns yields : Option ReturnDoc) :
    valueWords (routed symbol returns yields).2 ++ valueWords (routed symbol returns yields).1 =
      valueWords yields ++ valueWords returns := by
  cases returns with
  | none => rfl
  | some doc =>
    by_cases hmoved : (symbol.isGenerator && !doc.isBlank) = true
    · have hrouted : routed symbol (some doc) yields = (none, some (mergeYields yields doc)) :=
        if_pos hmoved
      have hold : (yields.getD {}).description = yields.bind ReturnDoc.description := by
        cases yields <;> rfl
      rw [hrouted]
      calc words ((mergeYields yields doc).description.getD []) ++ words []
          = words ((mergeYields yields doc).description.getD []) := List.append_nil _
        _ = words (((yields.getD {}).description).getD []) ++ words (doc.description.getD []) :=
            words_joinDescriptions _ _
        _ = valueWords yields ++ valueWords (some doc) := by rw [hold]; rfl
    · have hrouted : routed symbol (some doc) yields = (some doc, yields) := if_neg hmoved
      rw [hrouted]

theorem valueWords_filled (preference : TypesPreference) (hint : Text) (doc : Option ReturnDoc) :
    valueWords (filled preference hint doc) = valueWords doc := by
  cases doc <;> rfl

theorem valueWords_valuesAfter (preference : TypesPreference) (symbol : SymbolFact)
    (returns yields : Option ReturnDoc) :
    let after := valuesAfter preference symbol returns yields
    valueWords after.2 ++ valueWords after.1 = valueWords yields ++ valueWords returns := by
  have hrouted := valueWords_routed symbol returns yields
  unfold valuesAfter
  cases symbol.returnHint with
  | none => exact hrouted
  | some hint =>
    by_cases hno : Hint.isNoValue hint = true
    · simpa only [hno, if_true] using hrouted
    · cases hgen : symbol.isGenerator with
      | true => simpa [hno, valueWords_filled] using hrouted
      | false => simpa [hno, valueWords_filled] using hrouted

/-! ## Metadata -/

theorem metadata_routeReturns (d : Document) (symbol : SymbolFact) :
    (routeReturns d symbol).1.metadata = d.metadata := by
  rw [routeReturns_fst]

theorem metadata_fillReturnType (preference : TypesPreference) (d : Document)
    (symbol : SymbolFact) : (fillReturnType preference d symbol).1.metadata = d.metadata := by
  unfold fillReturnType
  split
  · rfl
  · split
    · rfl
    · split <;> rfl

end Enriched

/-! ## Documents -/

/-- What enrichment leaves of a document with a signature, and what it says about the two. -/
structure Accounted (d : Document) (facts : List ParamFact) (e : Enriched) : Prop where
  /-- The declared names in their order, and then those that are not declared in theirs. -/
  names : e.document.parameters.map Parameter.name =
    facts.map ParamFact.name ++ (Enriched.undeclared d.parameters facts).map Parameter.name
  distinct : (e.document.parameters.map Parameter.name).Nodup
  kept : ∀ p ∈ d.parameters, ∃ q ∈ e.document.parameters,
    q.name = p.name ∧ q.description = p.description
  added : ∀ q ∈ e.document.parameters,
    q.name ∉ d.parameters.map Parameter.name → q.description = none
  kinds : ∀ fact ∈ facts, ∃ q ∈ e.document.parameters, q.name = fact.name ∧ q.kind = fact.kind
  others : { e.document with
    parameters := d.parameters, returns := d.returns, yields := d.yields,
    metadata := d.metadata } = d
  metadata : e.document.metadata =
    { d.metadata with warnings := d.metadata.warnings ++ e.warnings }
  words : Enriched.valueWords e.document.yields ++ Enriched.valueWords e.document.returns =
    Enriched.valueWords d.yields ++ Enriched.valueWords d.returns
  missing : Enriched.warningsFor .paramUndocumented e.warnings =
    (Enriched.undocumented d.parameters facts).map Enriched.missing
  stale : Enriched.warningsFor .paramNotInSignature e.warnings =
    (Enriched.undeclared d.parameters facts).map Enriched.stale

namespace Enriched

section Parts

variable (d : Document) (symbol : SymbolFact) (preference : TypesPreference)

/-- A document with its parameters in order and the return of a generator routed. -/
def routedDocument : Document × List Diagnostic :=
  routeReturns { d with
    parameters := (reorder preference d.parameters symbol.documentedParams).1 } symbol

theorem enrich_warnings (h : symbol.kind.isCallable = true) :
    (enrich d symbol preference).warnings =
      (reorder preference d.parameters symbol.documentedParams).2 ++
        (routedDocument d symbol preference).2 ++
        (fillReturnType preference (routedDocument d symbol preference).1 symbol).2 := by
  simp only [enrich, h, if_true, routedDocument]

theorem enrich_metadata (h : symbol.kind.isCallable = true) :
    (enrich d symbol preference).document.metadata =
      { d.metadata with
        warnings := d.metadata.warnings ++ (enrich d symbol preference).warnings } := by
  simp only [enrich, h, if_true, Document.warnAll, metadata_fillReturnType,
    metadata_routeReturns]

end Parts

/-- Only the reordering warns for a reason that is about neither types nor values. -/
theorem warningsFor_enrich {reason : Reason} (d : Document) {symbol : SymbolFact}
    (preference : TypesPreference) (h : symbol.kind.isCallable = true)
    (htype : reason ∉ typeReasons) (hroute : reason ∉ routeReasons) :
    warningsFor reason (enrich d symbol preference).warnings =
      warningsFor reason (reorder preference d.parameters symbol.documentedParams).2 := by
  have hrouted : warningsFor reason (routedDocument d symbol preference).2 = [] :=
    warningsFor_eq_nil (fun w => routeReturns_reason) hroute
  have hfilled : warningsFor reason
      (fillReturnType preference (routedDocument d symbol preference).1 symbol).2 = [] :=
    warningsFor_eq_nil (fun w => fillReturnType_reason) htype
  rw [enrich_warnings d symbol preference h, warningsFor_append, warningsFor_append, hrouted,
    hfilled, List.append_nil, List.append_nil]

end Enriched

/-- Enrichment brings the parameters of a callable into their declared order without losing,
doubling or making up anything; a document of something else it leaves alone. -/
theorem enrichment_joins_documented_and_declared_parameters (d : Document) (symbol : SymbolFact)
    (preference : TypesPreference) :
    (symbol.kind.isCallable = true →
      (d.parameters.map Parameter.name).Nodup →
      (symbol.documentedParams.map ParamFact.name).Nodup →
      Accounted d symbol.documentedParams (enrich d symbol preference)) ∧
    (symbol.kind.isCallable = false → enrich d symbol preference = ⟨d, []⟩) := by
  refine ⟨fun hc hdocumented hdeclared => ?_, fun hc => by simp [enrich, hc]⟩
  have hcontent := content_enrich d preference hc
  have horder := Enriched.reorder_eq preference hdocumented hdeclared
  have hparams : (enrich d symbol preference).document.parameters =
      Enriched.joined preference d.parameters symbol.documentedParams :=
    (congrArg Document.parameters hcontent).trans (congrArg Prod.fst horder)
  have hwarnings : ∀ reason ∉ Enriched.typeReasons, reason ∉ Enriched.routeReasons →
      Enriched.warningsFor reason (enrich d symbol preference).warnings =
        (if reason = .paramUndocumented then
          (Enriched.undocumented d.parameters symbol.documentedParams).map Enriched.missing
        else []) ++
        if reason = .paramNotInSignature then
          (Enriched.undeclared d.parameters symbol.documentedParams).map Enriched.stale
        else [] := by
    intro reason htype hroute
    rw [Enriched.warningsFor_enrich d preference hc htype hroute, horder,
      Enriched.warningsFor_append, Enriched.warningsFor_declared _ _ _ htype,
      Enriched.warningsFor_stale]
  refine
    { names := hparams ▸ Enriched.joined_names
      distinct := hparams ▸ Enriched.nodup_joined hdocumented hdeclared
      kept := fun p hp => hparams ▸ Enriched.exists_joined hdocumented hp
      added := fun q hq hnew => Enriched.description_of_mem_joined (hparams ▸ hq) hnew
      kinds := fun fact hf => ⟨_, hparams ▸ Enriched.declared_mem_joined hf, by simp, by simp⟩
      others := ?_
      metadata := Enriched.enrich_metadata d symbol preference hc
      words := ?_
      missing := by simpa using hwarnings .paramUndocumented (by decide) (by decide)
      stale := by simpa using hwarnings .paramNotInSignature (by decide) (by decide) }
  · exact congrArg (fun e : Document =>
      { e with
        parameters := d.parameters, returns := d.returns, yields := d.yields,
        metadata := d.metadata }) hcontent
  · have hreturns := congrArg Document.returns hcontent
    have hyields := congrArg Document.yields hcontent
    simp only [Document.content] at hreturns hyields
    rw [hreturns, hyields]
    exact Enriched.valueWords_valuesAfter preference symbol d.returns d.yields

/-- A method that yields: one parameter is not documented, and `more` is not declared. -/
def SymbolFact.specimen : SymbolFact where
  name := "fit".toList
  qualifiedName := "Model.fit".toList
  kind := .method
  parameters :=
    [{ name := "self".toList },
      { name := "path".toList, hint := some "str".toList },
      { name := "xs".toList, hint := some "dict[str, float]".toList },
      { name := "kw_2".toList, kind := .varKeyword },
      { name := "step".toList, hasDefault := true, default := some "1".toList,
        kind := .keywordOnly }]
  returnHint := some "Iterator[int]".toList
  isGenerator := true

theorem a_generator_and_its_document_are_joined :
    let e := enrich .specimen .specimen .preferAnnotations
    Accounted .specimen SymbolFact.specimen.documentedParams e ∧
      e.document.parameters.map Parameter.name =
        ["path".toList, "xs".toList, "kw_2".toList, "step".toList, "more".toList] ∧
      e.warnings.map Diagnostic.reason =
        [.paramUndocumented, .typeReplaced, .paramNotInSignature, .returnsMovedToYields,
          .typeReplaced] :=
  ⟨(enrichment_joins_documented_and_declared_parameters _ _ _).1 rfl (by decide) (by decide),
    by decide, by decide⟩

end Docstring
