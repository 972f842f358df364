-- What the fields of a field list write. A parameter, an exception or a section adds to a list; a
-- type or a description of the returned value has one place, and a later field for it takes that.
import Docstring.Proofs.Document.Kept
import Docstring.Rest.Parser

namespace Docstring

open Text

/-! ## Types of parameters -/

namespace Document

variable {name other : Text} {f : Parameter → Parameter}

theorem find?_updateFirst (hf : ∀ p, (f p).name = p.name) (params : List Parameter) :
    (updateFirst name f params).find? (fun p => p.name = other) =
      (params.find? fun p => p.name = other).map fun p => if other = name then f p else p := by
  induction params with
  | nil => rfl
  | cons p params ih =>
    by_cases hp : p.name = name
    · by_cases hother : p.name = other
      · simp [updateFirst, hf, hp, ← hother]
      · have hne : other ≠ name := fun h => hother (hp.trans h.symm)
        simp [updateFirst, hf, hp ▸ hother, hp, hne]
    · by_cases hother : p.name = other
      · have hne : other ≠ name := fun h => hp (hother.trans h)
        simp [updateFirst, hother, hne]
      · simp [updateFirst, hp, hother, ih]

theorem filterMap_updateFirst (hf : ∀ p, (f p).description = p.description)
    (params : List Parameter) :
    (updateFirst name f params).filterMap Parameter.description =
      params.filterMap Parameter.description := by
  induction params with
  | nil => rfl
  | cons p params ih =>
    rw [updateFirst]
    split <;> simp [List.filterMap_cons, hf, ih]

end Document

namespace Rest

theorem keeps_setParamType (d : Document) (raw : Text) (type : Option Text) :
    d.Keeps [.paramType (ParamKind.splitName raw).2] (setParamType d raw type) := by
  unfold setParamType
  simp only
  split
  · refine .of_warnings_eq rfl fun place hplace => ?_
    cases place <;> try exact List.Subset.refl _
    · rename_i name
      have hne : name ≠ (ParamKind.splitName raw).2 := by simpa using hplace
      simp [Document.textsAt, Document.parameter?, Document.modifyParameter,
        Document.find?_updateFirst, hne]
    · simp [Document.textsAt, Document.modifyParameter, Document.filterMap_updateFirst]
  · refine .of_warnings_eq rfl fun place hplace => ?_
    cases place <;> try exact List.Subset.refl _
    · intro t ht
      simp only [Document.textsAt, Document.parameter?, List.find?_append, Option.mem_toList,
        Option.bind_eq_some_iff] at ht ⊢
      obtain ⟨p, hp, ht⟩ := ht
      exact ⟨p, by simp [hp], ht⟩
    · simp [Document.textsAt]

theorem sections_setParamType (d : Document) (raw : Text) (type : Option Text) :
    (setParamType d raw type).metadata.sections = d.metadata.sections := by
  unfold setParamType
  simp only
  split <;> rfl

theorem mem_textsAt_setParamType (d : Document) (raw t : Text) :
    t ∈ (setParamType d raw (some t)).textsAt (.paramType (ParamKind.splitName raw).2) := by
  unfold setParamType
  simp only
  split
  · rename_i p hp
    rw [Document.parameter?] at hp
    simp [Document.textsAt, Document.parameter?, Document.modifyParameter,
      Document.find?_updateFirst, hp]
  · rename_i hnone
    rw [Document.parameter?] at hnone
    simp [Document.textsAt, Document.parameter?, List.find?_append, hnone]

/-! ## Markers -/

/-- The places that a field writes, apart from lists. -/
def Marker.written : Marker → List Place
  | .paramType raw => [.paramType (ParamKind.splitName raw).2]
  | .returns => [.returnText]
  | .returnType => [.returnType]
  | .yields => [.yieldText]
  | .yieldType => [.yieldType]
  | _ => []

/-- The place of the text of a field. -/
def Marker.place (m : Marker) : Place := m.written.headD .list

theorem Marker.place_mem_written {m later : Marker} (h : m.place ∈ later.written) :
    m.place ∈ m.written := by
  cases m <;> cases later <;> simp_all [place, written]

/-- The sections that a marker can open hold examples or free text. -/
def Marker.OpensText (m : Marker) : Prop :=
  ∀ kind, m = .block kind ∨ m = .directive kind → m = .block .examples ∨ kind.isFreeText = true

theorem opensText_classifyField (field : Text) : (classifyField field).OpensText := by
  intro kind hkind
  unfold classifyField at hkind ⊢
  split at hkind
  · rename_i entry hfind
    have htable : ∀ entry ∈ blockFields, entry.2 = .examples ∨ entry.2.isFreeText = true := by
      decide
    have hentry := htable _ (List.mem_of_find?_eq_some hfind)
    simp only [Marker.block.injEq, reduceCtorEq, or_false] at hkind
    rw [← hkind]
    exact hentry.imp_left (congrArg Marker.block)
  · split at hkind
    · unfold fieldWithArgument at hkind
      split_ifs at hkind <;> simp at hkind
    · unfold fieldAlone at hkind
      split_ifs at hkind <;> simp at hkind

theorem opensText_classify {line : Line} {marker : Marker} {text : Text}
    (h : classify line = some (marker, text)) : marker.OpensText := by
  unfold classify at h
  split at h
  · cases h
    exact opensText_classifyField _
  · obtain ⟨⟨name, body⟩, _, hname⟩ := Option.map_eq_some_iff.mp h
    cases hname
    intro kind hkind
    unfold classifyDirective at hkind ⊢
    simp only at hkind
    split_ifs at hkind <;> simp at hkind <;> subst hkind <;> exact Or.inr rfl

/-! ## Fields -/

theorem addParam_cases {d d' : Document} {kind : ParamKind} {argument : Text} {text : Option Text}
    (h : addParam d kind argument text = .ok d') :
    ∃ p, d' = d.addParameter p ∧ p.description = some (text.getD []) := by
  unfold addParam at h
  split at h
  simp only at h
  split at h
  · cases h
  · cases h
    exact ⟨_, rfl, rfl⟩

/-- What is not set stays. -/
theorem bind_subset_getD (doc : Option ReturnDoc) {field : ReturnDoc → Option Text}
    (h : field {} = none) : (doc.bind field).toList ⊆ (field (doc.getD {})).toList := by
  cases doc <;> simp [h]

/-- A field writes its own places. -/
theorem keeps_addField {d d' : Document} {f : Field} (h : addField d f = .ok d') :
    d.Keeps f.marker.written d' ∧ d'.metadata.sections = d.metadata.sections := by
  cases hmarker : f.marker <;> simp only [addField, hmarker] at h
  case param kind argument =>
    obtain ⟨p, rfl, _⟩ := addParam_cases h
    exact ⟨d.keeps_addParameter p, d.sections_addParameter p⟩
  case paramType raw =>
    cases h
    exact ⟨keeps_setParamType d raw _, sections_setParamType d raw _⟩
  case returns =>
    cases h
    exact ⟨Document.keeps_returns (fun _ => bind_subset_getD d.returns rfl)
      (by simp [Marker.written]), rfl⟩
  case returnType =>
    cases h
    exact ⟨Document.keeps_returns (by simp [Marker.written])
      (fun _ => bind_subset_getD d.returns rfl), rfl⟩
  case yields =>
    cases h
    exact ⟨Document.keeps_yields (fun _ => bind_subset_getD d.yields rfl)
      (by simp [Marker.written]), rfl⟩
  case yieldType =>
    cases h
    exact ⟨Document.keeps_yields (by simp [Marker.written])
      (fun _ => bind_subset_getD d.yields rfl), rfl⟩
  case raises exception =>
    cases exception <;> simp only at h
    · split at h
      · cases h
        exact ⟨d.keeps_addRaise _, rfl⟩
      · cases h
    · cases h
      exact ⟨d.keeps_addRaise _, rfl⟩
  case block kind =>
    cases kind <;> cases h <;>
      first
      | exact ⟨d.keeps_addExample _, rfl⟩
      | exact ⟨d.keeps_addFreeText? _ _, d.sections_addFreeText? _ _⟩
  case directive kind =>
    cases h
    exact ⟨d.keeps_addFreeText? kind _, d.sections_addFreeText? kind _⟩
  case unknownField | unknownDirective => cases h

/-- The description of an exception that is named beside it keeps the lines below the first. -/
theorem says_namedRaise {u v : Text} {line : Line} (h : v.Says line) (hink : isBlank line = false) :
    ∃ t, (namedRaise (u ++ '\n' :: v)).description = some t ∧ t.Says line := by
  obtain ⟨left, right, hcut, hright⟩ := exists_cutAt?_newline u v
  simp only [namedRaise, hcut]
  exact says_joinProse? (says_trim (hright line h) hink) (by simp) hink

/-- A field keeps the lines below its marker. If it names an exception in its text, the first line
of the text is not one of them. -/
theorem holdsAt_addField {d d' : Document} {f : Field} {above below : List Line} {line : Line}
    (h : addField d f = .ok d') (hw : d'.metadata.warnings = [])
    (hbody : f.body = above ++ line :: below) (hn : '\n' ∉ line) (hink : isBlank line = false)
    (htext : f.marker.OpensText)
    (hnamed : f.marker = .raises none → isBlank f.text = false ∨ above.all isBlank = false) :
    d'.HoldsAt f.marker.place line := by
  obtain ⟨t, ht, hheld⟩ := says_description?_dedentBy f.text bodyIndent
    (show line ∈ f.body by simp [hbody]) hn rfl hink
  cases hmarker : f.marker <;> simp only [addField, hmarker, ht] at h
  case param kind argument =>
    obtain ⟨p, rfl, hp⟩ := addParam_cases h
    exact Document.holdsAt_addParameter hw hp hheld
  case paramType raw =>
    cases h
    exact ⟨t, mem_textsAt_setParamType d raw t, hheld⟩
  case returns | returnType | yields | yieldType =>
    cases h
    exact ⟨t, by simp [Document.textsAt, Marker.place, Marker.written, setDescription, setType],
      hheld⟩
  case raises exception =>
    cases exception with
    | none =>
      cases h
      obtain ⟨k, hk⟩ := exists_dedentBy bodyIndent f.body
      have habove : isBlank f.text = false ∨ (above.map (unindent k)).all isBlank = false := by
        simpa [Function.comp_def, isBlank_unindent] using hnamed hmarker
      obtain ⟨u, v, huv, hv⟩ := says_description?_below (below.map (unindent k))
        (says_unindent k hn) hink habove
      have hsame : description? f.text (dedentBy bodyIndent f.body) = some (u ++ '\n' :: v) := by
        rw [hk, hbody, List.map_append, List.map_cons, huv]
      obtain rfl : t = u ++ '\n' :: v := Option.some.inj (ht.symm.trans hsame)
      obtain ⟨t, ht, hheld⟩ := says_namedRaise hv hink
      exact Document.holdsAt_addRaise (.inr ht) hheld
    | some exception =>
      cases h
      exact Document.holdsAt_addRaise (.inr rfl) hheld
  case block kind =>
    have hkind := htext kind (.inl hmarker)
    rw [hmarker, Marker.block.injEq] at hkind
    rcases hkind with rfl | hfree
    · cases h
      exact Document.holdsAt_addExample hheld
    · have hd' : d' = d.addFreeText? kind (some t) := by
        cases kind <;> first | exact absurd hfree (by decide) | exact (Except.ok.inj h).symm
      rw [hd']
      exact Document.holdsAt_addFreeText? hfree hheld
  case directive kind =>
    cases h
    have hkind := htext kind (.inr hmarker)
    rw [hmarker] at hkind
    exact Document.holdsAt_addFreeText? (hkind.resolve_left (by simp)) hheld
  case unknownField | unknownDirective => cases h

end Rest

end Docstring
