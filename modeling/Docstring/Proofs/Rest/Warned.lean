-- Reading on with fields. What is read does not hang on the warnings so far, so that a warning more
-- above some fields is a warning more below them; and no parameter is lost or made up.
import Docstring.Proofs.Document.Walk
import Docstring.Proofs.Rest.Place

namespace Docstring

open Text

/-! ## Parameters -/

/-- The warning that a parameter has more than one entry. -/
def duplicateOf (name : Text) : Diagnostic :=
  ⟨.duplicateParameter, "parameter '" ++ name.asString ++ "' documented more than once"⟩

namespace Document

/-- Does a document have a parameter of this name? -/
def lists (d : Document) (name : Text) : Bool := (d.parameter? name).isSome

theorem notMem_of_not_lists {d : Document} {name : Text} (h : d.lists name = false) :
    name ∉ d.parameters.map Parameter.name := by
  have hnone : d.parameter? name = none := by simpa [lists] using h
  simpa [parameter?] using hnone

theorem lists_modifyParameter (d : Document) (f : Parameter → Parameter)
    (hf : ∀ p, (f p).name = p.name) (old name : Text) :
    (d.modifyParameter old f).lists name = d.lists name := by
  unfold lists parameter? modifyParameter
  rw [find?_updateFirst hf, Option.isSome_map]

theorem lists_concat (d : Document) (p : Parameter) (name : Text) :
    Document.lists { d with parameters := d.parameters ++ [p] } name =
      (d.lists name || decide (p.name = name)) := by
  unfold lists parameter?
  rw [List.find?_append]
  cases d.parameters.find? fun p => p.name = name with
  | some q => rfl
  | none => by_cases hname : p.name = name <;> simp [hname]

theorem addParameter_of_lists {d : Document} {p : Parameter} (h : d.lists p.name = true) :
    d.addParameter p =
      (d.modifyParameter p.name fun q => q.merge p).warn (duplicateOf p.name) := by
  have hold : (d.parameter? p.name).isNone = false := by simpa [lists] using h
  have hany : d.parameters.any (fun q => q.name = p.name) = true := by
    rw [lists, parameter?, List.find?_isSome] at h
    simpa using h
  simp only [addParameter, pushParameter, hold, insertParameter, hany, if_true]
  rfl

theorem addParameter_of_not_lists {d : Document} {p : Parameter} (h : d.lists p.name = false) :
    d.addParameter p = { d with parameters := d.parameters ++ [p] } := by
  have hnone : d.parameter? p.name = none := by simpa [lists] using h
  have hany : d.parameters.any (fun q => q.name = p.name) = false := by
    simpa [parameter?] using hnone
  simp [addParameter, pushParameter, hnone, insertParameter, hany]

theorem lists_addParameter (d : Document) (p : Parameter) (name : Text) :
    (d.addParameter p).lists name = (d.lists name || decide (p.name = name)) := by
  cases hold : d.lists p.name with
  | false => rw [addParameter_of_not_lists hold, lists_concat]
  | true =>
    have hkept := d.lists_modifyParameter (fun q => q.merge p) (fun _ => rfl) p.name name
    rw [addParameter_of_lists hold]
    change (d.modifyParameter p.name fun q => q.merge p).lists name = _
    rw [hkept]
    by_cases hname : p.name = name
    · rw [← hname, hold, Bool.true_or]
    · simp [hname]

end Document

/-! ## Warnings -/

/-- A document with other warnings. -/
def Document.withWarnings (d : Document) (ws : List Diagnostic) : Document :=
  { d with metadata.warnings := ws }

/-- What a reading gives, with other warnings. -/
def ParseResult.withWarnings (ws : List Diagnostic) : ParseResult → ParseResult
  | .ok d => .ok (d.withWarnings ws)
  | .error failure => .error { failure with document := failure.document.withWarnings ws }

theorem Document.addParameter_withWarnings (d : Document) (p : Parameter) :
    ∃ new, ∀ ws, (d.withWarnings ws).addParameter p =
      (d.addParameter p).withWarnings (ws ++ new) := by
  cases hlisted : d.lists p.name with
  | false =>
    refine ⟨[], fun ws => ?_⟩
    have hnew : (d.withWarnings ws).lists p.name = false := hlisted
    rw [addParameter_of_not_lists hlisted, addParameter_of_not_lists hnew, List.append_nil]
    rfl
  | true =>
    refine ⟨[duplicateOf p.name], fun ws => ?_⟩
    have hold : (d.withWarnings ws).lists p.name = true := hlisted
    rw [addParameter_of_lists hlisted, addParameter_of_lists hold]
    rfl

theorem Document.addFreeText?_withWarnings (d : Document) (kind : SectionKind)
    (text : Option Text) (ws : List Diagnostic) :
    (d.withWarnings ws).addFreeText? kind text = (d.addFreeText? kind text).withWarnings ws := by
  cases text with
  | none => rfl
  | some text => cases kind <;> rfl

namespace Rest

theorem setParamType_withWarnings (d : Document) (raw : Text) (type : Option Text)
    (ws : List Diagnostic) :
    setParamType (d.withWarnings ws) raw type = (setParamType d raw type).withWarnings ws := by
  have hsame : (d.withWarnings ws).parameter? (ParamKind.splitName raw).2 =
      d.parameter? (ParamKind.splitName raw).2 := rfl
  unfold setParamType
  simp only [hsame]
  split <;> rfl

theorem addParam_withWarnings (d : Document) (kind : ParamKind) (argument : Text)
    (text : Option Text) : ∃ new, ∀ ws, addParam (d.withWarnings ws) kind argument text =
      (addParam d kind argument text).map fun d' => d'.withWarnings (ws ++ new) := by
  unfold addParam
  split
  split
  dsimp only
  split
  · exact ⟨[], fun _ => rfl⟩
  · obtain ⟨new, hnew⟩ := d.addParameter_withWarnings _
    exact ⟨new, fun ws => congrArg Except.ok (hnew ws)⟩

/-- What a field adds does not hang on the warnings so far, and its own come behind them. -/
theorem addField_withWarnings (d : Document) (f : Field) :
    ∃ new, ∀ ws, addField (d.withWarnings ws) f =
      (addField d f).map fun d' => d'.withWarnings (ws ++ new) := by
  -- every field but one that adds a parameter leaves the warnings alone
  have hnone : (∀ ws, addField (d.withWarnings ws) f =
      (addField d f).map fun d' => d'.withWarnings ws) → ∃ new, ∀ ws,
        addField (d.withWarnings ws) f =
          (addField d f).map fun d' => d'.withWarnings (ws ++ new) :=
    fun h => ⟨[], fun ws => by rw [List.append_nil]; exact h ws⟩
  obtain ⟨marker, text, first, body⟩ := f
  cases marker with
  | param kind argument => exact addParam_withWarnings d kind argument _
  | paramType raw =>
    exact hnone fun ws => congrArg Except.ok (setParamType_withWarnings d raw _ ws)
  | raises exception =>
    cases exception with
    | some type => exact hnone fun _ => rfl
    | none =>
      refine hnone fun ws => ?_
      simp only [addField]
      split <;> rfl
  | block kind =>
    refine hnone fun ws => ?_
    by_cases hexamples : kind = .examples
    · subst hexamples
      rfl
    · simp only [addField]
      exact congrArg Except.ok (d.addFreeText?_withWarnings kind _ ws)
  | directive kind =>
    exact hnone fun ws => congrArg Except.ok (d.addFreeText?_withWarnings kind _ ws)
  | returns | returnType | yields | yieldType => exact hnone fun _ => rfl
  | unknownField field | unknownDirective name => exact hnone fun _ => rfl

/-! ## Names -/

/-- The name of the parameter that a field is about. -/
def Marker.parameter? : Marker → Option Text
  | .param _ argument =>
    let raw := ((cutAtLast? isSpace argument).map Prod.snd).getD argument
    some (ParamKind.splitName raw).2
  | .paramType raw => some (ParamKind.splitName raw).2
  | _ => none

theorem lists_addParam {d d' : Document} {kind : ParamKind} {argument : Text}
    {text : Option Text} (h : addParam d kind argument text = .ok d') (name : Text) :
    d'.lists name =
      (d.lists name || decide ((Marker.param kind argument).parameter? = some name)) := by
  unfold addParam at h
  split at h
  rename_i type raw hparts
  have hraw : ((cutAtLast? isSpace argument).map Prod.snd).getD argument = raw := by
    cases hcut : cutAtLast? isSpace argument with
    | none => exact congrArg Prod.snd (hcut ▸ hparts)
    | some parts => exact congrArg Prod.snd (hcut ▸ hparts)
  dsimp only at h
  split at h
  · cases h
  · cases h
    simp [Document.lists_addParameter, Marker.parameter?, hraw]

theorem lists_setParamType (d : Document) (raw : Text) (type : Option Text) (name : Text) :
    (setParamType d raw type).lists name =
      (d.lists name || decide ((ParamKind.splitName raw).2 = name)) := by
  unfold setParamType
  dsimp only
  split
  · rename_i p hp
    have hold : d.lists (ParamKind.splitName raw).2 = true := by simp [Document.lists, hp]
    rw [d.lists_modifyParameter (fun p => { p with type := type }) fun _ => rfl]
    by_cases hname : (ParamKind.splitName raw).2 = name
    · simp [← hname, hold]
    · simp [hname]
  · exact d.lists_concat _ name

/-- A field adds no parameter but the one that it is about. -/
theorem lists_addField {d d' : Document} {f : Field} (h : addField d f = .ok d') (name : Text) :
    d'.lists name = (d.lists name || decide (f.marker.parameter? = some name)) := by
  -- most fields are about something else
  have hother : d'.parameters = d.parameters → f.marker.parameter? = none →
      d'.lists name = (d.lists name || decide (f.marker.parameter? = some name)) := by
    intro hparams hnone
    simp [hnone, Document.lists, Document.parameter?, hparams]
  obtain ⟨marker, text, first, body⟩ := f
  cases marker with
  | param kind argument => exact lists_addParam h name
  | paramType raw =>
    cases h
    rw [lists_setParamType]
    simp [Marker.parameter?]
  | raises exception =>
    refine hother ?_ rfl
    cases exception with
    | some type =>
      cases h
      rfl
    | none =>
      simp only [addField] at h
      split at h <;> cases h
      rfl
  | block kind =>
    refine hother ?_ rfl
    by_cases hexamples : kind = .examples
    · subst hexamples
      cases h
      rfl
    · simp only [addField] at h
      cases h
      exact d.parameters_addFreeText? kind _
  | directive kind =>
    cases h
    exact hother (d.parameters_addFreeText? kind _) rfl
  | returns | returnType | yields | yieldType =>
    cases h
    exact hother rfl rfl
  | unknownField field | unknownDirective name => cases h

/-! ## Runs -/

/-- Reads on with fields, up to what stops the reading below them. -/
def readFields (p : Progress) (fields : List Field) (stop : Option ParseError) : ParseResult :=
  match fields.foldlM Progress.add p with
  | .error failure => .error failure
  | .ok p =>
    match stop with
    | some error => .error ⟨error, p.document⟩
    | none => .ok p.finish

theorem readFields_cons (p : Progress) (f : Field) (fields : List Field)
    (stop : Option ParseError) :
    readFields p (f :: fields) stop =
      match p.add f with
      | .error failure => .error failure
      | .ok p' => readFields p' fields stop := by
  unfold readFields
  rw [List.foldlM_cons]
  cases p.add f <;> rfl

theorem readFields_append (p : Progress) (above below : List Field) (stop : Option ParseError) :
    readFields p (above ++ below) stop =
      match above.foldlM Progress.add p with
      | .error failure => .error failure
      | .ok p' => readFields p' below stop := by
  unfold readFields
  rw [List.foldlM_append]
  cases above.foldlM Progress.add p <;> rfl

def Progress.withWarnings (p : Progress) (ws : List Diagnostic) : Progress :=
  { p with document := p.document.withWarnings ws }

theorem finish_withWarnings (p : Progress) (ws : List Diagnostic) :
    (p.withWarnings ws).finish = p.finish.withWarnings ws := by
  obtain ⟨d, group⟩ := p
  cases group <;> rfl

theorem enter_withWarnings (p : Progress) (f : Field) (ws : List Diagnostic) :
    (p.withWarnings ws).enter f = (p.enter f).withWarnings ws := by
  unfold Progress.enter
  cases f.marker.sectionKind? with
  | none => rfl
  | some kind =>
    dsimp only
    rw [finish_withWarnings]
    change (if p.group.any _ then _ else _) = _
    split <;> rfl

theorem document_withWarnings (p : Progress) (ws : List Diagnostic) :
    (p.withWarnings ws).document = p.document.withWarnings ws := rfl

theorem add_withWarnings (p : Progress) (f : Field) :
    ∃ new, ∀ ws, (p.withWarnings ws).add f =
      ((p.add f).map fun q => q.withWarnings (ws ++ new)).mapError fun failure =>
        { failure with document := failure.document.withWarnings (ws ++ new) } := by
  obtain ⟨new, hnew⟩ := addField_withWarnings (p.enter f).document f
  unfold Progress.add
  dsimp only
  cases hfield : addField (p.enter f).document f with
  | error error =>
    refine ⟨[], fun ws => ?_⟩
    rw [enter_withWarnings, document_withWarnings, hnew, hfield, finish_withWarnings,
      List.append_nil]
    rfl
  | ok d =>
    refine ⟨new, fun ws => ?_⟩
    rw [enter_withWarnings, document_withWarnings, hnew, hfield]
    rfl

/-- What is read does not hang on the warnings so far, and its own come behind them. -/
theorem readFields_withWarnings (p : Progress) (fields : List Field) (stop : Option ParseError) :
    ∃ new, ∀ ws, readFields (p.withWarnings ws) fields stop =
      (readFields p fields stop).withWarnings (ws ++ new) := by
  induction fields generalizing p with
  | nil =>
    refine ⟨[], fun ws => ?_⟩
    rw [List.append_nil]
    unfold readFields
    cases stop with
    | none => exact congrArg Except.ok (finish_withWarnings p ws)
    | some error => rfl
  | cons f fields ih =>
    obtain ⟨new, hnew⟩ := add_withWarnings p f
    simp only [readFields_cons, hnew]
    cases p.add f with
    | error failure => exact ⟨new, fun ws => rfl⟩
    | ok q =>
      obtain ⟨later, hlater⟩ := ih q
      exact ⟨new ++ later, fun ws => by rw [← List.append_assoc]; exact hlater (ws ++ new)⟩

theorem lists_finish (p : Progress) (name : Text) :
    p.finish.lists name = p.document.lists name := by
  obtain ⟨d, group⟩ := p
  cases group <;> rfl

theorem lists_enter (p : Progress) (f : Field) (name : Text) :
    (p.enter f).document.lists name = p.document.lists name := by
  unfold Progress.enter
  split
  · rfl
  · split
    · rfl
    · exact lists_finish p name

/-- Reading on loses no parameter, and adds none but those that the fields are about. -/
theorem lists_readFields (p : Progress) (fields : List Field) (stop : Option ParseError)
    (name : Text) :
    (p.document.lists name = true → (readFields p fields stop).document.lists name = true) ∧
      ((∀ f ∈ fields, f.marker.parameter? ≠ some name) → p.document.lists name = false →
        (readFields p fields stop).document.lists name = false) := by
  induction fields generalizing p with
  | nil =>
    have hend : (readFields p [] stop).document.lists name = p.document.lists name := by
      cases stop with
      | none => exact lists_finish p name
      | some error => rfl
    rw [hend]
    exact ⟨id, fun _ => id⟩
  | cons f fields ih =>
    rw [readFields_cons, Progress.add]
    cases hfield : addField (p.enter f).document f with
    | error error =>
      have hend : (p.enter f).finish.lists name = p.document.lists name := by
        rw [lists_finish, lists_enter]
      change (_ → (p.enter f).finish.lists name = true) ∧
        (_ → _ → (p.enter f).finish.lists name = false)
      rw [hend]
      exact ⟨id, fun _ => id⟩
    | ok d =>
      have hnext := lists_addField hfield name
      rw [lists_enter] at hnext
      obtain ⟨hkept, hnone⟩ := ih ⟨d, (p.enter f).group.map fun span =>
        { span with last := f.last }⟩
      refine ⟨fun hlisted => hkept ?_, fun hfields hunlisted => hnone ?_ ?_⟩
      · rw [hnext, hlisted, Bool.true_or]
      · exact fun g hg => hfields g (List.mem_cons_of_mem f hg)
      · simp [hnext, hunlisted, hfields f List.mem_cons_self]

end Rest

/-! ## Readings -/

/-- The second result is the first one with one more warning. -/
def ParseResult.Gains (w : Diagnostic) (r r' : ParseResult) : Prop :=
  ∃ before after, r.document.metadata.warnings = before ++ after ∧
    r' = r.withWarnings (before ++ w :: after)

theorem ParseResult.warnings_withWarnings (r : ParseResult) (ws : List Diagnostic) :
    (r.withWarnings ws).document.metadata.warnings = ws := by
  cases r <;> rfl

theorem ParseResult.Gains.ne {w : Diagnostic} {r r' : ParseResult} (h : r.Gains w r') :
    r' ≠ r := by
  obtain ⟨before, after, hwarnings, rfl⟩ := h
  intro hsame
  have hlength := congrArg (fun r : ParseResult => r.document.metadata.warnings.length) hsame
  simp [ParseResult.warnings_withWarnings, hwarnings] at hlength

namespace Rest

/-- A warning more before some fields is a warning more below them. -/
theorem gains_readFields (p : Progress) (w : Diagnostic) (fields : List Field)
    (stop : Option ParseError) :
    (readFields p fields stop).Gains w
      (readFields (p.withWarnings (p.document.metadata.warnings ++ [w])) fields stop) := by
  obtain ⟨new, hnew⟩ := readFields_withWarnings p fields stop
  have hsame : readFields p fields stop =
      (readFields p fields stop).withWarnings (p.document.metadata.warnings ++ new) :=
    hnew p.document.metadata.warnings
  refine ⟨p.document.metadata.warnings, new, ?_, ?_⟩
  · rw [hsame, ParseResult.warnings_withWarnings]
  · rw [hnew, List.append_assoc]
    rfl

end Rest

end Docstring
