-- Parameters that are pushed one after the other are gathered by name, each field by its own rule.
-- So no reader leaves two parameters of one name, wherever it stops.
import Docstring.Proofs.Google.Walk
import Docstring.Proofs.Numpy.Walk
import Docstring.Proofs.Rest.Kept
import Docstring.Proofs.Rest.Warned
import Mathlib.Data.List.Nodup

namespace Docstring

open Text

/-! ## Entries of one name -/

namespace Parameter

/-- The first description, with each later one that is not empty on a line of its own. -/
def gatherDescriptions : List Text → Option Text
  | [] => none
  | first :: later => some (first ++ (later.filter fun t => !t.isEmpty).flatMap ('\n' :: ·))

/-- What entries for one name add up to: the first type and the first default that one of them has,
the first kind that is not positional, and all descriptions. -/
def gather (name : Text) (entries : List Parameter) : Parameter where
  name := name
  type := entries.findSome? Parameter.type
  default := entries.findSome? Parameter.default
  description := gatherDescriptions (entries.filterMap Parameter.description)
  kind := ((entries.map Parameter.kind).find? fun kind => kind ≠ .positional).getD .positional

theorem joinDescription_gatherDescriptions (texts : List Text) (new : Option Text) :
    joinDescription (gatherDescriptions texts) new = gatherDescriptions (texts ++ new.toList) := by
  cases texts with
  | nil => cases new <;> simp [gatherDescriptions, joinDescription]
  | cons first later =>
    cases new with
    | none => simp [gatherDescriptions, joinDescription]
    | some t =>
      by_cases ht : t = []
      · simp [gatherDescriptions, joinDescription, ht]
      · simp [gatherDescriptions, joinDescription, ht]

theorem kind_gather_concat (name : Text) (entries : List Parameter) (p : Parameter) :
    (gather name (entries ++ [p])).kind =
      if (gather name entries).kind = .positional then p.kind else (gather name entries).kind := by
  unfold gather
  dsimp only
  rw [List.map_append, List.find?_append]
  cases hkind : (entries.map Parameter.kind).find? fun kind => kind ≠ .positional with
  | some kind =>
    have hne : kind ≠ .positional := by simpa using List.find?_some hkind
    simp [hne]
  | none => cases hp : p.kind <;> simp [hp]

/-- One more entry is merged into those before it. -/
theorem merge_gather (name : Text) (entries : List Parameter) (p : Parameter) :
    (gather name entries).merge p = gather name (entries ++ [p]) := by
  have hkind := kind_gather_concat name entries p
  have hdescription : [p].filterMap Parameter.description = p.description.toList := by
    cases h : p.description <;> simp [h]
  simp only [merge]
  rw [← hkind]
  simp only [gather, joinDescription_gatherDescriptions, List.findSome?_append,
    List.filterMap_append, List.findSome?_singleton, hdescription]

theorem gather_singleton (p : Parameter) : gather p.name [p] = p := by
  obtain ⟨name, type, default, description, kind⟩ := p
  cases description <;> cases kind <;> simp [gather, gatherDescriptions]

/-- The entries of a list, gathered by name, in the order in which the names come first. -/
def gatherAll (ps : List Parameter) : List Parameter :=
  (ps.map Parameter.name).eraseDups.map fun name => gather name (ps.filter fun p => p.name = name)

theorem map_name_gatherAll (ps : List Parameter) :
    (gatherAll ps).map Parameter.name = (ps.map Parameter.name).eraseDups := by
  rw [gatherAll, List.map_map]
  exact List.map_id _

end Parameter

/-! ## Distinct names -/

theorem eraseDups_concat (names : List Text) (name : Text) :
    (names ++ [name]).eraseDups =
      if name ∈ names then names.eraseDups else names.eraseDups ++ [name] := by
  rw [List.eraseDups_append]
  split
  · rename_i hold
    simp [List.removeAll, hold]
  · rename_i hnew
    simp [List.removeAll, hnew, List.eraseDups_cons]

theorem nodup_eraseDups (names : List Text) : names.eraseDups.Nodup := by
  induction names using List.reverseRecOn with
  | nil => simp
  | append_singleton names name ih =>
    rw [eraseDups_concat]
    split
    · exact ih
    · rename_i hnew
      rw [← List.concat_eq_append]
      exact ih.concat (by simpa using hnew)

namespace Document

/-- No two parameters have one name. -/
def IsDistinct (d : Document) : Prop := (d.parameters.map Parameter.name).Nodup

instance : DecidablePred IsDistinct := fun d =>
  inferInstanceAs (Decidable (d.parameters.map Parameter.name).Nodup)

variable {name : Text} {f : Parameter → Parameter}

theorem map_name_updateFirst (name : Text) (hf : ∀ p, (f p).name = p.name)
    (params : List Parameter) :
    (updateFirst name f params).map Parameter.name = params.map Parameter.name := by
  induction params with
  | nil => rfl
  | cons p params ih =>
    rw [updateFirst]
    split
    · rw [List.map_cons, List.map_cons, hf]
    · rw [List.map_cons, List.map_cons, ih]

/-- Where there is one parameter for each name, only the one of its name is replaced. -/
theorem updateFirst_map {g : Text → Parameter} {names : List Text} (hg : ∀ n, (g n).name = n)
    (hnames : names.Nodup) :
    updateFirst name f (names.map g) = names.map fun n => if n = name then f (g n) else g n := by
  induction names with
  | nil => rfl
  | cons n names ih =>
    rw [List.nodup_cons] at hnames
    rw [List.map_cons, updateFirst, hg, List.map_cons]
    by_cases hn : n = name
    · have hrest : names.map g = names.map fun m => if m = name then f (g m) else g m := by
        refine List.map_congr_left fun m hm => ?_
        rw [if_neg]
        rintro rfl
        exact hnames.1 (hn ▸ hm)
      rw [if_pos hn, if_pos hn, ← hrest]
    · rw [if_neg hn, if_neg hn, ih hnames.2]

/-! ## Pushing -/

/-- Pushes parameters one after the other. -/
def pushAll (d : Document) (ps : List Parameter) : Document :=
  ps.foldl (fun d p => (d.pushParameter p).1) d

/-- One push: the entry goes to those of its name. -/
theorem insertParameter_gatherAll (ps : List Parameter) (p : Parameter) :
    insertParameter (Parameter.gatherAll ps) p = Parameter.gatherAll (ps ++ [p]) := by
  have hany : ((Parameter.gatherAll ps).any fun q => q.name = p.name) = true ↔
      p.name ∈ ps.map Parameter.name := by
    rw [← List.mem_eraseDups, ← Parameter.map_name_gatherAll]
    simp
  have hother : ∀ n ≠ p.name, (ps ++ [p]).filter (fun q => q.name = n) =
      ps.filter fun q => q.name = n := by
    intro n hn
    simp [List.filter_append, Ne.symm hn]
  unfold insertParameter
  by_cases hold : p.name ∈ ps.map Parameter.name
  · rw [if_pos (hany.mpr hold), Parameter.gatherAll,
      updateFirst_map (fun _ => rfl) (nodup_eraseDups _), Parameter.gatherAll, List.map_append,
      List.map_singleton, eraseDups_concat, if_pos hold]
    refine List.map_congr_left fun n _ => ?_
    by_cases hn : n = p.name
    · rw [if_pos hn, Parameter.merge_gather, List.filter_append]
      simp [hn]
    · rw [if_neg hn, hother n hn]
  · rw [if_neg (mt hany.mp hold), Parameter.gatherAll, Parameter.gatherAll, List.map_append,
      List.map_singleton, eraseDups_concat, if_neg hold, List.map_append, List.map_singleton]
    have hfirst : (ps ++ [p]).filter (fun q => q.name = p.name) = [p] := by
      have hnone : ps.filter (fun q => q.name = p.name) = [] := by
        rw [List.filter_eq_nil_iff]
        intro q hq hname
        exact hold (List.mem_map.mpr ⟨q, hq, by simpa using hname⟩)
      rw [List.filter_append, hnone]
      simp
    rw [hfirst, Parameter.gather_singleton]
    congr 1
    refine List.map_congr_left fun n hn => ?_
    rw [hother n]
    rintro rfl
    exact hold (List.mem_eraseDups.mp hn)

/-- A run of pushes on a document without parameters changes nothing but these. -/
theorem pushAll_eq {d : Document} (hnone : d.parameters = []) (ps : List Parameter) :
    d.pushAll ps = { d with parameters := Parameter.gatherAll ps } := by
  induction ps using List.reverseRecOn with
  | nil =>
    have hnil : Parameter.gatherAll [] = d.parameters := by
      rw [hnone]
      rfl
    rw [hnil]
    rfl
  | append_singleton ps p ih =>
    rw [pushAll] at ih ⊢
    rw [List.foldl_append, ih]
    simp only [List.foldl_cons, List.foldl_nil, pushParameter, insertParameter_gatherAll]

theorem isNew_iff (d : Document) (p : Parameter) :
    (d.pushParameter p).2 = true ↔ p.name ∉ d.parameters.map Parameter.name := by
  simp [pushParameter, parameter?]

end Document

/-! ## Readers -/

namespace Document

variable {d : Document} {name : Text} {f : Parameter → Parameter}

theorem IsDistinct.modifyParameter (h : d.IsDistinct) (hf : ∀ p, (f p).name = p.name) :
    (d.modifyParameter name f).IsDistinct := by
  rw [IsDistinct, Document.modifyParameter, map_name_updateFirst name hf]
  exact h

theorem IsDistinct.concat (h : d.IsDistinct) {p : Parameter}
    (hnew : p.name ∉ d.parameters.map Parameter.name) :
    IsDistinct { d with parameters := d.parameters ++ [p] } := by
  rw [IsDistinct, List.map_append, List.map_singleton, ← List.concat_eq_append]
  exact List.Nodup.concat hnew h

theorem IsDistinct.addParameter (h : d.IsDistinct) (p : Parameter) :
    (d.addParameter p).IsDistinct := by
  rw [IsDistinct, parameters_addParameter, insertParameter]
  split
  · exact h.modifyParameter fun _ => rfl
  · rename_i hnew
    exact h.concat (by simpa using hnew)

theorem IsDistinct.addFreeText? (h : d.IsDistinct) (kind : SectionKind) (text : Option Text) :
    (d.addFreeText? kind text).IsDistinct := by
  rwa [IsDistinct, parameters_addFreeText?]

end Document

open Document

namespace Google

theorem isDistinct_addParam {d : Document} (keywordOnly : Bool) (e : Entry) (h : d.IsDistinct) :
    (addParam keywordOnly d e).document.IsDistinct := by
  unfold addParam
  split
  · exact h
  · exact h.addParameter _

theorem isDistinct_addRaise {d : Document} (e : Entry) (h : d.IsDistinct) :
    (addRaise d e).document.IsDistinct := by
  unfold addRaise
  dsimp only
  split
  · exact h
  · split <;> exact h

theorem isDistinct_addEntries {add : Document → Entry → ParseResult} {d : Document}
    (hadd : ∀ d e, d.IsDistinct → (add d e).document.IsDistinct) (body : List Line)
    (h : d.IsDistinct) : (addEntries add d body).document.IsDistinct := by
  unfold addEntries
  split
  · exact h
  · exact document_foldlM hadd _ h

theorem isDistinct_addBlock {d : Document} (b : Block) (h : d.IsDistinct) :
    (addBlock d b).document.IsDistinct := by
  have hrecorded : (d.recordSection b.span).IsDistinct := h
  unfold addBlock
  dsimp only
  split
  · exact isDistinct_addEntries (fun _ => isDistinct_addParam b.keywordOnly) _ hrecorded
  · exact hrecorded
  · exact hrecorded
  · exact isDistinct_addEntries (fun _ => isDistinct_addRaise) _ hrecorded
  · exact hrecorded
  · exact hrecorded.addFreeText? _ _

theorem isDistinct_parse (text : Text) : (parse text).document.IsDistinct := by
  rw [parse_eq_read]
  exact walk.document_read_of_add _ List.nodup_nil (fun _ => isDistinct_addBlock) (fun _ => id)
    fun _ => id

end Google

namespace Numpy

theorem isDistinct_addParam {d : Document} (head : Line) (type default : Option Text)
    (text raw : Text) (h : d.IsDistinct) :
    (addParam head type default text d raw).document.IsDistinct := by
  unfold addParam
  split
  split
  · exact h.addParameter _
  · exact h

theorem isDistinct_addParams {d : Document} (e : Entry) (h : d.IsDistinct) :
    (addParams d e).document.IsDistinct := by
  unfold addParams
  split
  · exact h
  · dsimp only
    split
    · exact document_foldlM (fun _ raw => isDistinct_addParam _ _ _ _ raw) _ h
    · exact document_foldlM (fun _ raw => isDistinct_addParam _ _ _ _ raw) _ h

theorem isDistinct_addRaise {d : Document} (e : Entry) (h : d.IsDistinct) :
    (addRaise d e).document.IsDistinct := by
  unfold addRaise
  split <;> exact h

theorem isDistinct_addReturn {d : Document} (kind : SectionKind) (body : List Line)
    (h : d.IsDistinct) : (addReturn kind d body).document.IsDistinct := by
  have hset : ∀ (d : Document) (doc : ReturnDoc),
      d.IsDistinct → (setReturn kind d doc).IsDistinct := by
    intro d doc hd
    unfold setReturn
    split <;> exact hd
  unfold addReturn
  split
  · exact hset _ _ h
  · exact hset _ _ h
  · exact h

theorem isDistinct_addBlock {d : Document} (b : Block) (h : d.IsDistinct) :
    (addBlock d b).document.IsDistinct := by
  have hrecorded : (d.recordSection b.span).IsDistinct := h
  unfold addBlock
  dsimp only
  split
  · exact document_foldlM (fun _ => isDistinct_addParams) _ hrecorded
  · exact isDistinct_addReturn _ _ hrecorded
  · exact isDistinct_addReturn _ _ hrecorded
  · exact document_foldlM (fun _ => isDistinct_addRaise) _ hrecorded
  · exact hrecorded
  · exact hrecorded.addFreeText? _ _

theorem isDistinct_parse (text : Text) : (parse text).document.IsDistinct := by
  rw [parse_eq_read]
  exact walk.document_read_of_add _ List.nodup_nil (fun _ => isDistinct_addBlock) (fun _ => id)
    fun _ => id

end Numpy

namespace Rest

/-- A type field adds a parameter only where there is none of its name. -/
theorem isDistinct_setParamType {d : Document} (raw : Text) (type : Option Text)
    (h : d.IsDistinct) : (setParamType d raw type).IsDistinct := by
  unfold setParamType
  dsimp only
  split
  · exact h.modifyParameter fun _ => rfl
  · rename_i hnew
    exact h.concat (by simpa [parameter?] using hnew)

theorem isDistinct_addParam {d d' : Document} {kind : ParamKind} {argument : Text}
    {text : Option Text} (hadd : addParam d kind argument text = .ok d') (h : d.IsDistinct) :
    d'.IsDistinct := by
  unfold addParam at hadd
  split at hadd
  split at hadd
  dsimp only at hadd
  split at hadd
  · cases hadd
  · cases hadd
    exact h.addParameter _

theorem isDistinct_addField {d d' : Document} {f : Field} (hadd : addField d f = .ok d')
    (h : d.IsDistinct) : d'.IsDistinct := by
  obtain ⟨marker, text, first, body⟩ := f
  cases marker with
  | param kind argument => exact isDistinct_addParam hadd h
  | paramType raw =>
    cases hadd
    exact isDistinct_setParamType raw _ h
  | raises exception =>
    cases exception with
    | some type =>
      cases hadd
      exact h
    | none =>
      simp only [addField] at hadd
      split at hadd <;> cases hadd
      exact h
  | block kind =>
    by_cases hexamples : kind = .examples
    · subst hexamples
      cases hadd
      exact h
    · simp only [addField] at hadd
      cases hadd
      exact h.addFreeText? kind _
  | directive kind =>
    cases hadd
    exact h.addFreeText? kind _
  | returns | returnType | yields | yieldType =>
    cases hadd
    exact h
  | unknownField field | unknownDirective name => cases hadd

theorem isDistinct_finish {p : Progress} (h : p.document.IsDistinct) : p.finish.IsDistinct := by
  unfold Progress.finish
  split <;> exact h

theorem isDistinct_enter {p : Progress} (f : Field) (h : p.document.IsDistinct) :
    (p.enter f).document.IsDistinct := by
  unfold Progress.enter
  split
  · exact h
  · split
    · exact h
    · exact isDistinct_finish h

theorem isDistinct_parse (text : Text) : (parse text).document.IsDistinct := by
  rw [parse_eq_read]
  refine walk.document_read _ (Q := fun p => p.document.IsDistinct) List.nodup_nil ?_ ?_
    (fun _ => isDistinct_finish) fun _ => id
  · intro p f p' hadd hp
    obtain ⟨d, hfield, ⟨rfl, -⟩ | ⟨rfl, -⟩⟩ := add_cases hadd
    · exact isDistinct_addField hfield hp
    · exact isDistinct_addField hfield (isDistinct_finish hp)
  · intro p f failure hadd hp
    rw [(add_error hadd).2]
    exact isDistinct_finish (isDistinct_enter f hp)

end Rest

theorem Style.isDistinct_parse (style : Style) (text : Text) :
    (style.parse text).document.IsDistinct := by
  cases style with
  | rest => exact Rest.isDistinct_parse text
  | google => exact Google.isDistinct_parse text
  | numpy => exact Numpy.isDistinct_parse text
  | plain => exact List.nodup_nil

/-- A document without parameters takes those that are pushed one after the other as one entry for
each name, in the order in which the names come first; a push is new where its name is. What a
reader leaves, at the end or where it stops, has one parameter for each name. -/
theorem pushed_parameters_are_gathered_by_name (d : Document) (hnone : d.parameters = []) :
    (∀ ps, d.pushAll ps = { d with
      parameters := (ps.map Parameter.name).eraseDups.map fun name =>
        Parameter.gather name (ps.filter fun p => p.name = name) }) ∧
      (∀ ps p, ((d.pushAll ps).pushParameter p).2 = true ↔ p.name ∉ ps.map Parameter.name) ∧
      ∀ (style : Style) (text : Text), (style.parse text).document.IsDistinct := by
  refine ⟨pushAll_eq hnone, fun ps p => ?_, Style.isDistinct_parse⟩
  rw [isNew_iff, pushAll_eq hnone, Parameter.map_name_gatherAll, List.mem_eraseDups]

/-- Three entries of one name around another: the type and the kind come from the second, the
default from the first, and the empty description adds no line. A reading that stops at an unknown
field leaves the types and the descriptions of one name together. -/
theorem entries_of_one_name_make_one_parameter :
    let d : Document := { summary := "S".toList }
    let ps : List Parameter :=
      [ { name := "x".toList, default := some "1".toList, description := some "a".toList },
        { name := "y".toList, type := some "str".toList },
        { name := "x".toList, type := some "int".toList, description := some [],
          kind := .keywordOnly },
        { name := "x".toList, type := some "float".toList, default := some "2".toList,
          description := some "b".toList, kind := .varPositional } ]
    let text := ":type x: int\n:param x: a\n:param x: b\n:bogus: c".toList
    (d.pushAll ps).parameters =
        [ { name := "x".toList, type := some "int".toList, default := some "1".toList,
            description := some "a\nb".toList, kind := .keywordOnly },
          { name := "y".toList, type := some "str".toList } ] ∧
      ((d.pushAll ps).pushParameter { name := "y".toList }).2 = false ∧
      (Style.rest.parse text).toOption = none ∧
      (Style.rest.parse text).document.parameters.map Parameter.description =
        [some "a\nb".toList] ∧
      (Style.rest.parse text).document.IsDistinct := by
  intro d ps text
  obtain ⟨hpush, hnew, hparse⟩ := pushed_parameters_are_gathered_by_name d rfl
  refine ⟨?_, ?_, by decide +kernel, by decide +kernel, hparse .rest text⟩
  · rw [hpush]
    decide +kernel
  · rw [← Bool.not_eq_true, hnew, not_not]
    decide +kernel

end Docstring
