-- What gives types in a field list: the fields for them, each with the lines that are set in below it.
-- Below its first line, a type has shorter lines than it is read from.
import Docstring.Proofs.Document.Flush
import Docstring.Proofs.Rest.Value

namespace Docstring.Rest

open Text

variable {d d' : Document} {kind : SectionKind} {line : Line} {text : Text}

/-! ## Leads -/

/-- How the lines start that are written for a section, apart from those that are set in. -/
def leads : SectionKind → List Text
  | .params => [":pa".toList, ":ty".toList]
  | .returns => [":re".toList, ":rt".toList]
  | .yields => [":yi".toList, ":yt".toList]
  | .raises => [":ra".toList]
  | .examples => [":Ex".toList]
  | .notes => [":No".toList]
  | .warnings => [":Wa".toList]
  | .seeAlso => [":Se".toList]
  | .references => [":Re".toList]

/-- How the lines start that give a type. -/
def typeLeads : List Text := [":ty".toList, ":rt".toList, ":yt".toList]

/-- No line starts in two ways. -/
theorem lead_eq {lead other : Text} (hlead : lead <+: line) (hother : other <+: line)
    (hlength : lead.length = other.length) : lead = other :=
  (List.prefix_of_prefix_length_le hlead hother hlength.le).eq_of_length hlength

/-- A field for the type of a parameter or of a value. -/
def Marker.givesType : Marker → Bool
  | .paramType _ | .returnType | .yieldType => true
  | _ => false

/-- How the line of a field on a value or for a type starts. -/
def Marker.lead? : Marker → Option Text
  | .paramType _ => some ":ty".toList
  | .returns => some ":re".toList
  | .returnType => some ":rt".toList
  | .yields => some ":yi".toList
  | .yieldType => some ":yt".toList
  | _ => none

theorem prefix_of_field? {name : Text} (h : field? line = some (name, text)) : ':' :: name <+: line := by
  unfold field? at h
  split at h
  · rename_i c rest
    split at h
    · cases h
    · rename_i hc
      split at h
      · rename_i found after hcut
        obtain ⟨body, _, hpair⟩ := Option.map_eq_some_iff.mp h
        cases hpair
        obtain ⟨x, hx, hrest, -⟩ := eq_of_cutAt? hcut
        obtain ⟨hcolon, hspace⟩ : c ≠ ':' ∧ isSpace c = false := by simpa using hc
        cases found with
        | nil => exact absurd ((List.cons.inj hrest).1.trans (by simpa using hx)) hcolon
        | cons first found =>
          obtain ⟨rfl, rfl⟩ := List.cons.inj hrest
          have htrim : trim (c :: found) = trimEnd (c :: found) := by
            rw [trim, trimStart, List.dropWhile_cons_of_neg (by simp [hspace])]
          rw [htrim]
          refine List.cons_prefix_cons.mpr ⟨rfl, (List.rdropWhile_prefix isSpace _).trans ?_⟩
          exact List.prefix_append (c :: found) (x :: after)
      · cases h
  · cases h

theorem exists_of_isOneOf {t : Text} {words : List String} (h : isOneOf t words = true) :
    ∃ word ∈ words, word.toList = t := by
  simpa [isOneOf] using h

theorem prefix_of_classifyField {name lead : Text} (h : (classifyField name).lead? = some lead) :
    lead <+: ':' :: name := by
  have hwords : ∀ {words : List String}, isOneOf name words = true →
      (∀ word ∈ words, lead <+: ':' :: word.toList) → lead <+: ':' :: name := by
    intro words hone hall
    obtain ⟨word, hword, rfl⟩ := exists_of_isOneOf hone
    exact hall word hword
  unfold classifyField at h
  split at h
  · cases h
  · split at h
    · rename_i keyword argument hcut
      obtain ⟨x, -, rfl, -⟩ := eq_of_cutAt? hcut
      unfold fieldWithArgument at h
      split_ifs at h with _ _ htype
      all_goals cases h
      obtain ⟨word, hword, rfl⟩ := exists_of_isOneOf htype
      obtain rfl := List.mem_singleton.mp hword
      exact (show ":ty".toList <+: ':' :: "type".toList by decide).trans
        (List.prefix_append (':' :: "type".toList) (x :: argument))
    · unfold fieldAlone at h
      split_ifs at h with hreturns hreturnType hyields hyieldType
      · cases h
        exact hwords hreturns (by decide)
      · cases h
        exact hwords hreturnType (by decide)
      · cases h
        exact hwords hyields (by decide)
      · cases h
        exact hwords hyieldType (by decide)
      all_goals cases h

/-- A line that opens such a field starts with its lead. -/
theorem prefix_of_classify {m : Marker} {lead : Text} (h : classify line = some (m, text))
    (hlead : m.lead? = some lead) : lead <+: line := by
  unfold classify at h
  split at h
  · rename_i name body hfield
    cases h
    exact (prefix_of_classifyField hlead).trans (prefix_of_field? hfield)
  · obtain ⟨⟨name, body⟩, _, hpair⟩ := Option.map_eq_some_iff.mp h
    cases hpair
    simp only [classifyDirective] at hlead
    split_ifs at hlead <;> cases hlead

theorem exists_lead_of_opened (hkind : kind = .returns ∨ kind = .yields)
    (h : openedAt? [line] = some kind) : ∃ lead ∈ leads kind, lead <+: line := by
  obtain ⟨⟨m, text⟩, hclassify, hsection⟩ := Option.bind_eq_some_iff.mp h
  have htext := opensText_classify hclassify
  cases m
  case returns | returnType | yields | yieldType =>
    cases hsection
    exact ⟨_, by simp [leads], prefix_of_classify hclassify rfl⟩
  case block | directive =>
    cases hsection
    exact absurd rfl (htext.ne_value hkind (by simp))
  all_goals
    rcases hkind with rfl | rfl <;> cases hsection

theorem field?_of_givesType {m : Marker} (h : classify line = some (m, text))
    (hm : m.givesType = true) : (field? line).isSome = true := by
  unfold classify at h
  split at h
  · rename_i hfield
    rw [hfield]
    rfl
  · obtain ⟨⟨name, body⟩, _, hpair⟩ := Option.map_eq_some_iff.mp h
    cases hpair
    simp only [classifyDirective] at hm
    split_ifs at hm <;> cases hm

theorem exists_lead_of_givesType {m : Marker} (h : classify line = some (m, text))
    (hm : m.givesType = true) : ∃ lead ∈ typeLeads, lead <+: line := by
  cases m
  case paramType | returnType | yieldType =>
    exact ⟨_, by simp [typeLeads], prefix_of_classify h rfl⟩
  all_goals cases hm

/-! ## Reading -/

/-- What stands beside the first word of a field. -/
def Marker.argument? : Marker → Option Text
  | .param _ argument | .paramType argument => some argument
  | .raises exception => exception
  | _ => none

theorem argument_subset {name : Text} : ∀ t ∈ (classifyField name).argument?, t ⊆ name := by
  unfold classifyField
  split
  · simp [Marker.argument?]
  · split
    · rename_i keyword argument hcut
      obtain ⟨c, -, rfl, -⟩ := eq_of_cutAt? hcut
      have hargument : trim argument ⊆ keyword ++ c :: argument := fun x hx => by
        simp [mem_of_mem_trim hx]
      unfold fieldWithArgument
      split_ifs <;> simp only [Marker.argument?, Option.mem_def, Option.some.injEq, reduceCtorEq] <;>
        simp [hargument]
    · unfold fieldAlone
      split_ifs <;> simp [Marker.argument?]

theorem newline_notMem_argument {m : Marker} (h : classify line = some (m, text)) (hn : '\n' ∉ line) :
    ∀ t ∈ m.argument?, '\n' ∉ t := by
  unfold classify at h
  split at h
  · rename_i name body hfield
    cases h
    intro t ht hmem
    have hname : '\n' ∈ ':' :: name := List.mem_cons_of_mem _ (argument_subset t ht hmem)
    exact hn ((prefix_of_field? hfield).subset hname)
  · obtain ⟨⟨name, body⟩, _, hpair⟩ := Option.map_eq_some_iff.mp h
    cases hpair
    unfold classifyDirective
    dsimp only
    split_ifs <;> simp [Marker.argument?]

/-- Names and exceptions are on one line each, and types are as some are. -/
structure IsRead (Q : Text → Prop) (d : Document) : Prop where
  params : ∀ p ∈ d.parameters, '\n' ∉ p.name ∧ ∀ t ∈ p.type, Q t
  returns : ∀ doc ∈ d.returns, ∀ t ∈ doc.type, Q t
  yields : ∀ doc ∈ d.yields, ∀ t ∈ doc.type, Q t
  raises : ∀ r ∈ d.raises, '\n' ∉ r.exception

theorem subset_of_cutAtLast? {p : Char → Bool} {t left right : Text}
    (h : cutAtLast? p t = some (left, right)) : left ⊆ t ∧ right ⊆ t := by
  induction t generalizing left right with
  | nil => cases h
  | cons c t ih =>
    rw [cutAtLast?] at h
    split at h
    · rename_i left' right' hcut
      cases h
      obtain ⟨hleft, hright⟩ := ih hcut
      exact ⟨List.cons_subset_cons c hleft, List.subset_cons_of_subset c hright⟩
    · split at h
      · cases h
        exact ⟨List.nil_subset _, List.subset_cons_self c t⟩
      · cases h

section Reading

variable {Q : Text → Prop}

theorem newline_notMem_splitName {raw : Text} (h : '\n' ∉ raw) : '\n' ∉ (ParamKind.splitName raw).2 :=
  fun hmem => h (ParamKind.splitName_subset raw hmem)

theorem isRead_addParam {paramKind : ParamKind} {argument : Text} {said : Option Text}
    (hone : ∀ t : Text, '\n' ∉ t → Q t) (hargument : '\n' ∉ argument)
    (h : addParam d paramKind argument said = .ok d') (hd : IsRead Q d) : IsRead Q d' := by
  have hnew : ∀ p : Parameter, ('\n' ∉ p.name ∧ ∀ t ∈ p.type, Q t) → IsRead Q (d.addParameter p) := by
    intro p hp
    refine ⟨Document.forall_addParameter (fun q hq => ⟨hq.1, fun t ht => ?_⟩) hd.params hp, ?_, ?_, ?_⟩
    · exact (Option.or_eq_some_iff.mp ht).elim (hq.2 t) fun hlater => hp.2 t hlater.2
    · exact fun doc hdoc => hd.returns doc ((d.value_addParameter .returns p).symm.trans hdoc)
    · exact fun doc hdoc => hd.yields doc ((d.value_addParameter .yields p).symm.trans hdoc)
    · rw [Document.raises_addParameter]
      exact hd.raises
  unfold addParam at h
  split at h
  rename_i type raw hpair
  have hparts : '\n' ∉ raw ∧ ∀ t ∈ type, Q t := by
    split at hpair
    · rename_i left right hcut
      obtain ⟨hleft, hright⟩ := subset_of_cutAtLast? hcut
      cases hpair
      refine ⟨fun hmem => hargument (hright hmem), ?_⟩
      rintro _ ⟨⟩
      exact hone _ fun hmem => hargument (hleft (mem_of_mem_trim hmem))
    · cases hpair
      exact ⟨hargument, by simp⟩
  dsimp only at h
  split at h
  · cases h
  · cases h
    exact hnew _ ⟨newline_notMem_splitName hparts.1, hparts.2⟩

theorem isRead_setParamType {raw : Text} {type : Option Text} (hraw : '\n' ∉ raw)
    (htype : ∀ t ∈ type, Q t) (hd : IsRead Q d) : IsRead Q (setParamType d raw type) := by
  unfold setParamType
  dsimp only
  split
  · exact ⟨Document.forall_updateFirst (fun q hq => ⟨hq.1, htype⟩) hd.params, hd.returns, hd.yields,
      hd.raises⟩
  · exact ⟨List.forall_mem_append.mpr ⟨hd.params, List.forall_mem_singleton.mpr
      ⟨newline_notMem_splitName hraw, htype⟩⟩, hd.returns, hd.yields, hd.raises⟩

theorem isRead_addFreeText? {said : Option Text} (hd : IsRead Q d) :
    IsRead Q (d.addFreeText? kind said) := by
  refine ⟨?_,
    fun doc hdoc => hd.returns doc ((d.value_addFreeText? .returns kind said).symm.trans hdoc),
    fun doc hdoc => hd.yields doc ((d.value_addFreeText? .yields kind said).symm.trans hdoc), ?_⟩
  · rw [Document.parameters_addFreeText?]
    exact hd.params
  · rw [Document.raises_addFreeText?]
    exact hd.raises

theorem newline_notMem_namedRaise (t : Text) : '\n' ∉ (namedRaise t).exception := by
  have hspace : isSpace '\n' = true := by decide
  unfold namedRaise
  split
  · rename_i type rest hcut
    obtain ⟨c, -, -, hnone⟩ := eq_of_cutAt? hcut
    exact fun hmem => Bool.noConfusion (hspace.symm.trans (hnone _ hmem))
  · rename_i hcut
    intro hmem
    obtain ⟨above, below, rfl⟩ := List.append_of_mem hmem
    obtain ⟨_, _, hsome, _⟩ := exists_cutAt?_newline above below
    rw [hcut] at hsome
    cases hsome

theorem forall_type_setDescription {doc : Option ReturnDoc} {said : Option Text}
    (hold : ∀ old ∈ doc, ∀ t ∈ old.type, Q t) : ∀ new ∈ setDescription doc said, ∀ t ∈ new.type, Q t := by
  rintro _ ⟨⟩ t ht
  cases doc with
  | none => cases ht
  | some old => exact hold old rfl t ht

theorem forall_type_setType {doc : Option ReturnDoc} {said : Option Text} (hsaid : ∀ t ∈ said, Q t) :
    ∀ new ∈ setType doc said, ∀ t ∈ new.type, Q t := by
  rintro _ ⟨⟩
  exact hsaid

theorem IsRead.raise {entry : RaiseEntry} (hd : IsRead Q d) (hentry : '\n' ∉ entry.exception) :
    IsRead Q { d with raises := d.raises ++ [entry] } :=
  ⟨hd.params, hd.returns, hd.yields, List.forall_mem_append.mpr
    ⟨hd.raises, List.forall_mem_singleton.mpr hentry⟩⟩

theorem isRead_addField {f : Field} (hone : ∀ t : Text, '\n' ∉ t → Q t)
    (hargument : ∀ t ∈ f.marker.argument?, '\n' ∉ t)
    (hsaid : f.marker.givesType = true → ∀ t ∈ f.said, Q t)
    (h : addField d f = .ok d') (hd : IsRead Q d) : IsRead Q d' := by
  cases hmarker : f.marker <;> simp only [addField, hmarker] at h hargument hsaid
  case param paramKind argument => exact isRead_addParam hone (hargument _ rfl) h hd
  case paramType raw =>
    cases h
    exact isRead_setParamType (hargument _ rfl) (hsaid rfl) hd
  case returns =>
    cases h
    exact ⟨hd.params, forall_type_setDescription hd.returns, hd.yields, hd.raises⟩
  case returnType =>
    cases h
    exact ⟨hd.params, forall_type_setType (hsaid rfl), hd.yields, hd.raises⟩
  case yields =>
    cases h
    exact ⟨hd.params, hd.returns, forall_type_setDescription hd.yields, hd.raises⟩
  case yieldType =>
    cases h
    exact ⟨hd.params, hd.returns, forall_type_setType (hsaid rfl), hd.raises⟩
  case raises exception =>
    cases exception with
    | some exception =>
      cases h
      exact hd.raise (hargument _ rfl)
    | none =>
      dsimp only at h
      split at h
      · cases h
        exact hd.raise (newline_notMem_namedRaise _)
      · cases h
  case block opened =>
    cases opened
    case examples =>
      cases h
      exact ⟨hd.params, hd.returns, hd.yields, hd.raises⟩
    all_goals
      cases h
      exact isRead_addFreeText? hd
  case directive opened =>
    cases h
    exact isRead_addFreeText? hd
  case unknownField | unknownDirective => cases h

end Reading

/-! ## Types on several lines -/

/-- A line of ink below the first one of a text. -/
def IsLater (t : Text) (line : Line) : Prop := line ∈ laterLines t ∧ isBlank line = false

theorem not_isLater {t : Text} (hn : '\n' ∉ t) (line : Line) : ¬IsLater t line := by
  simp [IsLater, laterLines, splitLines_of_notMem hn]

/-- Lines that are set in lose columns that they all have. -/
theorem exists_dedentBy_pos {columns : Nat} {body : List Line} (hcolumns : 0 < columns)
    (hset : ∀ raw ∈ body, isBlank raw = false → 0 < indentWidth raw) :
    ∃ k, 0 < k ∧ dedentBy columns body = body.map (unindent k) ∧
      ∀ raw ∈ body, isBlank raw = false → k ≤ indentWidth raw := by
  unfold dedentBy
  split
  · rename_i hall
    exact ⟨columns, hcolumns, rfl, fun raw hraw hink => by
      simpa [hink] using List.all_eq_true.mp hall raw hraw⟩
  · rename_i hnot
    let widths := (body.filter fun raw => !isBlank raw).map indentWidth
    have hmem : ∀ raw ∈ body, isBlank raw = false → indentWidth raw ∈ widths := fun raw hraw hink =>
      List.mem_map_of_mem (List.mem_filter.mpr ⟨hraw, by simp [hink]⟩)
    obtain ⟨raw, hraw, hink, -⟩ : ∃ raw ∈ body, isBlank raw = false ∧ indentWidth raw < columns := by
      simpa using hnot
    obtain ⟨k, hk⟩ : ∃ k, widths.min? = some k :=
      Option.ne_none_iff_exists'.mp fun hnone =>
        List.ne_nil_of_mem (hmem raw hraw hink) (List.min?_eq_none_iff.mp hnone)
    obtain ⟨hleast, hle⟩ := List.min?_eq_some_iff.mp hk
    refine ⟨k, ?_, ?_, fun raw hraw hink => hle _ (hmem raw hraw hink)⟩
    · obtain ⟨least, hfilter, rfl⟩ := List.mem_map.mp hleast
      obtain ⟨hbody, hink⟩ := List.mem_filter.mp hfilter
      exact hset least hbody (by simpa using hink)
    · rw [dedent, commonIndent?, hk]
      rfl

/-- A type is read from longer lines than it has below its first one. -/
theorem exists_longer {lines : List Line} {f : Field} (hat : f.At lines)
    (hclean : ∀ l ∈ lines, IsClean l) (htype : f.marker.givesType = true) :
    ∀ t ∈ f.said, ∀ line, IsLater t line →
      ∃ raw ∈ f.body, isBlank raw = false ∧ line.length < raw.length := by
  rintro t ht line ⟨hline, hink⟩
  have hbody : ∀ raw ∈ f.body, IsClean raw := fun raw hraw =>
    hclean raw (List.mem_of_mem_drop (hat.body.subset hraw))
  have hset : ∀ raw ∈ f.body, isBlank raw = false → 0 < indentWidth raw := by
    intro raw hraw hraw'
    have htakes := hat.taken raw hraw
    unfold Field.takes at htakes
    rw [if_neg (by rintro h; rw [h] at htype; cases htype)] at htakes
    simpa [hraw'] using htakes
  obtain ⟨first, hfirst, hclassify⟩ := Option.bind_eq_some_iff.mp hat.marker
  have htext : '\n' ∉ f.text :=
    newline_notMem_of_field? (hclean first (List.mem_of_getElem? hfirst)).newline hclassify
      (field?_of_givesType hclassify htype)
  have hindent : 0 < bodyIndent := by decide
  obtain ⟨k, hpos, hdedent, hk⟩ := exists_dedentBy_pos hindent hset
  have hbelow := tail_subset_of_description? htext
    (fun l hl => isClean_of_mem_dedentBy hbody hl) ht hline
  rw [hdedent] at hbelow
  obtain ⟨raw, hraw, rfl⟩ := List.mem_map.mp hbelow
  rw [isBlank_unindent] at hink
  refine ⟨raw, hraw, hink, ?_⟩
  rw [unindent, if_neg (by simp [hink])]
  have hlength := congrArg List.length (spaces_append_stripColumns (hbody raw hraw) (hk raw hraw hink))
  rw [List.length_append, spaces, List.length_replicate] at hlength
  omega

theorem isRead_finish {Q : Text → Prop} {p : Progress} (h : IsRead Q p.document) :
    IsRead Q p.finish := by
  unfold Progress.finish
  split
  · exact ⟨h.params, h.returns, h.yields, h.raises⟩
  · exact h

/-- The lines of ink below the first line of a text are shorter than some below a field for a type. -/
def IsOutgrown (fields : List Field) (t : Text) : Prop :=
  ∀ line, IsLater t line → ∃ f ∈ fields, f.marker.givesType = true ∧
    ∃ raw ∈ f.body, isBlank raw = false ∧ line.length < raw.length

namespace ReadFrom

variable {n : Nat} {fields : List Field} {p : Progress}

theorem isRead (h : ReadFrom text d n fields p) : IsRead (IsOutgrown fields) d := by
  rw [h.finished]
  refine isRead_finish (foldlM_induction_mem (P := fun q => IsRead (IsOutgrown fields) q.document)
    (fun q f hf q' hadd hq => ?_) h.added ⟨by simp [Head.document], by simp [Head.document],
      by simp [Head.document], by simp [Head.document]⟩)
  have hat := h.laid.stands f hf
  have hclean := (isNormal_normalLines text).clean
  obtain ⟨line, hline, hclassify⟩ := Option.bind_eq_some_iff.mp hat.marker
  obtain ⟨before, hfield, hor⟩ := add_cases hadd
  have hbefore : IsRead (IsOutgrown fields) before := by
    rcases hor with ⟨rfl, _⟩ | ⟨rfl, _⟩
    · exact hq
    · exact isRead_finish hq
  exact isRead_addField (fun t hn l hl => absurd hl (not_isLater hn l))
    (newline_notMem_argument hclassify (hclean line (List.mem_of_getElem? hline)).newline)
    (fun htype t ht l hl => ⟨f, hf, htype, exists_longer hat hclean htype t ht l hl⟩) hfield hbefore

end ReadFrom

end Docstring.Rest
