-- Which lines of a document that was read from a Google-style docstring start with ink when it is
-- written: below its head, the headers of its sections and no others. A line that opens a section opens
-- the one that it is written for.
import Docstring.Proofs.Document.Canonical
import Docstring.Proofs.Google.Value

namespace Docstring.Google

open Text

/-! ## Reading -/

/-- What stands at the start of an entry of a document is on one line. -/
structure IsFlat (d : Document) : Prop where
  params : ∀ p ∈ d.parameters, '\n' ∉ p.name ∧ ∀ t ∈ p.type, '\n' ∉ t
  raises : ∀ r ∈ d.raises, '\n' ∉ r.exception

theorem head_mem_of_addLine {body : List Line} {found found' : List Entry} {line : Line}
    (hline : line ∈ body) (h : addLine found line = .ok found') (hfound : ∀ e ∈ found, e.head ∈ body) :
    ∀ e ∈ found', e.head ∈ body := by
  rcases addLine_cases h with ⟨_, rfl⟩ | ⟨init, last, rfl, rfl⟩ | ⟨_, rfl⟩
  · exact List.forall_mem_append.mpr ⟨hfound, List.forall_mem_singleton.mpr hline⟩
  · obtain ⟨hinit, hlast⟩ := List.forall_mem_append.mp hfound
    exact List.forall_mem_append.mpr ⟨hinit, List.forall_mem_singleton.mpr (hlast last (by simp))⟩
  · exact hfound

theorem head_mem_of_entries {body : List Line} {found : List Entry} (h : entries body = .ok found) :
    ∀ e ∈ found, e.head ∈ body := by
  unfold entries at h
  cases hraw : body.foldlM addLine [] with
  | error error => rw [hraw] at h; cases h
  | ok raw =>
    rw [hraw] at h
    cases h
    have hheads := foldlM_induction_mem (P := fun found => ∀ e ∈ found, e.head ∈ body)
      (fun _ _ hline _ => head_mem_of_addLine hline) hraw (by simp)
    intro e he
    obtain ⟨raw, hraw, rfl⟩ := List.mem_map.mp he
    exact hheads raw hraw

theorem left_subset_of_cutAtClose? {depth : Nat} {t left right : Text}
    (h : cutAtClose? depth t = some (left, right)) : left ⊆ t := by
  induction t generalizing depth left with
  | nil => cases h
  | cons c t ih =>
    rw [cutAtClose?] at h
    split at h
    · split at h
      · cases h
        exact List.nil_subset _
      · cases h
    · obtain ⟨⟨inner, right'⟩, hcut, hpair⟩ := Option.map_eq_some_iff.mp h
      cases hpair
      exact List.cons_subset_cons c (ih hcut)

/-- The name and the type of a parameter stand in its first line. -/
theorem subset_of_paramHead? {line : Line} {head : ParamHead} (h : paramHead? line = some head) :
    head.name ⊆ line ∧ ∀ t ∈ head.type, t ⊆ line := by
  have hname : (line.takeWhile fun c => !endsName c) ⊆ line := (List.takeWhile_prefix _).subset
  have hrest : trimStart (line.dropWhile fun c => !endsName c) ⊆ line :=
    ((List.dropWhile_suffix _).trans (List.dropWhile_suffix _)).subset
  unfold paramHead? at h
  dsimp only at h
  split at h
  · cases h
  · split at h
    · rename_i inner hinner
      split at h
      · rename_i type after hcut
        split at h
        · cases h
          refine ⟨hname, ?_⟩
          rintro _ ⟨⟩ c hc
          rw [hinner] at hrest
          exact hrest (List.mem_cons_of_mem _ (left_subset_of_cutAtClose? hcut (mem_of_mem_trim hc)))
        · cases h
      · cases h
    · cases h
      exact ⟨hname, by simp⟩
    · cases h

theorem isFlat_addParam {keywordOnly : Bool} {d d' : Document} {e : Entry} (he : '\n' ∉ e.head)
    (h : addParam keywordOnly d e = .ok d') (hd : IsFlat d) : IsFlat d' := by
  unfold addParam at h
  split at h
  · cases h
  · rename_i head hhead
    cases h
    obtain ⟨hname, htype⟩ := subset_of_paramHead? hhead
    have hflat : ∀ t ∈ head.type, '\n' ∉ t := fun t ht hmem => he (htype t ht hmem)
    refine ⟨Document.forall_addParameter (fun q hq => ⟨hq.1, fun t ht => ?_⟩) hd.params
      ⟨fun hmem => he (hname (ParamKind.splitName_subset head.name hmem)), hflat⟩, ?_⟩
    · rcases Option.or_eq_some_iff.mp ht with hold | ⟨_, hnew⟩
      · exact hq.2 t hold
      · exact hflat t hnew
    · rw [Document.raises_addParameter]
      exact hd.raises

theorem isFlat_addRaise {d d' : Document} {e : Entry} (he : '\n' ∉ e.head)
    (h : addRaise d e = .ok d') (hd : IsFlat d) : IsFlat d' := by
  have hadd : ∀ (exception : Text) (description : Option Text), '\n' ∉ exception →
      IsFlat { d with raises := d.raises ++ [⟨exception, description⟩] } := fun _ _ hn =>
    ⟨hd.params, List.forall_mem_append.mpr ⟨hd.raises, List.forall_mem_singleton.mpr hn⟩⟩
  have htrim : ∀ t : Text, t ⊆ e.head → '\n' ∉ trim t :=
    fun t ht hmem => he (ht (mem_of_mem_trim hmem))
  unfold addRaise at h
  split at h
  · rename_i left right hcut
    cases h
    exact hadd _ _ (htrim left (by simp [eq_append_of_cutAtColonFrom? hcut]))
  · split at h
    · cases h
    · cases h
      exact hadd _ _ (htrim e.head (List.Subset.refl _))

theorem isFlat_addBlock {d d' : Document} {b : Block} (hbody : ∀ line ∈ b.body, '\n' ∉ line)
    (h : addBlock d b = .ok d') (hd : IsFlat d) : IsFlat d' := by
  have hentries : ∀ found, entries (dedentBy bodyIndent b.body) = .ok found →
      ∀ e ∈ found, '\n' ∉ e.head := by
    intro found hfound e he
    obtain ⟨k, hk⟩ := exists_dedentBy bodyIndent b.body
    have hmem := head_mem_of_entries hfound e he
    rw [hk] at hmem
    obtain ⟨line, hline, hhead⟩ := List.mem_map.mp hmem
    exact hhead ▸ newline_notMem_unindent k (hbody line hline)
  unfold addBlock at h
  cases hkind : b.kind <;> simp only [hkind] at h
  case params =>
    obtain ⟨found, hfound, hfold⟩ := addEntries_cases h
    exact foldlM_induction_mem (fun _ e he _ => isFlat_addParam (hentries found hfound e he)) hfold
      ⟨hd.params, hd.raises⟩
  case raises =>
    obtain ⟨found, hfound, hfold⟩ := addEntries_cases h
    exact foldlM_induction_mem (fun _ e he _ => isFlat_addRaise (hentries found hfound e he)) hfold
      ⟨hd.params, hd.raises⟩
  case returns | yields | examples =>
    cases h
    exact ⟨hd.params, hd.raises⟩
  all_goals
    cases h
    refine ⟨?_, ?_⟩
    · rw [Document.parameters_addFreeText?]
      exact hd.params
    · rw [Document.raises_addFreeText?]
      exact hd.raises

variable {text : Text} {d : Document} {kind : SectionKind}

theorem isFlat_parse (h : parse text = .ok d) : IsFlat d := by
  obtain ⟨n, blocks, hfold, hdivides⟩ := exists_divides h
  refine foldlM_induction_mem (fun _ b hb _ => isFlat_addBlock fun line hline => ?_) hfold
    ⟨by simp [Head.document], by simp [Head.document]⟩
  have hstands := hdivides.stands _ (List.mem_map_of_mem hb)
  exact ((isNormal_normalLines text).clean line (List.mem_of_mem_drop (hstands.subset hline))).newline

/-- The type of a value is on one line. -/
theorem newline_notMem_valueType (hkind : kind = .returns ∨ kind = .yields) (h : parse text = .ok d)
    {doc : ReturnDoc} (hdoc : d.value kind = some doc) : ∀ t ∈ doc.type, '\n' ∉ t := by
  rcases value_parse hkind h with ⟨i, body, _, hstands, _, hvalue⟩ | ⟨_, hnone⟩
  · rw [hvalue] at hdoc
    obtain rfl := Option.some.inj hdoc
    have hclean : ∀ line ∈ dedentBy bodyIndent body, IsClean line := fun line =>
      isClean_of_mem_dedentBy fun l hl =>
        (isNormal_normalLines text).clean l (List.mem_of_mem_drop (hstands.subset hl))
    intro t ht hmem
    unfold returnDoc at ht
    split at ht
    · cases ht
    · rename_i first rest hlines
      have hfirst : '\n' ∉ first := (hclean first
        ((isInfix_trimBlankLines _).subset (by rw [hlines]; simp))).newline
      dsimp only at ht
      split at ht
      · rename_i left right hcut
        split at ht
        · obtain rfl := Option.some.inj ht
          exact hfirst (by simp [eq_append_of_cutAtColonFrom? hcut, mem_of_mem_trim hmem])
        · cases ht
      · cases ht
  · rw [hnone] at hdoc
    cases hdoc

/-! ## Writing -/

section Writing

variable {entries : List (List Line)}

theorem isSetIn_underHeader (h : ∀ entry ∈ entries, ∀ line ∈ entry, IsSetIn line) :
    ∀ line ∈ underHeader kind entries, line = headerLine kind ∨ IsSetIn line := by
  intro line hline
  unfold underHeader at hline
  split at hline
  · cases hline
  · refine (List.mem_cons.mp hline).imp_right fun hline => ?_
    obtain ⟨entry, hentry, hline⟩ := List.mem_flatten.mp hline
    exact h entry hentry line hline

theorem isSetIn_eachUnderHeader (h : ∀ entry ∈ entries, ∀ line ∈ entry, IsSetIn line) :
    ∀ line ∈ eachUnderHeader kind entries, line = headerLine kind ∨ IsSetIn line := by
  intro line hline
  rcases Layout.mem_separate hline with rfl | ⟨block, hblock, hline⟩
  · exact .inr isSetIn_nil
  · obtain ⟨entry, hentry, rfl⟩ := List.mem_map.mp hblock
    exact (List.mem_cons.mp hline).imp_right (h entry hentry line)

theorem isSetIn_returnLines {doc : ReturnDoc} (htype : ∀ t ∈ doc.type, '\n' ∉ t) (width : Nat) :
    ∀ line ∈ returnLines width doc, IsSetIn line := by
  intro line hline
  unfold returnLines at hline
  dsimp only at hline
  split at hline
  · rename_i type hsome
    exact Layout.isSetIn_of_mem_hanging (by decide) (by simp [htype type hsome]) (by decide) hline
  · split at hline
    · cases hline
    · exact Layout.isSetIn_of_mem_hanging (by decide) (by simp) (by decide) hline

theorem newline_notMem_paramLead {p : Parameter} (hname : '\n' ∉ p.name)
    (htype : ∀ t ∈ p.type, '\n' ∉ t) : '\n' ∉ paramLead p := by
  have hdisplay : '\n' ∉ p.display := by
    unfold Parameter.display ParamKind.stars
    split <;> simp [hname]
  unfold paramLead
  split
  · rename_i type hsome
    simp [hdisplay, htype type hsome]
  · simp [hdisplay]

/-- Every line of a section that is written is its header or set in. -/
theorem isSetIn_sectionLines (h : parse text = .ok d) (width : Nat) :
    ∀ line ∈ sectionLines d kind width, line = headerLine kind ∨ IsSetIn line := by
  have hflat := isFlat_parse h
  have hvalue : ∀ {kind : SectionKind}, kind = .returns ∨ kind = .yields →
      ∀ entry ∈ (d.value kind).toList.map (returnLines width), ∀ line ∈ entry, IsSetIn line := by
    intro kind hkind entry hentry
    obtain ⟨doc, hdoc, rfl⟩ := List.mem_map.mp hentry
    exact isSetIn_returnLines (newline_notMem_valueType hkind h (Option.mem_toList.mp hdoc)) width
  cases kind
  case params =>
    refine isSetIn_underHeader fun entry hentry line hline => ?_
    obtain ⟨p, hp, rfl⟩ := List.mem_map.mp hentry
    obtain ⟨hname, htype⟩ := hflat.params p hp
    exact Layout.isSetIn_of_mem_hanging (by decide) (newline_notMem_paramLead hname htype)
      (by decide) hline
  case returns => exact isSetIn_underHeader (hvalue (.inl rfl))
  case yields => exact isSetIn_underHeader (hvalue (.inr rfl))
  case raises =>
    refine isSetIn_underHeader fun entry hentry line hline => ?_
    obtain ⟨r, hr, rfl⟩ := List.mem_map.mp hentry
    exact Layout.isSetIn_of_mem_hanging (by decide) (by simp [hflat.raises r hr]) (by decide) hline
  case examples =>
    refine isSetIn_eachUnderHeader fun entry hentry line hline => ?_
    obtain ⟨t, _, rfl⟩ := List.mem_map.mp hentry
    exact Layout.isSetIn_of_mem_verbatim (by decide) hline
  case notes | warnings | seeAlso | references =>
    refine isSetIn_eachUnderHeader fun entry hentry line hline => ?_
    obtain ⟨t, _, rfl⟩ := List.mem_map.mp hentry
    exact Layout.isSetIn_of_mem_wrapProse (by decide) hline

/-- A line that opens a section is the header of the one that it is written for. -/
theorem kind_of_opened {other : SectionKind} {line : Line} {width : Nat} (h : parse text = .ok d)
    (hline : line ∈ Layout.brokenUp (sectionLines d kind width))
    (hopens : openedAt? [line] = some other) : other = kind := by
  have hlines := @isSetIn_sectionLines _ _ kind h width
  rw [Layout.brokenUp_of_newline fun l hl => ?_] at hline
  · rcases hlines line hline with rfl | hsetIn
    · simpa [openedAt?, header?_headerLine] using hopens.symm
    · obtain ⟨_, hheader⟩ := header?_of_openedAt? hopens
      exact absurd (opensWithInk_of_header? hheader) (Bool.eq_false_iff.mp hsetIn.2)
  · rcases hlines l hl with rfl | hsetIn
    · cases kind <;> decide
    · exact hsetIn.1

end Writing

/-! ## The head -/

theorem headWords_addBlock {d d' : Document} {b : Block} (h : addBlock d b = .ok d') :
    d'.headWords = d.headWords := by
  unfold addBlock at h
  cases hkind : b.kind <;> simp only [hkind] at h
  case params =>
    obtain ⟨found, _, hfold⟩ := addEntries_cases h
    refine (foldlM_unchanged Document.headWords (fun d e d' he => ?_) hfold).trans rfl
    obtain ⟨p, _, rfl, _⟩ := addParam_cases he
    exact d.headWords_addParameter p
  case raises =>
    obtain ⟨found, _, hfold⟩ := addEntries_cases h
    refine (foldlM_unchanged Document.headWords (fun d e d' he => ?_) hfold).trans rfl
    obtain ⟨_, _, rfl⟩ := addRaise_cases he
    rfl
  case returns | yields | examples =>
    cases h
    rfl
  all_goals
    cases h
    exact Document.headWords_addFreeText? _ _ _

/-- No section is opened in the lines that are written for the head. -/
theorem length_writtenHead_le {old below : List Line} {width i : Nat}
    (hwritten : Layout.IsWritten d width old below) (h : parse (joinLines old) = .ok d)
    (hopens : opener.at? (normalLines (joinLines old)) i = some kind) :
    (Layout.writtenHead d width).length ≤ i := by
  obtain ⟨line, hline, hink, _⟩ := Opener.at?_eq_some hopens
  rw [at?_opener] at hopens
  exact hwritten.length_le_of_mark lawful_walk
    (Walk.wordCount_head (fun _ => rfl) (fun _ _ _ => headWords_addBlock)
      ((parse_eq_read _).symm.trans h))
    (atHeader_of_openedAt? hopens) hline (not_blank_of_opensWithInk hink)

end Docstring.Google
