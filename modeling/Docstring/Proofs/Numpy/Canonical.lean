-- What is read from a canonical NumPy-style docstring is written with all of its words. A section that
-- took the place of another one would lose some, so there is one section at most on each value.
import Docstring.Proofs.Numpy.Counted
import Docstring.Proofs.Text.Search

namespace Docstring

open Text

/-- Of two different items of a list, one stands above the other. -/
theorem exists_repeated {α : Type} {P : α → Prop} {items : List α} {a b : α} (ha : a ∈ items)
    (hb : b ∈ items) (hne : a ≠ b) (hpa : P a) (hpb : P b) :
    ∃ above item below, items = above ++ item :: below ∧ P item ∧ ∃ other ∈ above, P other := by
  obtain ⟨above, below, rfl⟩ := List.append_of_mem ha
  rcases List.mem_append.mp hb with hb | hb
  · exact ⟨above, a, below, rfl, hpa, b, hb, hpb⟩
  · obtain ⟨between, rest, rfl⟩ := List.append_of_mem ((List.mem_cons.mp hb).resolve_left hne.symm)
    exact ⟨above ++ a :: between, b, rest, by simp, hpb, a, by simp, hpa⟩

namespace Numpy

variable {d d' : Document} {kind : SectionKind} {width : Nat}

/-! ## Reading parameters -/

/-- A parameter that is written on a line of its own, which does not start with a dash. -/
structure IsFlat (p : Parameter) : Prop where
  name : isIdentifier p.name = true
  type : ∀ t ∈ p.type, '\n' ∉ t
  default : ∀ t ∈ p.default, '\n' ∉ t

theorem IsFlat.merge {p q : Parameter} (hp : IsFlat p) (hq : IsFlat q) : IsFlat (p.merge q) where
  name := hp.name
  type t ht := (Option.or_eq_some_iff.mp ht).elim (hp.type t) fun h => hq.type t h.2
  default t ht := (Option.or_eq_some_iff.mp ht).elim (hp.default t) fun h => hq.default t h.2

theorem eq_of_nonEmpty? {t value : Text} (h : nonEmpty? t = some value) : value = t := by
  unfold nonEmpty? at h
  split at h
  · cases h
  · exact (Option.some.inj h).symm

theorem suffix_of_bareDefault? {t value : Text} (h : bareDefault? t = some value) : value <:+ t := by
  obtain ⟨rest, hdrop, hvalue⟩ := Option.bind_eq_some_iff.mp h
  have hrest : rest <:+ t := ⟨_, (eq_append_of_dropPrefix? hdrop).symm⟩
  have htrim : trimStart rest <:+ t := (List.dropWhile_suffix _).trans hrest
  have hmarked : ∀ (mark : Char) (after : Text), trimStart rest = mark :: after → after <:+ t :=
    fun mark after hafter => (List.suffix_cons mark after).trans (hafter ▸ htrim)
  unfold defaultValue? at hvalue
  dsimp only at hvalue
  split at hvalue
  · rename_i found hfound
    cases hvalue
    split at hfound
    · exact eq_of_nonEmpty? hfound ▸ hmarked _ _ ‹_›
    · exact eq_of_nonEmpty? hfound ▸ hmarked _ _ ‹_›
    · cases hfound
  · split at hvalue
    · exact eq_of_nonEmpty? hvalue ▸ htrim
    · cases hvalue

theorem subset_of_cutAtDefault? {t type value : Text} (h : cutAtDefault? t = some (type, value)) :
    type ⊆ t ∧ value ⊆ t := by
  induction t generalizing type with
  | nil => cases h
  | cons c rest ih =>
    rw [cutAtDefault?] at h
    dsimp only at h
    split at h
    · rename_i found hfound
      cases h
      split at hfound
      · refine ⟨List.nil_subset _, fun x hx => List.mem_cons_of_mem _ ?_⟩
        exact (List.dropWhile_suffix _).subset ((suffix_of_bareDefault? hfound).subset hx)
      · cases hfound
    · obtain ⟨⟨left, right⟩, hcut, hpair⟩ := Option.map_eq_some_iff.mp h
      cases hpair
      obtain ⟨hleft, hright⟩ := ih hcut
      exact ⟨List.cons_subset_cons c hleft, fun x hx => List.mem_cons_of_mem c (hright hx)⟩

/-- The type and the default are parts of the text that they are read from. -/
theorem splitDefault_subset (t : Text) :
    (∀ type ∈ (splitDefault t).1, type ⊆ t) ∧ ∀ default ∈ (splitDefault t).2, default ⊆ t := by
  have htrim : ∀ {x : Text}, x ⊆ t → trim x ⊆ t := fun h c hc => h (mem_of_mem_trim hc)
  unfold splitDefault
  split
  · rename_i type value hcut
    obtain ⟨htype, hvalue⟩ := subset_of_cutAtDefault? hcut
    refine ⟨fun x hx => ?_, ?_⟩
    · rw [eq_of_nonEmpty? hx]
      exact htrim htype
    · rintro _ ⟨⟩
      exact htrim hvalue
  · split
    · rename_i value hvalue
      refine ⟨by simp, ?_⟩
      rintro _ ⟨⟩
      exact htrim (suffix_of_bareDefault? hvalue).subset
    · refine ⟨fun x hx => ?_, by simp⟩
      rw [eq_of_nonEmpty? hx]
      exact List.Subset.refl _

theorem forall_addParam {head : Line} {type default : Option Text} {text raw : Text}
    (htype : ∀ t ∈ type, '\n' ∉ t) (hdefault : ∀ t ∈ default, '\n' ∉ t)
    (h : addParam head type default text d raw = .ok d') (hd : ∀ p ∈ d.parameters, IsFlat p) :
    ∀ p ∈ d'.parameters, IsFlat p := by
  unfold addParam at h
  dsimp only at h
  split at h
  · rename_i hname
    cases h
    exact Document.forall_addParameter (fun q hq => hq.merge ⟨hname, htype, hdefault⟩) hd
      ⟨hname, htype, hdefault⟩
  · cases h

theorem forall_addParams {e : Entry} (he : ∀ line ∈ e.lines, '\n' ∉ line)
    (h : addParams d e = .ok d') (hd : ∀ p ∈ d.parameters, IsFlat p) :
    ∀ p ∈ d'.parameters, IsFlat p := by
  unfold addParams at h
  split at h
  · cases h
  · rename_i head hhead
    have hnewline : '\n' ∉ head := he head (by simp [Entry.lines, hhead])
    dsimp only at h
    split at h
    · rename_i names after hcut
      obtain ⟨htype, hdefault⟩ := splitDefault_subset (trim after)
      have hpart : ∀ t : Text, t ⊆ trim after → '\n' ∉ t := fun t ht hmem => hnewline (by
        rw [eq_append_of_cutAtColonFrom? hcut]
        simp [mem_of_mem_trim (ht hmem)])
      exact foldlM_induction (fun _ _ _ => forall_addParam (fun t ht => hpart t (htype t ht))
        fun t ht => hpart t (hdefault t ht)) h hd
    · exact foldlM_induction (fun _ _ _ => forall_addParam (by simp) (by simp)) h hd

theorem isFlat_addBlock {b : Block} (hbody : ∀ line ∈ b.body, '\n' ∉ line)
    (h : addBlock d b = .ok d') (hd : ∀ p ∈ d.parameters, IsFlat p) :
    ∀ p ∈ d'.parameters, IsFlat p := by
  unfold addBlock at h
  cases hkind : b.kind <;> simp only [hkind] at h
  case params =>
    refine foldlM_induction_mem (P := fun d => ∀ p ∈ d.parameters, IsFlat p)
      (fun _ e he _ => forall_addParams fun line hline => hbody line ?_) h hd
    have hmem := List.mem_flatMap.mpr ⟨e, he, hline⟩
    rw [flatMap_lines_entries] at hmem
    exact (isInfix_trimBlankLines b.body).subset hmem
  case raises =>
    refine foldlM_induction (P := fun d => ∀ p ∈ d.parameters, IsFlat p) (fun _ _ _ he hd => ?_) h hd
    obtain ⟨_, rfl⟩ := addRaise_cases he
    exact hd
  case returns | yields =>
    obtain ⟨_, _, rfl, _⟩ := addReturn_cases h
    exact hd
  case examples =>
    cases h
    exact hd
  all_goals
    cases h
    rw [Document.parameters_addFreeText?]
    exact hd

variable {text : Text}

theorem isFlat_parse (h : parse text = .ok d) : ∀ p ∈ d.parameters, IsFlat p := by
  obtain ⟨n, blocks, hfold, hdivides⟩ := exists_divides h
  refine foldlM_induction_mem (P := fun d => ∀ p ∈ d.parameters, IsFlat p)
    (fun _ b hb _ => isFlat_addBlock fun line hline => ?_) hfold (by simp [Head.document])
  have hstands := hdivides.stands _ (List.mem_map_of_mem hb)
  exact ((isNormal_normalLines text).clean line (List.mem_of_mem_drop (hstands.subset hline))).newline

/-! ## Writing parameters -/

/-- The lines of parameters below their header: each is on a line of its own, and none is an
underline. -/
theorem exists_params_lines (h : parse text = .ok d) (width : Nat)
    (hsome : sectionLines d .params width ≠ []) :
    ∃ lines, sectionLines d .params width = headerLines .params ++ lines ∧
      ∀ line ∈ lines, '\n' ∉ line ∧ isUnderline line = false := by
  have hlines : sectionLines d .params width =
      headerLines .params ++ (d.parameters.map (paramLines width)).flatten := by
    simp only [sectionLines, underHeader] at hsome ⊢
    split
    · rename_i hnone
      rw [if_pos hnone] at hsome
      exact absurd rfl hsome
    · rfl
  refine ⟨_, hlines, fun line hline => ?_⟩
  obtain ⟨entry, hentry, hline⟩ := List.mem_flatten.mp hline
  obtain ⟨p, hp, rfl⟩ := List.mem_map.mp hentry
  have hflat := isFlat_parse h p hp
  rcases List.mem_cons.mp hline with rfl | hline
  · refine ⟨?_, not_underline_paramHead hflat.name⟩
    have hdisplay := (Parameter.isOneLine_display hflat.name).newline
    have htype := hflat.type
    have hdefault := hflat.default
    unfold paramHead
    split <;> simp_all
  · unfold descriptionLines at hline
    dsimp only at hline
    split at hline
    · cases hline
    · obtain ⟨hn, hink⟩ := Layout.isSetIn_of_mem_wrapProse (by decide) hline
      exact ⟨hn, Bool.eq_false_iff.mpr fun hunderline =>
        absurd (opensWithInk_of_isUnderline hunderline) (by simp [hink])⟩

/-! ## Counting words -/

/-- The words of all sections but those of parameters. -/
def wordsBelowParams (d : Document) (width : Nat) : Nat :=
  (SectionKind.order.tail.map fun kind => wordCount (sectionLines d kind width)).sum

theorem wordsBelowParams_start (head : Head) (style : Style) (width : Nat) :
    wordsBelowParams (head.document style) width = 0 := by
  have hnone : ∀ kind, sectionLines (head.document style) kind width = [] := by
    intro kind
    cases kind <;> rfl
  simp [wordsBelowParams, hnone]

/-- The words that a section adds to those. -/
def Block.words (b : Block) : Nat :=
  if b.kind = .params then 0 else wordCount (headerLines b.kind) + wordCount b.body

theorem wordCount_le_of_mem_erase {b : Block} (h : addBlock d b = .ok d') (width : Nat) :
    ∀ kind ∈ SectionKind.order.tail.erase b.kind,
      wordCount (sectionLines d' kind width) ≤ wordCount (sectionLines d kind width) := by
  intro kind hmem
  have hnodup : SectionKind.order.tail.Nodup := by decide
  rw [sectionLines_addBlock_of_ne h (hnodup.mem_erase_iff.mp hmem).1.symm width]

theorem wordsBelowParams_addBlock_le {b : Block} (h : addBlock d b = .ok d') (width : Nat) :
    wordsBelowParams d' width ≤ wordsBelowParams d width + b.words := by
  have hothers := wordCount_le_of_mem_erase h width
  rw [wordsBelowParams, wordsBelowParams, Block.words]
  split
  · rename_i hkind
    rw [hkind, List.erase_of_not_mem (by decide)] at hothers
    rw [Nat.add_zero]
    exact List.sum_le_sum hothers
  · rename_i hkind
    have hmem : b.kind ∈ SectionKind.order.tail := by
      cases hb : b.kind <;> first | exact absurd hb hkind | decide
    exact (Nat.add_zero _).symm.trans_le (sum_map_add_le hmem hothers
      ((Nat.add_zero _).trans_le (wordCount_addBlock_le h hkind width)))

/-- Where a section takes the place of another one, words are lost. -/
theorem wordsBelowParams_addBlock_lt {b : Block} (h : addBlock d b = .ok d')
    (hkind : b.kind = .returns ∨ b.kind = .yields) (hsome : (d.value b.kind).isSome = true)
    (width : Nat) : wordsBelowParams d' width + 1 ≤ wordsBelowParams d width + b.words := by
  obtain ⟨hmem, hne⟩ : b.kind ∈ SectionKind.order.tail ∧ b.kind ≠ .params := by
    rcases hkind with hb | hb <;> rw [hb] <;> decide
  have hold : 0 < wordCount (sectionLines d b.kind width) := by
    obtain ⟨doc, hdoc⟩ := Option.isSome_iff_exists.mp hsome
    rw [sectionLines_of_value hkind hdoc, wordCount_append]
    exact (wordCount_headerLines_pos b.kind).trans_le (Nat.le_add_right _ _)
  have hnew := wordCount_value_le h hkind width
  rw [wordsBelowParams, wordsBelowParams, Block.words, if_neg hne]
  exact sum_map_add_le hmem (wordCount_le_of_mem_erase h width) (by omega)

theorem wordsBelowParams_foldlM_le {blocks : List Block} (h : blocks.foldlM addBlock d = .ok d')
    (width : Nat) :
    wordsBelowParams d' width ≤ wordsBelowParams d width + (blocks.map Block.words).sum := by
  have hstep : ∀ d b d', addBlock d b = .ok d' →
      wordsBelowParams d' width ≤ wordsBelowParams d width + b.words :=
    fun _ _ _ hb => wordsBelowParams_addBlock_le hb width
  exact foldlM_sum_le _ hstep h

/-- In a run with two sections on the same value, words are lost. -/
theorem wordsBelowParams_foldlM_lt {above below : List Block} {b c : Block}
    (h : (above ++ b :: below).foldlM addBlock d = .ok d') (hc : c ∈ above) (hsame : c.kind = b.kind)
    (hkind : b.kind = .returns ∨ b.kind = .yields) (width : Nat) :
    wordsBelowParams d' width + 1 ≤
      wordsBelowParams d width + ((above ++ b :: below).map Block.words).sum := by
  obtain ⟨before, after, habove, hb, hbelow⟩ := exists_of_foldlM h
  have hsome : (before.value b.kind).isSome = true := by
    obtain ⟨first, second, rfl⟩ := List.append_of_mem hc
    obtain ⟨_, d₁, _, hopened, hlater⟩ := exists_of_foldlM habove
    refine foldlM_induction (P := fun d => (d.value b.kind).isSome = true)
      (fun d x d' hx hd => ?_) hlater ?_
    · by_cases hother : x.kind = b.kind
      · obtain ⟨doc, hdoc, _⟩ := (value_addBlock hkind hx).1 hother
        rw [hdoc]
        rfl
      · rwa [(value_addBlock hkind hx).2 hother]
    · obtain ⟨doc, hdoc, _⟩ := (value_addBlock hkind hopened).1 hsame
      rw [hdoc]
      rfl
  have hfirst := wordsBelowParams_foldlM_le habove width
  have hlost := wordsBelowParams_addBlock_lt hb hkind hsome width
  have hrest := wordsBelowParams_foldlM_le hbelow width
  rw [List.map_append, List.map_cons, List.sum_append, List.sum_cons]
  omega

theorem headWords_addBlock {b : Block} (h : addBlock d b = .ok d') : d'.headWords = d.headWords := by
  unfold addBlock at h
  cases hkind : b.kind <;> simp only [hkind] at h
  case params =>
    refine (foldlM_unchanged Document.headWords (fun d e d' he => ?_) h).trans rfl
    obtain ⟨_, _, _, _, _, hfold⟩ := addParams_cases he
    refine foldlM_unchanged Document.headWords (fun d raw d' hp => ?_) hfold
    obtain ⟨p, rfl, _⟩ := addParam_cases hp
    exact d.headWords_addParameter p
  case raises =>
    refine (foldlM_unchanged Document.headWords (fun d e d' he => ?_) h).trans rfl
    obtain ⟨_, rfl⟩ := addRaise_cases he
    rfl
  case returns | yields =>
    obtain ⟨_, _, rfl, _⟩ := addReturn_cases h
    rfl
  case examples =>
    cases h
    rfl
  all_goals
    cases h
    exact Document.headWords_addFreeText? _ _ _

/-- Apart from those of parameters, a title has no fewer words than the one that is written. -/
theorem wordCount_headerLines_le {title underline : Line}
    (h : header? title underline = some (.opens kind)) (hkind : kind ≠ .params) :
    wordCount (headerLines kind) ≤ (Text.words title).length + 1 := by
  have htable : ∀ entry ∈ SectionKind.titles, entry.2 ≠ .params →
      wordCount (headerLines entry.2) ≤ (Text.words entry.1.toList).length + 1 := by decide
  unfold header? headerOfTitle? at h
  split at h
  · split at h
    · rename_i found hfound
      cases h
      obtain ⟨entry, hentry, rfl⟩ := Option.map_eq_some_iff.mp hfound
      have htitle : entry.1.toList = title := by simpa using List.find?_some hentry
      exact htitle ▸ htable entry (List.mem_of_find?_eq_some hentry) hkind
    · split at h <;> cases h
  · cases h

theorem Block.words_le {lines : List Line} {b : Block}
    (h : openedAt? (lines.drop b.first) = some b.kind) : b.words ≤ headers.wordCount lines b.heading := by
  obtain ⟨title, underline, rest, hlines, hheader⟩ := exists_header_of_openedAt? h
  have hunderline : 0 < (Text.words underline).length :=
    List.length_pos_of_ne_nil (words_ne_nil (not_blank_of_opensWithInk
      (opensWithInk_of_isUnderline (isUnderline_of_header? hheader))))
  have hwords : headers.wordCount lines b.heading =
      (Text.words title).length + (Text.words underline).length + wordCount b.body := by
    change wordCount ((lines.drop b.first).take 2) + wordCount b.body = _
    rw [hlines]
    simp
  rw [Block.words, hwords]
  split
  · exact Nat.zero_le _
  · rename_i hkind
    have htitle := wordCount_headerLines_le hheader hkind
    omega

/-! ## Canonical lines -/

/-- Below its header, no section is opened in the lines for parameters. -/
theorem at?_params_eq_none (h : parse text = .ok d) (more : List Line) {m : Nat} (hpos : 0 < m)
    (hm : m < (sectionLines d .params width).length) :
    opener.at? (sectionLines d .params width ++ Layout.setOff more) m = none := by
  obtain ⟨entries, hlines, hentries⟩ :=
    exists_params_lines h width (List.ne_nil_of_length_pos (hpos.trans hm))
  refine at?_eq_none fun line hline => ?_
  obtain ⟨k, rfl⟩ := Nat.exists_eq_succ_of_ne_zero hpos.ne'
  rw [hlines] at hm hline
  change line ∈ (entries ++ Layout.setOff more)[k]? at hline
  change k + 1 < entries.length + 2 at hm
  rcases Nat.lt_or_ge k entries.length with hlt | hge
  · rw [List.getElem?_append_left hlt] at hline
    exact Bool.eq_false_iff.mp (hentries line (List.mem_of_getElem? hline)).2
  · obtain rfl : k = entries.length := by omega
    rw [List.getElem?_append_right hge, Nat.sub_self, Layout.setOff] at hline
    split at hline
    · cases hline
    · obtain rfl := Option.some.inj hline
      exact Opener.not_completes_nil

section Canonical

variable {old : List Line} {i j : Nat} (hwritten : Layout.IsWritten d width old
    (Layout.brokenUp (Layout.separate (SectionKind.order.map fun kind => sectionLines d kind width))))
  (h : parse (joinLines old) = .ok d)

include hwritten h

/-- The lines for parameters are read again as they stand. -/
theorem exists_drop_params (hsome : sectionLines d .params width ≠ []) :
    ∃ p more, (normalLines (joinLines old)).drop p =
      sectionLines d .params width ++ Layout.setOff more := by
  obtain ⟨entries, hlines, hentries⟩ := exists_params_lines h width hsome
  have hbroken : Layout.brokenUp (sectionLines d .params width) = sectionLines d .params width := by
    have hheader : ∀ line ∈ headerLines .params, '\n' ∉ line := by decide
    refine Layout.brokenUp_of_newline ?_
    rw [hlines]
    exact List.forall_mem_append.mpr ⟨hheader, fun line hline => (hentries line hline).1⟩
  let below := Layout.brokenUp
    (Layout.separate (SectionKind.order.map fun kind => sectionLines d kind width))
  obtain ⟨more, hbelow⟩ : ∃ more, below = sectionLines d .params width ++ Layout.setOff more := by
    refine ⟨Layout.brokenUp (Layout.separate
      (SectionKind.order.tail.map fun kind => sectionLines d kind width)), ?_⟩
    rw [← Layout.glue_eq_append hsome, ← hbroken, ← Layout.brokenUp_glue, ← Layout.separate_cons]
    rfl
  obtain ⟨gap, -, hgap⟩ := Layout.exists_glue_gap (Layout.writtenHead d width) below
  let p := (Layout.writtenHead d width).length + gap.length
  have hold : old.drop p = sectionLines d .params width ++ Layout.setOff more := by
    rw [hwritten.eq, hgap, ← List.drop_drop, List.drop_left, List.drop_left, hbelow]
  have hflush : ∃ line ∈ old.tail, opensWithInk line = true := by
    refine ⟨dashes .params, ?_, by decide⟩
    have hmem : dashes .params ∈ old.drop (1 + p) := by
      rw [Nat.add_comm, ← List.drop_drop, hold, hlines]
      exact List.mem_cons_self
    rw [← List.drop_one]
    exact List.mem_of_mem_drop ((List.drop_drop ..).symm ▸ hmem)
  exact ⟨p, more, (hwritten.drop_eq hflush (Nat.le_add_right _ _)).trans hold⟩

/-- The section on parameters is read with all that is written for it. -/
theorem exists_params_block {blocks : List Block}
    (hdivides : headers.Divides (normalLines (joinLines old))
      (walk.head (normalLines (joinLines old))).length (blocks.map Block.heading))
    (hsome : sectionLines d .params width ≠ []) :
    ∃ b ∈ blocks, b.kind = .params ∧ wordCount (sectionLines d .params width) ≤
      headers.wordCount (normalLines (joinLines old)) b.heading := by
  obtain ⟨p, more, hdrop⟩ := exists_drop_params hwritten h hsome
  have hopens : openedAt? ((normalLines (joinLines old)).drop p) = some .params := by
    obtain ⟨entries, hlines, -⟩ := exists_params_lines h width hsome
    rw [hdrop, hlines]
    change openedAt? (title .params :: dashes .params :: _) = _
    rw [openedAt?, header?_title]
  have hat := atHeader_of_openedAt? hopens
  obtain ⟨s, hs, hfirst⟩ := hdivides.headed p (Head.length_cut_le_of_mark lawful_walk.ends hat) hat
  obtain ⟨b, hb, rfl⟩ := List.mem_map.mp hs
  obtain rfl : b.first = p := hfirst
  have hkind := hdivides.tiled.opened _ (List.mem_map_of_mem hs)
  refine ⟨b, hb, Option.some.inj (hkind.symm.trans hopens), ?_⟩
  have hle := hdivides.wordCount_le hs (k := (sectionLines d .params width).length) fun m hpos hm => by
    have hnone := at?_params_eq_none h more hpos hm
    rw [at?_opener, ← hdrop, List.drop_drop] at hnone
    exact hnone
  change wordCount (((normalLines (joinLines old)).drop b.first).take _) ≤ _ at hle
  rwa [hdrop, List.take_left] at hle

/-- The sections have as many words as are written for them. -/
theorem sum_words_le {blocks : List Block}
    (hdivides : headers.Divides (normalLines (joinLines old))
      (walk.head (normalLines (joinLines old))).length (blocks.map Block.heading)) :
    (blocks.map Block.words).sum ≤ wordsBelowParams d width := by
  let lines := normalLines (joinLines old)
  let n := (walk.head lines).length
  have hhead : wordCount (lines.take n) = d.headWords.length :=
    Walk.wordCount_head (fun _ => rfl) (fun _ _ _ => headWords_addBlock)
      ((parse_eq_read _).symm.trans h)
  have hwhole : wordCount lines = d.headWords.length +
      (wordCount (sectionLines d .params width) + wordsBelowParams d width) := by
    rw [hwritten.wordCount_eq, Layout.wordCount_brokenUp, Layout.wordCount_separate, List.map_map]
    exact congrArg _ List.sum_cons
  have hcut : wordCount lines = wordCount (lines.take n) + wordCount (lines.drop n) := by
    rw [← wordCount_append, List.take_append_drop]
  have hblocks : ∀ b ∈ blocks, b.words ≤ headers.wordCount lines b.heading := fun b hb =>
    Block.words_le (hdivides.tiled.opened _ (List.mem_map_of_mem (List.mem_map_of_mem hb)))
  have hread : (blocks.map Block.words).sum + wordCount (sectionLines d .params width) ≤
      wordCount (lines.drop n) := by
    rw [← hdivides.words, List.map_map]
    by_cases hsome : sectionLines d .params width = []
    · rw [hsome]
      exact List.sum_le_sum hblocks
    · obtain ⟨b, hb, hparam, hle⟩ := exists_params_block hwritten h hdivides hsome
      have hitem : b.words + wordCount (sectionLines d .params width) ≤
          headers.wordCount lines b.heading + 0 := by
        rwa [Block.words, if_pos hparam, Nat.zero_add, Nat.add_zero]
      exact sum_map_add_le hb (fun x hx => hblocks x (List.mem_of_mem_erase hx)) hitem
  omega

/-- Each value has one section at most. -/
theorem eq_of_opened_value (hkind : kind = .returns ∨ kind = .yields)
    (hi : opener.at? (normalLines (joinLines old)) i = some kind)
    (hj : opener.at? (normalLines (joinLines old)) j = some kind) : i = j := by
  obtain ⟨hfold, hdivides, -⟩ := isHeaded_walk.exists_divides ((parse_eq_read _).symm.trans h)
  have hwords := sum_words_le hwritten h hdivides
  generalize (walk.outline _ _).1 = blocks at hfold hdivides hwords
  have hopened : ∀ {k}, opener.at? (normalLines (joinLines old)) k = some kind →
      ∃ b ∈ blocks, b.first = k ∧ b.kind = kind := by
    intro k hk
    rw [at?_opener] at hk
    have hat := atHeader_of_openedAt? hk
    obtain ⟨s, hs, rfl⟩ := hdivides.headed k (Head.length_cut_le_of_mark lawful_walk.ends hat) hat
    obtain ⟨b, hb, rfl⟩ := List.mem_map.mp hs
    exact ⟨b, hb, rfl, Option.some.inj
      ((hdivides.tiled.opened _ (List.mem_map_of_mem hs)).symm.trans hk)⟩
  obtain ⟨b, hb, rfl, hbkind⟩ := hopened hi
  obtain ⟨c, hc, rfl, hckind⟩ := hopened hj
  by_contra hne
  obtain ⟨above, later, below, rfl, hlater, earlier, hearlier, hsame⟩ := exists_repeated
    (P := fun b => Block.kind b = kind) hb hc (fun hsame => hne (congrArg Block.first hsame)) hbkind hckind
  have hlost := wordsBelowParams_foldlM_lt hfold hearlier (hsame.trans hlater.symm)
    (hlater ▸ hkind) width
  rw [wordsBelowParams_start] at hlost
  omega

end Canonical

end Numpy

end Docstring
