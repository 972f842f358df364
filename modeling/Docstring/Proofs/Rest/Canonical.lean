-- Which lines of a document that was read from a canonical field list start with ink when it is written:
-- below its head, the lines that open its fields and no others. A type on several lines would be written
-- with the lines below the first one at the first column, but the lines that it is read from are set in:
-- so it is read from a longer type, and that one from an even longer one.
import Docstring.Proofs.Document.Canonical
import Docstring.Proofs.Rest.Typed

namespace Docstring.Rest

open Text

variable {d d' : Document} {kind : SectionKind} {width : Nat} {line : Line} {text : Text}

/-! ## Lines below types -/

/-- A line that opens a field for a type. -/
def givesType (line : Line) : Bool := (classify line).any fun found => found.1.givesType

/-- All lines of ink that are set in below a line for a type have a property. -/
def BelowTypes (P : Line → Prop) : Bool → List Line → Prop
  | _, [] => True
  | below, line :: rest =>
    if opensWithInk line then BelowTypes P (givesType line) rest
    else (below = true → isBlank line = false → P line) ∧ BelowTypes P below rest

section BelowTypes

variable {P : Line → Prop} {below : Bool} {lines more : List Line}

theorem belowTypes_append (h : BelowTypes P below lines) (hmore : ∀ below, BelowTypes P below more) :
    BelowTypes P below (lines ++ more) := by
  induction lines generalizing below with
  | nil => exact hmore below
  | cons line lines ih =>
    rw [List.cons_append]
    unfold BelowTypes at h ⊢
    split
    · rename_i hink
      rw [if_pos hink] at h
      exact ih h
    · rename_i hink
      rw [if_neg hink] at h
      exact ⟨h.1, ih h.2⟩

theorem exists_belowTypes_of_append (h : BelowTypes P below (lines ++ more)) :
    ∃ below, BelowTypes P below more := by
  induction lines generalizing below with
  | nil => exact ⟨below, h⟩
  | cons line lines ih =>
    rw [List.cons_append] at h
    unfold BelowTypes at h
    split at h
    · exact ih h
    · exact ih h.2

theorem belowTypes_of_forall (h : ∀ line ∈ lines, isBlank line = false → P line) (below : Bool) :
    BelowTypes P below lines := by
  induction lines generalizing below with
  | nil => trivial
  | cons line lines ih =>
    obtain ⟨hline, hlines⟩ := List.forall_mem_cons.mp h
    unfold BelowTypes
    split
    · exact ih hlines _
    · exact ⟨fun _ => hline, ih hlines _⟩

theorem belowTypes_of_isSetIn (h : ∀ line ∈ lines, IsSetIn line) : BelowTypes P false lines := by
  induction lines with
  | nil => trivial
  | cons line lines ih =>
    obtain ⟨hline, hlines⟩ := List.forall_mem_cons.mp h
    unfold BelowTypes
    rw [if_neg (by simp [hline.2])]
    exact ⟨by simp, ih hlines⟩

theorem forall_of_belowTypes (h : BelowTypes P true (lines ++ more))
    (hset : ∀ line ∈ lines, opensWithInk line = false) :
    ∀ line ∈ lines, isBlank line = false → P line := by
  induction lines with
  | nil => simp
  | cons line lines ih =>
    obtain ⟨hline, hlines⟩ := List.forall_mem_cons.mp hset
    rw [List.cons_append] at h
    unfold BelowTypes at h
    rw [if_neg (by simp [hline])] at h
    exact List.forall_mem_cons.mpr ⟨h.1 rfl, ih h.2 hlines⟩

end BelowTypes

/-! ## Writing -/

/-- The types in a document. -/
def IsType (d : Document) (t : Text) : Prop :=
  (∃ p ∈ d.parameters, t ∈ p.type) ∨ (∃ doc ∈ d.returns, t ∈ doc.type) ∨
    ∃ doc ∈ d.yields, t ∈ doc.type

theorem IsRead.of_isType {Q : Text → Prop} (hd : IsRead Q d) {t : Text} (ht : IsType d t) : Q t := by
  rcases ht with ⟨p, hp, ht⟩ | ⟨doc, hdoc, ht⟩ | ⟨doc, hdoc, ht⟩
  · exact (hd.params p hp).2 t ht
  · exact hd.returns doc hdoc t ht
  · exact hd.yields doc hdoc t ht

/-- A line of ink that goes on with a type of a document. -/
def ContinuesType (d : Document) (line : Line) : Prop := ∃ t, IsType d t ∧ IsLater t line

/-- Lines that are written for sections of some kinds: fields with lines that are set in below them,
types, and empty lines. -/
inductive Written (d : Document) (kinds : List SectionKind) : List Line → Prop
  | nil : Written d kinds []
  | gap : Written d kinds [[]]
  | field {kind : SectionKind} {lead : Text} {line : Line} {below : List Line} (hkind : kind ∈ kinds)
      (hlead : lead ∈ leads kind) (hnot : lead ∉ typeLeads) (hline : lead <+: line)
      (hn : '\n' ∉ line) (hbelow : ∀ l ∈ below, IsSetIn l) : Written d kinds (line :: below)
  | typing {kind : SectionKind} {lead name t : Text} (hkind : kind ∈ kinds) (hlead : lead ∈ leads kind)
      (hline : lead <+: ':' :: name) (hn : '\n' ∉ name) (ht : IsType d t) :
      Written d kinds [typeLine name t]
  | append {above below : List Line} (habove : Written d kinds above) (hbelow : Written d kinds below) :
      Written d kinds (above ++ below)

namespace Written

variable {kinds : List SectionKind} {lines : List Line}

theorem flatten {blocks : List (List Line)} (h : ∀ block ∈ blocks, Written d kinds block) :
    Written d kinds blocks.flatten := by
  induction blocks with
  | nil => exact .nil
  | cons block blocks ih =>
    obtain ⟨hblock, hblocks⟩ := List.forall_mem_cons.mp h
    exact hblock.append (ih hblocks)

theorem flatMap {α : Type} {items : List α} {f : α → List Line}
    (h : ∀ item ∈ items, Written d kinds (f item)) : Written d kinds (items.flatMap f) := by
  rw [List.flatMap_def]
  exact flatten (List.forall_mem_map.mpr h)

theorem glue {above below : List Line} (habove : Written d kinds above)
    (hbelow : Written d kinds below) : Written d kinds (Layout.glue above below) := by
  unfold Layout.glue
  split
  · exact hbelow
  · split
    · exact habove
    · rw [← List.singleton_append, ← List.append_assoc]
      exact (habove.append .gap).append hbelow

theorem separate {blocks : List (List Line)} (h : ∀ block ∈ blocks, Written d kinds block) :
    Written d kinds (Layout.separate blocks) := by
  induction blocks with
  | nil => exact .nil
  | cons block blocks ih =>
    obtain ⟨hblock, hblocks⟩ := List.forall_mem_cons.mp h
    rw [Layout.separate_cons]
    exact hblock.glue (ih hblocks)

end Written

section Writing

variable {kinds : List SectionKind} {Q : Text → Prop}

theorem written_fieldLines {lead : Text} (description : Option Text) (hkind : kind ∈ kinds)
    (hlead : ∃ start ∈ leads kind, start ∉ typeLeads ∧ start <+: lead) (hn : '\n' ∉ lead) :
    Written d kinds (fieldLines width lead description) := by
  obtain ⟨start, hstart, hnot, hstarts⟩ := hlead
  have hindent : 0 < continuationIndent := by decide
  obtain ⟨first, below, hlines, hfirst, hline, hbelow⟩ :=
    Layout.exists_hanging_below 0 (description.getD []) width hn hindent
  rw [fieldLines, hlines]
  exact .field hkind hstart hnot (hstarts.trans hfirst) hline hbelow

theorem written_typeLine {name : Text} {type : Option Text} (hkind : kind ∈ kinds)
    (hlead : ∃ start ∈ leads kind, start <+: ':' :: name) (hn : '\n' ∉ name)
    (htype : ∀ t ∈ type, IsType d t) : Written d kinds (type.toList.map (typeLine name)) := by
  obtain ⟨start, hstart, hstarts⟩ := hlead
  cases type with
  | none => exact .nil
  | some t => exact .typing hkind hstart hstarts hn (htype t rfl)

theorem newline_notMem_display {p : Parameter} (h : '\n' ∉ p.name) : '\n' ∉ p.display := by
  unfold Parameter.display ParamKind.stars
  split <;> simp [h]

theorem written_returnLines {name typeName : Text} {doc : ReturnDoc} (hkind : kind ∈ kinds)
    (hlead : ∃ start ∈ leads kind, start ∉ typeLeads ∧ start <+: ':' :: name ++ [':'])
    (hname : '\n' ∉ name) (htypeLead : ∃ start ∈ leads kind, start <+: ':' :: typeName)
    (htypeName : '\n' ∉ typeName) (htype : ∀ t ∈ doc.type, IsType d t) :
    Written d kinds (returnLines width name typeName doc) := by
  unfold returnLines
  refine .append ?_ (written_typeLine hkind htypeLead htypeName htype)
  split
  · exact written_fieldLines doc.description hkind hlead (by simp [hname])
  · exact .nil

theorem written_blocks (hkind : kind ∈ kinds) (hfield : kind ∉ fieldSections) :
    ∀ block ∈ blocks d kind width, Written d kinds block := by
  intro block hblock
  obtain ⟨body, hbody, rfl⟩ := List.mem_map.mp hblock
  have hbelow : ∀ line ∈ body, IsSetIn line := by
    intro line hline
    split at hbody
    · obtain ⟨t, _, rfl⟩ := List.mem_map.mp hbody
      exact Layout.isSetIn_of_mem_verbatim (by decide) hline
    · obtain ⟨t, _, rfl⟩ := List.mem_map.mp hbody
      exact Layout.isSetIn_of_mem_wrapProse (by decide) hline
  obtain ⟨lead, hlead, hnot, hstarts, hn⟩ : ∃ lead ∈ leads kind, lead ∉ typeLeads ∧
      lead <+: blockHeader kind ∧ '\n' ∉ blockHeader kind := by
    revert hfield
    cases kind <;> decide
  exact .field hkind hlead hnot hstarts hn hbelow

theorem written_sectionLines (hd : IsRead Q d) (hkind : kind ∈ kinds) :
    Written d kinds (sectionLines d kind width) := by
  cases hk : kind <;> rw [hk] at hkind
  case params =>
    refine .flatMap fun p hp => ?_
    have hname := newline_notMem_display (hd.params p hp).1
    exact .append
      (written_fieldLines p.description hkind
        ⟨":pa".toList, by decide, by decide, ⟨"ram ".toList ++ p.display ++ [':'], rfl⟩⟩
        (by simp [hname]))
      (written_typeLine hkind ⟨":ty".toList, by decide, ⟨"pe ".toList ++ p.display, rfl⟩⟩
        (by simp [hname]) fun t ht => .inl ⟨p, hp, ht⟩)
  case returns =>
    refine .flatMap fun doc hdoc => written_returnLines hkind (by decide) (by decide) (by decide)
      (by decide) fun t ht => .inr (.inl ⟨doc, Option.mem_toList.mp hdoc, ht⟩)
  case yields =>
    refine .flatMap fun doc hdoc => written_returnLines hkind (by decide) (by decide) (by decide)
      (by decide) fun t ht => .inr (.inr ⟨doc, Option.mem_toList.mp hdoc, ht⟩)
  case raises =>
    exact .flatMap fun r hr => written_fieldLines r.description hkind
      ⟨":ra".toList, by decide, by decide, ⟨"ises ".toList ++ r.exception ++ [':'], rfl⟩⟩
      (by simp [hd.raises r hr])
  all_goals exact .separate (written_blocks hkind (by decide))

end Writing

/-! ## Lines that are written -/

theorem length_lead {lead : Text} (h : lead ∈ leads kind) : lead.length = 3 := by
  have hall : ∀ lead ∈ leads kind, lead.length = 3 := by cases kind <;> decide
  exact hall lead h

/-- Sections have no leads in common. -/
theorem eq_of_mem_leads {other : SectionKind} {lead : Text} (h : lead ∈ leads kind)
    (hother : lead ∈ leads other) : kind = other := by
  have hall : ∀ lead ∈ leads kind, lead ∈ leads other → kind = other := by
    cases kind <;> cases other <;> decide
  exact hall lead h hother

theorem opensWithInk_of_lead {lead : Text} (hlead : lead ∈ leads kind) (h : lead <+: line) :
    opensWithInk line = true := by
  have hcolon : ∀ lead ∈ leads kind, lead.head? = some ':' := by cases kind <;> decide
  obtain ⟨rest, rfl⟩ := h
  obtain ⟨more, rfl⟩ := List.head?_eq_some_iff.mp (hcolon lead hlead)
  rfl

theorem givesType_eq_false {lead : Text} (hlead : lead ∈ leads kind) (hnot : lead ∉ typeLeads)
    (h : lead <+: line) : givesType line = false := by
  unfold givesType
  cases hclassify : classify line with
  | none => rfl
  | some found =>
    refine Bool.eq_false_iff.mpr fun hm => ?_
    obtain ⟨other, hother, hstarts⟩ := exists_lead_of_givesType (m := found.1) hclassify hm
    have htypes : ∀ other ∈ typeLeads, other.length = 3 := by decide
    have hsame := lead_eq h hstarts ((length_lead hlead).trans (htypes other hother).symm)
    exact hnot (hsame ▸ hother)

theorem brokenUp_typeLine {name : Text} (hn : '\n' ∉ name) (t : Text) :
    Layout.brokenUp [typeLine name t] = typeLine name (firstLine t) :: laterLines t := by
  rw [Layout.brokenUp_cons, Layout.brokenUp_nil, List.append_nil]
  exact splitLines_lead_append (by simp [hn]) t

section Written

variable {kinds : List SectionKind} {lines : List Line} (h : Written d kinds lines)

include h

/-- A line that is written is the first one of a field, or set in, or a later one of a type. -/
theorem Written.of_mem : ∀ line ∈ Layout.brokenUp lines,
    (∃ kind ∈ kinds, ∃ lead ∈ leads kind, lead <+: line) ∨ IsSetIn line ∨ ContinuesType d line := by
  induction h with
  | nil => simp
  | gap => exact fun line hline => .inr (.inl (List.mem_singleton.mp hline ▸ isSetIn_nil))
  | field hkind hlead hnot hline hn hbelow =>
    rw [Layout.brokenUp_of_newline (List.forall_mem_cons.mpr ⟨hn, fun l hl => (hbelow l hl).1⟩)]
    exact List.forall_mem_cons.mpr
      ⟨.inl ⟨_, hkind, _, hlead, hline⟩, fun l hl => .inr (.inl (hbelow l hl))⟩
  | @typing kind lead name t hkind hlead hline hn ht =>
    rw [brokenUp_typeLine hn]
    refine List.forall_mem_cons.mpr ⟨.inl ⟨kind, hkind, lead, hlead, ?_⟩, fun l hl => .inr ?_⟩
    · rw [typeLine, List.append_assoc]
      exact hline.trans (List.prefix_append _ _)
    · by_cases hblank : isBlank l = true
      · refine .inl ⟨newline_notMem_of_mem_splitLines (List.mem_of_mem_tail hl),
          Bool.eq_false_iff.mpr fun hink => ?_⟩
        rw [not_blank_of_opensWithInk hink] at hblank
        cases hblank
      · exact .inr ⟨t, ht, hl, Bool.eq_false_iff.mpr hblank⟩
  | append _ _ iha ihb =>
    rw [Layout.brokenUp_append]
    exact List.forall_mem_append.mpr ⟨iha, ihb⟩

/-- Below a type, all lines that are set in go on with it. -/
theorem Written.belowTypes : ∀ below, BelowTypes (ContinuesType d) below (Layout.brokenUp lines) := by
  induction h with
  | nil => exact fun _ => trivial
  | gap => exact belowTypes_of_forall (List.forall_mem_singleton.mpr nofun)
  | field hkind hlead hnot hline hn hbelow =>
    intro below
    rw [Layout.brokenUp_of_newline (List.forall_mem_cons.mpr ⟨hn, fun l hl => (hbelow l hl).1⟩),
      BelowTypes, if_pos (opensWithInk_of_lead hlead hline), givesType_eq_false hlead hnot hline]
    exact belowTypes_of_isSetIn hbelow
  | @typing kind lead name t hkind hlead hline hn ht =>
    intro below
    have hink : opensWithInk (typeLine name (firstLine t)) = true := rfl
    rw [brokenUp_typeLine hn, BelowTypes, if_pos hink]
    exact belowTypes_of_forall (fun l hl hink => ⟨t, ht, hl, hink⟩) _
  | append _ _ iha ihb =>
    intro below
    rw [Layout.brokenUp_append]
    exact belowTypes_append (iha below) ihb

end Written

/-! ## Canonical lines -/

theorem headWords_addField {f : Field} (h : addField d f = .ok d') : d'.headWords = d.headWords := by
  cases hmarker : f.marker <;> simp only [addField, hmarker] at h
  case param paramKind argument =>
    obtain ⟨p, rfl, _⟩ := addParam_cases h
    exact d.headWords_addParameter p
  case paramType raw =>
    cases h
    unfold setParamType
    dsimp only
    split <;> rfl
  case returns | returnType | yields | yieldType =>
    cases h
    rfl
  case raises exception =>
    cases exception <;> simp only at h
    · split at h
      · cases h
        rfl
      · cases h
    · cases h
      rfl
  case block opened =>
    cases opened <;> cases h <;> first | rfl | exact d.headWords_addFreeText? _ _
  case directive opened =>
    cases h
    exact d.headWords_addFreeText? _ _
  case unknownField | unknownDirective => cases h

theorem headWords_finish (p : Progress) : p.finish.headWords = p.document.headWords := by
  unfold Progress.finish
  split <;> rfl

theorem headWords_add {p p' : Progress} {f : Field} (h : p.add f = .ok p') :
    p'.finish.headWords = p.finish.headWords := by
  rw [headWords_finish]
  obtain ⟨d, hadd, ⟨rfl, _⟩ | ⟨rfl, _⟩⟩ := add_cases h
  · rw [headWords_addField hadd, headWords_finish]
  · exact headWords_addField hadd

theorem opensWithInk_of_mem_body {f : Field} {lines : List Line} (hat : f.At lines)
    (hm : f.marker ≠ .block .examples) : ∀ line ∈ f.body, opensWithInk line = false := by
  intro line hline
  have htakes := hat.taken line hline
  rw [Field.takes, if_neg hm] at htakes
  refine Bool.eq_false_iff.mpr fun hink => ?_
  simp [not_blank_of_opensWithInk hink, indentWidth_of_opensWithInk hink] at htakes

/-- Of lines that are bounded in length, none is shorter than another one with the same property. -/
theorem not_of_ascent {P : Line → Prop} (lines : List Line)
    (hnext : ∀ line, P line → ∃ longer ∈ lines, P longer ∧ line.length < longer.length) (line : Line) :
    ¬P line := by
  intro hline
  have hgrows : ∀ n, ∃ longer ∈ lines, P longer ∧ n < longer.length := by
    intro n
    induction n with
    | zero =>
      obtain ⟨longer, hmem, hlonger, hlt⟩ := hnext line hline
      exact ⟨longer, hmem, hlonger, Nat.zero_lt_of_lt hlt⟩
    | succ n ih =>
      obtain ⟨long, _, hlong, hle⟩ := ih
      obtain ⟨longer, hmem, hlonger, hlt⟩ := hnext long hlong
      exact ⟨longer, hmem, hlonger, Nat.lt_of_le_of_lt hle hlt⟩
  obtain ⟨longer, hmem, -, hlt⟩ := hgrows lines.flatten.length
  exact absurd (List.sublist_flatten_of_mem hmem).length_le (Nat.not_le.mpr hlt)

/-- The lines that are written below the head. -/
theorem written_body (h : parse text = .ok d) (width : Nat) : Written d SectionKind.order
    (Layout.glue (fieldSections.map fun kind => sectionLines d kind width).flatten
      (Layout.separate ((SectionKind.order.drop fieldSections.length).flatMap fun kind =>
        blocks d kind width))) := by
  obtain ⟨n, fields, p, hread⟩ := exists_readFrom h
  refine .glue (.flatten fun block hblock => ?_) (.separate fun block hblock => ?_)
  · obtain ⟨kind, _, rfl⟩ := List.mem_map.mp hblock
    exact written_sectionLines hread.isRead kind.mem_order
  · obtain ⟨kind, hkind, hblock⟩ := List.mem_flatMap.mp hblock
    exact written_blocks kind.mem_order (by revert hkind; cases kind <;> decide) block hblock

section Canonical

variable {body old : List Line} {i : Nat} (hbody : Written d SectionKind.order body)
  (hwritten : Layout.IsWritten d width old (Layout.brokenUp body)) (h : parse (joinLines old) = .ok d)
  (hflush : ∃ line ∈ old.tail, opensWithInk line = true)

include hwritten

/-- No section is opened in the lines that are written for the head. -/
theorem length_writtenHead_le (h : parse (joinLines old) = .ok d)
    (hopens : opener.at? (normalLines (joinLines old)) i = some kind) :
    (Layout.writtenHead d width).length ≤ i := by
  obtain ⟨line, hline, hink, _⟩ := Opener.at?_eq_some hopens
  exact hwritten.length_le_of_mark lawful_walk
    (Walk.wordCount_head (fun _ => rfl) (fun _ _ _ => headWords_add)
      ((parse_eq_read _).symm.trans h))
    (atField_of_opened hopens) hline (not_blank_of_opensWithInk hink)

include hbody hflush

/-- Below the head, lines that are set in below a type go on with one that is written. -/
theorem exists_belowTypes (hle : (Layout.writtenHead d width).length ≤ i) :
    ∃ below, BelowTypes (ContinuesType d) below ((normalLines (joinLines old)).drop i) := by
  obtain ⟨gap, hgap, hglue⟩ :=
    Layout.exists_glue_gap (Layout.writtenHead d width) (Layout.brokenUp body)
  rw [hwritten.drop_eq hflush hle, hwritten.eq, hglue, List.drop_append, List.drop_eq_nil_of_le hle,
    List.nil_append]
  have hall : BelowTypes (ContinuesType d) false (gap ++ Layout.brokenUp body) := by
    refine belowTypes_append (belowTypes_of_forall (fun line hline hink => ?_) false)
      hbody.belowTypes
    rw [hgap line hline] at hink
    cases hink
  rw [← List.take_append_drop (i - (Layout.writtenHead d width).length) (gap ++ _)] at hall
  exact exists_belowTypes_of_append hall

include h

/-- What stands below a field for a type goes on with one that is written. -/
theorem continuesType_of_mem_body {f : Field} (hat : f.At (normalLines (joinLines old)))
    (htype : f.marker.givesType = true) {raw : Line} (hraw : raw ∈ f.body)
    (hink : isBlank raw = false) : ContinuesType d raw := by
  have hnot : f.marker ≠ .block .examples := by
    intro hm
    rw [hm] at htype
    cases htype
  obtain ⟨kind, hkind⟩ : ∃ kind, f.marker.sectionKind? = some kind := by
    revert htype
    cases f.marker <;> simp [Marker.givesType, Marker.sectionKind?]
  obtain ⟨below, hbelow⟩ := exists_belowTypes hbody hwritten hflush
    (length_writtenHead_le hwritten h (at?_eq_some_iff.mpr ⟨_, hat.marker, hkind⟩))
  obtain ⟨first, hfirst, hclassify⟩ := Option.bind_eq_some_iff.mp hat.marker
  obtain ⟨more, hmore⟩ := hat.body
  obtain ⟨hlt, rfl⟩ := List.getElem?_eq_some_iff.mp hfirst
  rw [List.drop_eq_getElem_cons hlt, ← hmore, BelowTypes, if_pos (opensWithInk_of_classify hclassify),
    givesType, hclassify, Option.any_some, htype] at hbelow
  exact forall_of_belowTypes hbelow (opensWithInk_of_mem_body hat hnot) raw hraw hink

/-- No type is on several lines: the longest of its later lines would be read from a longer one. -/
theorem not_continuesType (line : Line) : ¬ContinuesType d line := by
  obtain ⟨n, fields, p, hread⟩ := exists_readFrom h
  refine not_of_ascent (normalLines (joinLines old)) (fun line ⟨t, ht, hlater⟩ => ?_) line
  obtain ⟨f, hf, htype, raw, hraw, hink, hlonger⟩ := hread.isRead.of_isType ht line hlater
  have hat := hread.laid.stands f hf
  exact ⟨raw, List.mem_of_mem_drop (hat.body.subset hraw),
    continuesType_of_mem_body hbody hwritten h hflush hat htype hraw hink, hlonger⟩

/-- A line that opens a section on a value opens the one that it is written for. -/
theorem kind_of_opened {other : SectionKind} (hother : other = .returns ∨ other = .yields)
    (hline : line ∈ Layout.brokenUp (sectionLines d kind width))
    (hopens : openedAt? [line] = some other) : other = kind := by
  obtain ⟨n, fields, p, hread⟩ := exists_readFrom h
  have hlines : Written d [kind] (sectionLines d kind width) :=
    written_sectionLines hread.isRead List.mem_cons_self
  rcases hlines.of_mem line hline with ⟨found, hfound, lead, hlead, hstarts⟩ | hsetIn | hcontinues
  · obtain rfl := List.mem_singleton.mp hfound
    obtain ⟨lead', hlead', hstarts'⟩ := exists_lead_of_opened hother hopens
    have hsame := lead_eq hstarts hstarts' ((length_lead hlead).trans (length_lead hlead').symm)
    exact eq_of_mem_leads (hsame ▸ hlead') hlead
  · obtain ⟨found, hfound, _⟩ := Option.bind_eq_some_iff.mp hopens
    exact absurd (opensWithInk_of_classify hfound) (Bool.eq_false_iff.mp hsetIn.2)
  · exact absurd hcontinues (not_continuesType hbody hwritten h hflush line)

end Canonical

end Docstring.Rest
