-- What a Google-style docstring says about the value that is returned or yielded: the last section on
-- it counts, and it says a type if a type stands before the first colon of its first line.
import Docstring.Proofs.Document.Spliced
import Docstring.Proofs.Document.Value
import Docstring.Proofs.Google.Kept
import Docstring.Proofs.Google.Outline
import Docstring.Proofs.Text.Bracket

namespace Docstring.Google

open Text

/-! ## Lines that say a type -/

/-- A line starts with a type and a colon. -/
def SaysType (line : Line) : Prop := ∃ cut ∈ cutAtColon? line, looksLikeType (trim cut.1) = true

theorem cutAtColonFrom?_append_right {depth : Int} {t left right : Text} (rest : Text)
    (h : cutAtColonFrom? depth t = some (left, right)) :
    cutAtColonFrom? depth (t ++ rest) = some (left, right ++ rest) := by
  induction t generalizing depth left with
  | nil => cases h
  | cons c t ih =>
    rw [cutAtColonFrom?] at h
    rw [List.cons_append, cutAtColonFrom?]
    split at h
    · rename_i hcolon
      cases h
      rw [if_pos hcolon]
    · rename_i hcolon
      obtain ⟨⟨inner, right'⟩, hcut, hpair⟩ := Option.map_eq_some_iff.mp h
      cases hpair
      rw [if_neg hcolon, ih hcut, Option.map_some]

theorem SaysType.append {line : Line} (h : SaysType line) (rest : Text) :
    SaysType (line ++ rest) := by
  obtain ⟨⟨left, right⟩, hcut, htype⟩ := h
  exact ⟨(left, right ++ rest), cutAtColonFrom?_append_right rest hcut, htype⟩

theorem saysType_space_cons {line : Line} : SaysType (' ' :: line) ↔ SaysType line := by
  have hcut : cutAtColon? (' ' :: line) =
      (cutAtColon? line).map fun cut => (' ' :: cut.1, cut.2) := by
    rw [cutAtColon?, cutAtColonFrom?, if_neg (by simp)]
    rfl
  have htrim : ∀ left, trim (' ' :: left) = trim left := fun left =>
    trim_space_cons left isSpace_space
  unfold SaysType
  rw [hcut]
  cases cutAtColon? line <;> simp [htrim]

theorem saysType_stripColumns {line : Line} (columns : Nat) :
    SaysType (stripColumns columns line) ↔ SaysType line := by
  fun_induction stripColumns columns line with
  | case1 columns rest ih => rw [ih, saysType_space_cons]
  | case2 => rfl

theorem saysType_spaces_append {line : Line} (columns : Nat) :
    SaysType (spaces columns ++ line) ↔ SaysType line := by
  rw [← saysType_stripColumns columns, stripColumns_spaces_append]

theorem SaysType.not_blank {line : Line} (h : SaysType line) : isBlank line = false := by
  obtain ⟨cut, hcut, _⟩ := h
  by_contra hblank
  rw [Bool.not_eq_false] at hblank
  have hcolon : ':' ∉ line := fun hmem =>
    absurd (List.all_eq_true.mp hblank ':' hmem) (by decide)
  rw [cutAtColon?_of_notMem hcolon] at hcut
  cases hcut

theorem SaysType.unindent {line : Line} (h : SaysType line) (columns : Nat) :
    SaysType (unindent columns line) := by
  rw [Text.unindent, h.not_blank, if_neg Bool.false_ne_true]
  exact (saysType_stripColumns columns).mpr h

/-! ## Where sections open -/

theorem opensWithInk_of_header? {line : Line} {header : Header} (h : header? line = some header) :
    opensWithInk line = true := by
  unfold header? at h
  split at h
  · rename_i hcolon
    obtain ⟨title, rfl⟩ := List.getLast?_eq_some_iff.mp hcolon
    rw [List.dropLast_concat] at h
    apply opensWithInk_append
    unfold headerOfTitle? at h
    split at h
    · exact SectionKind.opensWithInk_of_ofTitle? ‹_›
    · have htable : ∀ known ∈ unsupportedTitles, opensWithInk known.toList = true := by decide
      split at h
      · rename_i hknown
        obtain ⟨known, hmem, htitle⟩ := List.any_eq_true.mp hknown
        exact of_decide_eq_true htitle ▸ htable known hmem
      · cases h
  · cases h

theorem header?_of_openedAt? {line : Line} {rest : List Line} {kind : SectionKind}
    (h : openedAt? (line :: rest) = some kind) :
    ∃ keywordOnly, header? line = some (.opens kind keywordOnly) := by
  rw [openedAt?] at h
  split at h
  · rename_i hheader
    cases h
    exact ⟨_, hheader⟩
  · cases h

theorem isHeader_of_openedAt? {kind : SectionKind}
    (h : openedAt? lines = some kind) : isHeader (lines.headD []) = true := by
  cases lines with
  | nil => cases h
  | cons line rest =>
    obtain ⟨_, hheader⟩ := header?_of_openedAt? h
    rw [List.headD_cons, isHeader, hheader]
    rfl

/-- A header line opens a section, whatever stands below it. -/
def opener : Opener :=
  .ofLine (fun line => openedAt? [line]) fun h =>
    opensWithInk_of_header? (header?_of_openedAt? h).choose_spec

theorem at?_opener (lines : List Line) (i : Nat) :
    opener.at? lines i = openedAt? (lines.drop i) := by
  rw [Opener.at?, ← List.head?_drop]
  cases lines.drop i <;> rfl

/-! ## Reading -/

/-- The section that opens at a line says a type: on the line below. -/
def TypedAt (lines : List Line) (i : Nat) : Prop :=
  ∃ line ∈ lines[i + 1]?, 0 < indentWidth line ∧ SaysType line

variable {text : Text} {d : Document}

theorem atHeader_of_openedAt? {lines : List Line} {kind : SectionKind}
    (h : openedAt? lines = some kind) : atHeader lines = true := by
  cases lines with
  | nil => cases h
  | cons line rest =>
    obtain ⟨_, hheader⟩ := header?_of_openedAt? h
    simp [atHeader, isHeader, hheader]

/-- A section that opens somewhere is recorded. -/
theorem exists_span {i : Nat} {kind : SectionKind} (h : parse text = .ok d)
    (hopens : opener.at? (normalLines text) i = some kind) :
    ∃ s ∈ d.metadata.sections, s.kind = kind ∧ s.first = i ∧ i < s.last := by
  rw [at?_opener] at hopens
  obtain ⟨s, hs, rfl⟩ := exists_section_of_header h (atHeader_of_openedAt? hopens)
  obtain ⟨lo, htiled⟩ := tiled_parse h
  refine ⟨s, hs, ?_, rfl, htiled.nonempty s hs⟩
  exact Option.some.inj ((htiled.opened s hs).symm.trans hopens)

theorem value_addEntries {add : Document → Entry → ParseResult} {d d' : Document}
    {body : List Line} {kind : SectionKind}
    (hadd : ∀ d e d', add d e = .ok d' → d'.value kind = d.value kind)
    (h : addEntries add d body = .ok d') : d'.value kind = d.value kind := by
  obtain ⟨found, _, hfold⟩ := addEntries_cases h
  exact foldlM_unchanged (fun d => d.value kind) hadd hfold

/-- A section on a value takes the place of the one before it. -/
theorem value_addBlock {d d' : Document} {b : Block} {kind : SectionKind}
    (hkind : kind = .returns ∨ kind = .yields) (h : addBlock d b = .ok d') :
    d'.value kind =
      if b.kind = kind then some (returnDoc (dedentBy bodyIndent b.body)) else d.value kind := by
  have hparam : ∀ d e d', addParam b.keywordOnly d e = .ok d' → d'.value kind = d.value kind := by
    intro d e d' he
    obtain ⟨p, first, rfl, _⟩ := addParam_cases he
    exact d.value_addParameter kind p
  have hraise : ∀ d e d', addRaise d e = .ok d' → d'.value kind = d.value kind := by
    intro d e d' he
    obtain ⟨type, first, rfl⟩ := addRaise_cases he
    rfl
  unfold addBlock at h
  cases hblock : b.kind <;> simp only [hblock] at h
  case params =>
    rw [value_addEntries hparam h, if_neg (SectionKind.ne_of_value hkind (by simp) (by simp)),
      Document.value_recordSection]
  case raises =>
    rw [value_addEntries hraise h, if_neg (SectionKind.ne_of_value hkind (by simp) (by simp)),
      Document.value_recordSection]
  case returns | yields =>
    cases h
    rcases hkind with rfl | rfl <;> rfl
  all_goals
    cases h
    rw [if_neg (SectionKind.ne_of_value hkind (by simp) (by simp))]
    simp

theorem isSome_type_returnDoc {line : Line} (rest : List Line) (h : SaysType line) :
    (returnDoc (line :: rest)).type.isSome = true := by
  obtain ⟨⟨left, right⟩, hcut, htype⟩ := h
  have hink : isBlank line = false := SaysType.not_blank ⟨_, hcut, htype⟩
  simp only [returnDoc, trimBlankLines_ink_cons rest hink, Option.mem_def.mp hcut, htype, if_true,
    Option.isSome_some]

/-- What a docstring says about a value it says in a section that is opened there: in the last one, if
there is one. -/
theorem value_parse {kind : SectionKind} (hkind : kind = .returns ∨ kind = .yields)
    (h : parse text = .ok d) :
    (∃ i body, opener.at? (normalLines text) i = some kind ∧
        StandsAt (normalLines text) (i + 1) body ∧
        ⟨kind, i, i + 1 + body.length⟩ ∈ d.metadata.sections ∧
        d.value kind = some (returnDoc (dedentBy bodyIndent body))) ∨
      (∀ i, opener.at? (normalLines text) i ≠ some kind) ∧ d.value kind = none := by
  obtain ⟨n, blocks, hfold, hdivides⟩ := exists_divides h
  obtain ⟨lo, htiled⟩ := tiled_parse h
  have hsections := foldlM_map (fun d => d.metadata.sections)
    (fun _ _ _ hb => (keeps_addBlock hb).2) hfold
  have hvalue := value_of_sections Block.span
    (fun b doc => doc = returnDoc (dedentBy bodyIndent b.body))
    (fun d d' b hadd hsame => ⟨_, (value_addBlock hkind hadd).trans (if_pos hsame), rfl⟩)
    (fun d d' b hadd hne => (value_addBlock hkind hadd).trans (if_neg hne)) hsections
    (by rcases hkind with rfl | rfl <;> rfl) hfold
  refine hvalue.imp (fun ⟨b, hb, hsame, hspan, doc, hdoc, hread⟩ => ?_) fun ⟨hnone, hkept⟩ => ?_
  · refine ⟨b.first, b.body, ?_, hdivides.stands _ (List.mem_map_of_mem hb), hsame ▸ hspan,
      hread ▸ hdoc⟩
    rw [at?_opener, ← hsame]
    exact htiled.opened b.span hspan
  · refine ⟨fun i hopens => ?_, hkept⟩
    obtain ⟨s, hs, hsame, _⟩ := exists_span h hopens
    exact hnone s hs hsame

/-- A document has a section on a value if one is opened. -/
theorem isSome_value_iff {kind : SectionKind} (hkind : kind = .returns ∨ kind = .yields)
    (h : parse text = .ok d) : (d.value kind).isSome = true ↔
      ∃ i, opener.at? (normalLines text) i = some kind := by
  rcases value_parse hkind h with ⟨i, body, hopens, _, _, hvalue⟩ | ⟨hnone, hvalue⟩
  · simp [hvalue, show ∃ i, opener.at? (normalLines text) i = some kind from ⟨i, hopens⟩]
  · simp [hvalue, hnone]

/-- A document has a type for a value if every section on it says one. -/
theorem isSome_type_of_typedAt {kind : SectionKind} (hkind : kind = .returns ∨ kind = .yields)
    (h : parse text = .ok d) (hopened : ∃ i, opener.at? (normalLines text) i = some kind)
    (htyped : ∀ i, opener.at? (normalLines text) i = some kind → TypedAt (normalLines text) i) :
    ((d.value kind).bind ReturnDoc.type).isSome = true := by
  rcases value_parse hkind h with ⟨i, body, hopens, hstands, hspan, hvalue⟩ | ⟨hnone, _⟩
  · obtain ⟨line, hline, hdeep, htype⟩ := htyped i hopens
    have hclosed : openedAt? ((normalLines text).drop (i + 1)) = none := by
      rw [← at?_opener]
      by_contra hother
      obtain ⟨other, hother⟩ := Option.ne_none_iff_exists'.mp hother
      obtain ⟨line', hline', hink, _⟩ := Opener.at?_eq_some hother
      obtain rfl : line' = line := Option.some.inj (hline'.symm.trans hline)
      rw [indentWidth_of_opensWithInk hink] at hdeep
      exact Nat.lt_irrefl 0 hdeep
    obtain ⟨lo, htiled⟩ := tiled_parse h
    have hlast := htiled.lt_last hspan (k := 1) (List.getElem?_eq_some_iff.mp hline).1 hline
      htype.not_blank fun n hpos hle => by
        obtain rfl : n = 1 := Nat.le_antisymm hle hpos
        exact hclosed
    have hne : body ≠ [] := by
      rintro rfl
      simp at hlast
    obtain ⟨rest, rfl⟩ := hstands.eq_cons hne hline
    obtain ⟨k, hk⟩ := exists_dedentBy bodyIndent (line :: rest)
    rw [hvalue, hk, List.map_cons]
    exact isSome_type_returnDoc _ (htype.unindent k)
  · exact absurd hopened.choose_spec (hnone _)

theorem isClean_returnDoc {body : List Line} (hclean : ∀ line ∈ body, IsClean line) :
    (returnDoc body).IsClean := by
  have hkept : ∀ line ∈ trimBlankLines body, IsClean line := fun line hl =>
    hclean line ((isInfix_trimBlankLines body).subset hl)
  unfold returnDoc
  split
  · rintro t ⟨⟩
    simp [splitLines_of_notMem, isClean_nil]
  · rename_i first rest htrim
    rw [htrim] at hkept
    have huntyped : ReturnDoc.IsClean { description := joinProse? (first :: rest) } :=
      fun t ht => (isVerbatim_of_joinProse? hkept ht).1.clean
    simp only
    split
    · rename_i left right hcut
      split
      · have hn : '\n' ∉ right := fun hmem =>
          (hkept first (by simp)).newline (by simp [eq_append_of_cutAtColonFrom? hcut, hmem])
        exact fun t ht => (isVerbatim_of_description? hn
          (fun line hl => hkept line (by simp [hl])) ht).clean
      · exact huntyped
    · exact huntyped

/-- What is said about a value is read from clean lines. -/
theorem isClean_value {kind : SectionKind} (hkind : kind = .returns ∨ kind = .yields)
    (h : parse text = .ok d) : ∀ doc ∈ d.value kind, doc.IsClean := by
  intro doc hdoc
  rcases value_parse hkind h with ⟨i, body, _, hstands, _, hvalue⟩ | ⟨_, hvalue⟩
  · rw [hvalue, Option.mem_some_iff] at hdoc
    rw [← hdoc]
    have hclean : ∀ line ∈ body, IsClean line := fun line hl =>
      (isNormal_normalLines text).clean line (List.mem_of_mem_drop (hstands.subset hl))
    exact isClean_returnDoc fun line => isClean_of_mem_dedentBy hclean
  · rw [hvalue] at hdoc
    cases hdoc

/-! ## Writing -/

theorem typedAt_of_shown {lines all : List Line} {place j : Nat} (hshown : Shown lines all place)
    (h : TypedAt lines j) : TypedAt all (place + j) := by
  obtain ⟨line, hline, hdeep, htype⟩ := h
  have hne : line ≠ [] := by
    rintro rfl
    exact absurd htype.not_blank (by decide)
  exact ⟨line, hshown.getElem? (n := j + 1) hline hne, hdeep, htype⟩

/-- A section that says a type is a signature. -/
theorem isSignature_of_typedAt {lines : List Line} {i : Nat} {kind : SectionKind}
    (hopens : opener.at? lines i = some kind) (h : TypedAt lines i) :
    ∃ line, lines[i]? = some line ∧ isSignature .google line lines[i + 1]? = true := by
  obtain ⟨below, hbelow, hdeep, htype⟩ := h
  obtain ⟨line, hline, _, hkind⟩ := Opener.at?_eq_some hopens
  have hkind : openedAt? [line] = some kind := hkind
  obtain ⟨_, hheader⟩ := header?_of_openedAt? hkind
  refine ⟨line, hline, ?_⟩
  simp [isSignature, isGoogleSignature, Option.mem_def.mp hbelow, hheader, htype.not_blank, hdeep]

/-- The lines of a section on a value: the header, the type with the start of the description, and
the rest of the description. -/
theorem exists_sectionLines {kind : SectionKind} (hkind : kind = .returns ∨ kind = .yields)
    {doc : ReturnDoc} {type : Text} (hdoc : d.value kind = some doc) (htype : doc.type = some type)
    (hline : IsOneLine type) (hclean : doc.IsClean) (width : Nat) :
    ∃ more below, sectionLines d kind width =
        headerLine kind :: indent bodyIndent ((type ++ [':'] ++ Layout.aside more) :: below) ∧
      IsClean (type ++ [':'] ++ Layout.aside more) ∧ ∀ line ∈ below, IsClean line := by
  have hcolon : IsOneLine (type ++ [':']) :=
    IsOneLine.append hline.opens hline.newline (by decide)
  obtain ⟨more, below, hlines, htrim, hn, hbelow⟩ := Layout.exists_hanging bodyIndent width
    bodyIndent hcolon (ReturnDoc.IsClean.getD hclean)
  refine ⟨more, below, ?_, Layout.isClean_append_aside hcolon htrim hn, hbelow⟩
  rw [indent_cons_of_ne _ _ (by simp), ← hlines]
  rcases hkind with rfl | rfl
  · have hdoc : d.returns = some doc := hdoc
    simp [sectionLines, underHeader, returnLines, hdoc, htype]
  · have hdoc : d.yields = some doc := hdoc
    simp [sectionLines, underHeader, returnLines, hdoc, htype]

theorem isSection_sectionLines {kind : SectionKind} (hkind : kind = .returns ∨ kind = .yields)
    {doc : ReturnDoc} {type : Text} (hdoc : d.value kind = some doc) (htype : doc.type = some type)
    (hline : IsOneLine type) (hsaid : SaysType (type ++ [':'])) (hclean : doc.IsClean)
    (width : Nat) : opener.IsSection TypedAt TypedAt kind (sectionLines d kind width) := by
  obtain ⟨more, below, hlines, hbeside, hbelow⟩ :=
    exists_sectionLines hkind hdoc htype hline hclean width
  have hall : ∀ line ∈ (type ++ [':'] ++ Layout.aside more) :: below, IsClean line :=
    List.forall_mem_cons.mpr ⟨hbeside, hbelow⟩
  have hfirst : ∀ rest, opener.at? (headerLine kind :: rest) 0 = some kind := by
    intro rest
    rw [at?_opener, List.drop_zero, openedAt?, header?_headerLine]
  have htyped : ∀ rest, TypedAt (headerLine kind ::
      indent bodyIndent ((type ++ [':'] ++ Layout.aside more) :: below) ++ rest) 0 := by
    intro rest
    rw [indent_cons_of_ne _ _ (by simp)]
    refine ⟨_, rfl, ?_, (saysType_spaces_append _).mpr (hsaid.append _)⟩
    rw [indentWidth_spaces_append _ hbeside.tab]
    exact Nat.add_pos_left (by decide) _
  rw [hlines]
  refine ⟨?_, ?_, ?_, fun rest _ => ⟨0, Nat.succ_pos _, hfirst _, htyped rest⟩⟩
  · refine List.forall_mem_cons.mpr ⟨?_, fun line => isClean_of_mem_indent hall⟩
    cases kind <;> decide
  · exact ⟨headerLine kind, rfl, opensWithInk_of_header? (header?_headerLine kind), id⟩
  · intro rest _ j hj other hopens
    cases j with
    | zero => exact ⟨Option.some.inj (hopens.symm.trans (hfirst _)), htyped rest⟩
    | succ j =>
      rw [List.cons_append, Opener.at?_cons_succ] at hopens
      exact (Opener.at?_indent_append (by decide) (Nat.lt_of_succ_lt_succ hj) hopens).elim

/-- Every line of the section is its header or indented as the body of a section is. -/
theorem isHeader_or_le_indentWidth {kind : SectionKind} (hkind : kind = .returns ∨ kind = .yields)
    {doc : ReturnDoc} {type : Text} (hdoc : d.value kind = some doc) (htype : doc.type = some type)
    (hline : IsOneLine type) (hclean : doc.IsClean) (width : Nat) :
    ∀ line ∈ sectionLines d kind width, isBlank line = false →
      isHeader (trim line) = true ∨ bodyIndent ≤ indentWidth line := by
  obtain ⟨more, below, hlines, hbeside, hbelow⟩ :=
    exists_sectionLines hkind hdoc htype hline hclean width
  rw [hlines]
  intro line hl hink
  rcases List.mem_cons.mp hl with rfl | hl
  · exact .inl (by cases kind <;> decide)
  · have hdeep := deep_of_mem_indent (List.forall_mem_cons.mpr ⟨hbeside, hbelow⟩) hl
    exact .inr (hdeep.resolve_left (by simp [hink]))

/-- No title has a colon. -/
theorem headerOfTitle?_of_colon {title : Text} (h : ':' ∈ title) : headerOfTitle? title = none := by
  have htitles : ∀ entry ∈ SectionKind.titles, ':' ∉ entry.1.toList := by decide
  have hknown : ∀ known ∈ unsupportedTitles, ':' ∉ known.toList := by decide
  have hnone : SectionKind.ofTitle? title = none := by
    rw [SectionKind.ofTitle?, Option.map_eq_none_iff, List.find?_eq_none]
    intro entry hentry hsame
    exact htitles entry hentry (of_decide_eq_true hsame ▸ h)
  rw [headerOfTitle?, hnone]
  refine if_neg fun hany => ?_
  obtain ⟨known, hmem, hsame⟩ := List.any_eq_true.mp hany
  exact hknown known hmem (of_decide_eq_true hsame ▸ h)

/-- A type with a colon after it is a header only if it is a title. -/
theorem header?_beside {type more : Text} (htitle : headerOfTitle? type = none) :
    header? (type ++ [':'] ++ Layout.aside more) = none := by
  unfold Layout.aside
  split
  · simp [header?, htitle]
  · rename_i hne
    obtain ⟨init, last, rfl⟩ := (List.eq_nil_or_concat' more).resolve_left (by simpa using hne)
    rw [header?, headerOfTitle?_of_colon, ite_self]
    have hinit : type ++ [':'] ++ ' ' :: (init ++ [last]) = type ++ ':' :: ' ' :: init ++ [last] := by
      simp
    rw [hinit, List.dropLast_concat]
    simp

/-- Below its header, the section has no margin: the type is indented as the body of a section is.
A type that is a section title would be a header there. -/
theorem bodyMargin?_sectionLines {kind : SectionKind} (hkind : kind = .returns ∨ kind = .yields)
    {doc : ReturnDoc} {type : Text} (hdoc : d.value kind = some doc) (htype : doc.type = some type)
    (hline : IsOneLine type) (hclean : doc.IsClean) (htitle : headerOfTitle? type = none)
    (width : Nat) (rest : List Line) :
    (bodyMargin? (sectionLines d kind width ++ rest)).getD 0 = 0 := by
  obtain ⟨more, below, hlines, hbeside, hbelow⟩ :=
    exists_sectionLines hkind hdoc htype hline hclean width
  have hopens : opensWithInk (type ++ [':'] ++ Layout.aside more) = true :=
    opensWithInk_append _ (opensWithInk_append _ hline.opens)
  have htrim : trim (headerLine kind) = headerLine kind := by cases kind <;> decide
  rw [hlines, indent_cons_of_ne _ _ (by simp), List.cons_append, bodyMargin?_eq_zero_iff htrim]
  refine .inl ⟨_, List.mem_cons_self, ?_, ?_⟩
  · rw [isBlank_spaces_append, not_blank_of_opensWithInk hopens]
  · have hheader : isHeader (trim (spaces bodyIndent ++ (type ++ [':'] ++ Layout.aside more))) =
        false := by
      rw [trim_append_of_blank (isIndentation_spaces _).isBlank,
        trim_of_ink hopens hbeside.trimmed, isHeader, header?_beside htitle]
      rfl
    rw [marginOf, hheader, isHeader, header?_headerLine, indentWidth_spaces_append _ hbeside.tab,
      indentWidth_of_opensWithInk hopens]
    rfl

end Docstring.Google
