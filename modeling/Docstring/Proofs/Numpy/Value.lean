-- What a NumPy-style docstring says about the value that is returned or yielded: the last section on
-- it counts, and the first line of that one is the type, unless the line is indented.
import Docstring.Proofs.Document.Value
import Docstring.Proofs.Numpy.Kept
import Docstring.Proofs.Numpy.Outline

namespace Docstring.Numpy

open Text

variable {text : Text} {d : Document} {kind : SectionKind}

/-! ## Where sections open -/

theorem exists_header_of_openedAt? {lines : List Line} (h : openedAt? lines = some kind) :
    ∃ title underline rest, lines = title :: underline :: rest ∧
      header? title underline = some (.opens kind) := by
  unfold openedAt? at h
  split at h
  · rename_i title underline rest
    split at h
    · rename_i hheader
      cases h
      exact ⟨title, underline, rest, rfl, hheader⟩
    · cases h
  · cases h

theorem atHeader_of_openedAt? {lines : List Line} (h : openedAt? lines = some kind) :
    atHeader lines = true := by
  obtain ⟨title, underline, rest, rfl, hheader⟩ := exists_header_of_openedAt? h
  simp [atHeader, hheader]

theorem opensWithInk_of_header? {title underline : Line}
    (h : header? title underline = some (.opens kind)) : opensWithInk title = true := by
  unfold header? at h
  split at h
  · unfold headerOfTitle? at h
    split at h
    · exact SectionKind.opensWithInk_of_ofTitle? ‹_›
    · split at h <;> cases h
  · cases h

theorem opensWithInk_of_isUnderline {line : Line} (h : isUnderline line = true) :
    opensWithInk line = true := by
  obtain ⟨rest, rfl⟩ := exists_dash_of_isUnderline h
  rfl

/-- A title opens a section if the line below underlines it. -/
def opener : Opener where
  opens line next := next.bind fun below => openedAt? [line, below]
  completes line := isUnderline line = true
  ink h := by
    obtain ⟨below, _, hopens⟩ := Option.bind_eq_some_iff.mp h
    obtain ⟨title, underline, rest, hlines, hheader⟩ := exists_header_of_openedAt? hopens
    obtain ⟨rfl, _⟩ := List.cons_eq_cons.mp hlines
    exact opensWithInk_of_header? hheader
  ink_of_completes := opensWithInk_of_isUnderline
  alone_or_completed h := by
    obtain ⟨below, hbelow, hopens⟩ := Option.bind_eq_some_iff.mp h
    obtain ⟨title, underline, rest, hlines, hheader⟩ := exists_header_of_openedAt? hopens
    simp only [List.cons.injEq] at hlines
    obtain ⟨rfl, rfl, rfl⟩ := hlines
    exact .inr ⟨below, hbelow, isUnderline_of_header? hheader⟩

theorem at?_opener (lines : List Line) (i : Nat) :
    opener.at? lines i = openedAt? (lines.drop i) := by
  have hnext : lines[i + 1]? = (lines.drop i).tail.head? := by
    rw [List.tail_drop, List.head?_drop]
  rw [Opener.at?, hnext, ← List.head?_drop]
  rcases lines.drop i with _ | ⟨title, _ | ⟨underline, rest⟩⟩ <;> rfl

/-- Without an underline no section is opened. -/
theorem at?_eq_none {lines : List Line} {i : Nat}
    (h : ∀ line ∈ lines[i + 1]?, ¬opener.completes line) : opener.at? lines i = none := by
  by_contra hopens
  obtain ⟨kind, hopens⟩ := Option.ne_none_iff_exists'.mp hopens
  obtain ⟨line, _, _, hline⟩ := Opener.at?_eq_some hopens
  obtain ⟨below, hbelow, hopened⟩ := Option.bind_eq_some_iff.mp hline
  obtain ⟨title, underline, rest, hlines, hheader⟩ := exists_header_of_openedAt? hopened
  simp only [List.cons.injEq] at hlines
  obtain ⟨rfl, rfl, rfl⟩ := hlines
  exact h below hbelow (isUnderline_of_header? hheader)

/-- A section that opens somewhere is recorded. -/
theorem exists_span {i : Nat} (h : parse text = .ok d)
    (hopens : opener.at? (normalLines text) i = some kind) :
    ∃ s ∈ d.metadata.sections, s.kind = kind ∧ s.first = i ∧ i < s.last := by
  rw [at?_opener] at hopens
  obtain ⟨s, hs, rfl⟩ := exists_section_of_header h (atHeader_of_openedAt? hopens)
  obtain ⟨lo, htiled⟩ := tiled_parse h
  refine ⟨s, hs, ?_, rfl, htiled.nonempty s hs⟩
  exact Option.some.inj ((htiled.opened s hs).symm.trans hopens)

/-! ## Reading -/

/-- A line is a type, or a name with a type behind a colon. -/
def NamesType (line : Line) : Prop :=
  opensWithInk line = true ∧ ∀ cut ∈ cutAtColon? line, isBlank cut.2 = false

/-- The section that opens at a line says a type: below its underline, where no other section
opens. -/
def TypedAt (lines : List Line) (i : Nat) : Prop :=
  (∃ line ∈ lines[i + 2]?, NamesType line) ∧ opener.at? lines (i + 2) = none

/-- What the lines of a section say about a value. -/
def IsReadFrom (body : List Line) (doc : ReturnDoc) : Prop :=
  entries body = [] ∧ doc = .opened ∨ ∃ e, entries body = [e] ∧ doc = (returnEntry e).1

theorem exists_of_addReturn {d d' : Document} {body : List Line}
    (h : addReturn kind d body = .ok d') :
    ∃ ws doc, d' = setReturn kind (d.warnAll ws) doc ∧ IsReadFrom body doc := by
  unfold addReturn at h
  split at h
  · rename_i hnone
    cases h
    exact ⟨[], .opened, by simp [Document.warnAll], .inl ⟨hnone, rfl⟩⟩
  · rename_i e hone
    cases h
    exact ⟨_, _, rfl, .inr ⟨e, hone, rfl⟩⟩
  · cases h

/-- A section on a value takes the place of the one before it. -/
theorem value_addBlock {d d' : Document} {b : Block}
    (hkind : kind = .returns ∨ kind = .yields) (h : addBlock d b = .ok d') :
    (b.kind = kind → ∃ doc, d'.value kind = some doc ∧ IsReadFrom (trimBlankLines b.body) doc) ∧
      (b.kind ≠ kind → d'.value kind = d.value kind) := by
  have hparam : ∀ d e d', addParams d e = .ok d' → d'.value kind = d.value kind := by
    intro d e d' he
    obtain ⟨head, type, default, names, _, hfold⟩ := addParams_cases he
    refine foldlM_unchanged (fun d => d.value kind) (fun d raw d' hp => ?_) hfold
    obtain ⟨p, rfl, _⟩ := addParam_cases hp
    exact d.value_addParameter kind p
  have hraise : ∀ d e d', addRaise d e = .ok d' → d'.value kind = d.value kind := by
    intro d e d' he
    obtain ⟨type, rfl⟩ := addRaise_cases he
    rfl
  unfold addBlock at h
  cases hblock : b.kind <;> simp only [hblock] at h
  case params =>
    refine ⟨fun hsame => absurd hsame (SectionKind.ne_of_value hkind (by simp) (by simp)), fun _ => ?_⟩
    rw [foldlM_unchanged (fun d => d.value kind) hparam h, Document.value_recordSection]
  case raises =>
    refine ⟨fun hsame => absurd hsame (SectionKind.ne_of_value hkind (by simp) (by simp)), fun _ => ?_⟩
    rw [foldlM_unchanged (fun d => d.value kind) hraise h, Document.value_recordSection]
  case returns | yields =>
    obtain ⟨ws, doc, rfl, hread⟩ := exists_of_addReturn h
    refine ⟨?_, fun hne => ?_⟩
    · rintro rfl
      exact ⟨doc, rfl, hread⟩
    · rcases hkind with rfl | rfl <;> first | exact absurd rfl hne | rfl
  all_goals
    cases h
    exact ⟨fun hsame => absurd hsame (SectionKind.ne_of_value hkind (by simp) (by simp)), fun _ => by simp⟩

/-- What a docstring says about a value it says in a section that is opened there: in the last one, if
there is one. -/
theorem value_parse (hkind : kind = .returns ∨ kind = .yields) (h : parse text = .ok d) :
    (∃ i body doc, opener.at? (normalLines text) i = some kind ∧
        StandsAt (normalLines text) (i + 2) body ∧
        ⟨kind, i, i + 2 + (dropBlankEnd body).length⟩ ∈ d.metadata.sections ∧
        d.value kind = some doc ∧ IsReadFrom (trimBlankLines body) doc) ∨
      (∀ i, opener.at? (normalLines text) i ≠ some kind) ∧ d.value kind = none := by
  obtain ⟨n, blocks, hfold, hdivides⟩ := exists_divides h
  obtain ⟨lo, htiled⟩ := tiled_parse h
  have hsections := foldlM_map (fun d => d.metadata.sections)
    (fun _ _ _ hb => (keeps_addBlock hb).2) hfold
  have hvalue := value_of_sections Block.span
    (fun b doc => IsReadFrom (trimBlankLines b.body) doc)
    (fun d d' b hadd => (value_addBlock hkind hadd).1)
    (fun d d' b hadd => (value_addBlock hkind hadd).2) hsections
    (by rcases hkind with rfl | rfl <;> rfl) hfold
  refine hvalue.imp (fun ⟨b, hb, hsame, hspan, doc, hdoc, hread⟩ => ?_) fun ⟨hnone, hkept⟩ => ?_
  · refine ⟨b.first, b.body, doc, ?_, hdivides.stands _ (List.mem_map_of_mem hb), hsame ▸ hspan,
      hdoc, hread⟩
    rw [at?_opener, ← hsame]
    exact htiled.opened b.span hspan
  · refine ⟨fun i hopens => ?_, hkept⟩
    obtain ⟨s, hs, hsame, _⟩ := exists_span h hopens
    exact hnone s hs hsame

/-- A document has a section on a value if one is opened. -/
theorem isSome_value_iff (hkind : kind = .returns ∨ kind = .yields)
    (h : parse text = .ok d) : (d.value kind).isSome = true ↔
      ∃ i, opener.at? (normalLines text) i = some kind := by
  rcases value_parse hkind h with ⟨i, body, doc, hopens, _, _, hvalue, _⟩ | ⟨hnone, hvalue⟩
  · simp [hvalue, show ∃ i, opener.at? (normalLines text) i = some kind from ⟨i, hopens⟩]
  · simp [hvalue, hnone]

/-- The head of the first entry stays what it is. -/
theorem head?_foldl_addLine (lines : List Line) {found : List Entry} {head : Option Line}
    (h : found.head?.map Entry.head = some head) :
    (lines.foldl addLine found).head?.map Entry.head = some head := by
  induction lines generalizing found with
  | nil => exact h
  | cons line lines ih =>
    rw [List.foldl_cons]
    apply ih
    rcases addLine_cases found line with ⟨_, _, hadd⟩ | ⟨_, ⟨init, last, rfl, hadd⟩ | ⟨rfl, _⟩⟩
    · rw [hadd]
      cases found with
      | nil => cases h
      | cons first rest => exact h
    · rw [hadd]
      cases init <;> exact h
    · cases h

theorem isSome_type_of_isReadFrom {line : Line} {rest : List Line} {doc : ReturnDoc}
    (hline : NamesType line) (h : IsReadFrom (line :: rest) doc) : doc.type.isSome = true := by
  obtain ⟨hink, hcut⟩ := hline
  have hopens : addLine [] line = [⟨some line, []⟩] := by
    simp [addLine, not_blank_of_opensWithInk hink, indentWidth_of_opensWithInk hink]
  obtain ⟨e, hhead, hsame⟩ : ∃ e, (entries (line :: rest)).head? = some e ∧ e.head = some line := by
    rw [entries, List.foldl_cons, hopens]
    exact Option.map_eq_some_iff.mp (head?_foldl_addLine rest rfl)
  have hnonempty : ∀ t : Text, isBlank t = false → (nonEmpty? (trim t)).isSome = true := by
    intro t ht
    rw [nonEmpty?, if_neg]
    · rfl
    · rw [List.isEmpty_iff]
      intro hnil
      rw [← isBlank_trim, hnil] at ht
      exact absurd ht (by decide)
  rcases h with ⟨hnone, _⟩ | ⟨e', hone, rfl⟩
  · rw [hnone] at hhead
    cases hhead
  · rw [hone, List.head?_singleton, Option.some.injEq] at hhead
    rw [hhead]
    simp only [returnEntry, hsame]
    split
    · exact hnonempty _ (hcut _ ‹_›)
    · exact hnonempty _ (not_blank_of_opensWithInk hink)

/-- A document has a type for a value if every section on it says one. -/
theorem isSome_type_of_typedAt (hkind : kind = .returns ∨ kind = .yields)
    (h : parse text = .ok d) (hopened : ∃ i, opener.at? (normalLines text) i = some kind)
    (htyped : ∀ i, opener.at? (normalLines text) i = some kind → TypedAt (normalLines text) i) :
    ((d.value kind).bind ReturnDoc.type).isSome = true := by
  rcases value_parse hkind h with ⟨i, body, doc, hopens, hstands, hspan, hvalue, hread⟩ | ⟨hnone, _⟩
  · obtain ⟨⟨line, hline, hnames⟩, hclosed⟩ := htyped i hopens
    have hink : isBlank line = false := not_blank_of_opensWithInk hnames.1
    have hunderline : openedAt? ((normalLines text).drop (i + 1)) = none := by
      rw [at?_opener] at hopens
      obtain ⟨title, underline, rest, hlines, hheader⟩ := exists_header_of_openedAt? hopens
      by_contra hother
      obtain ⟨other, hother⟩ := Option.ne_none_iff_exists'.mp hother
      rw [drop_succ_of_drop hlines] at hother
      have hat := atHeader_of_openedAt? hother
      rw [atHeader_of_isUnderline (isUnderline_of_header? hheader)] at hat
      cases hat
    obtain ⟨lo, htiled⟩ := tiled_parse h
    have hlast := htiled.lt_last hspan (k := 2) (List.getElem?_eq_some_iff.mp hline).1 hline hink
      fun n hpos hle => by
        obtain rfl | rfl : n = 1 ∨ n = 2 := by omega
        · exact hunderline
        · rw [← at?_opener]
          exact hclosed
    have hne : body ≠ [] := by
      rintro rfl
      simp [dropBlankEnd] at hlast
    obtain ⟨rest, rfl⟩ := hstands.eq_cons hne hline
    rw [trimBlankLines_ink_cons rest hink] at hread
    rw [hvalue]
    exact isSome_type_of_isReadFrom hnames hread
  · exact absurd hopened.choose_spec (hnone _)

/-- What is said about a value is read from clean lines. -/
theorem isClean_value (hkind : kind = .returns ∨ kind = .yields) (h : parse text = .ok d) :
    ∀ doc ∈ d.value kind, doc.IsClean := by
  intro doc hdoc
  rcases value_parse hkind h with ⟨i, body, doc', _, hstands, _, hvalue, hread⟩ | ⟨_, hvalue⟩
  · obtain rfl : doc' = doc := Option.some.inj (hvalue.symm.trans hdoc)
    have hclean : ∀ line ∈ body, IsClean line := fun line hl =>
      (isNormal_normalLines text).clean line (List.mem_of_mem_drop (hstands.subset hl))
    rcases hread with ⟨_, rfl⟩ | ⟨e, hone, rfl⟩
    · rintro t ⟨⟩
      simp [splitLines_of_notMem, isClean_nil]
    · have hdescription : (returnEntry e).1.description = e.description? := by
        unfold returnEntry
        split
        · rfl
        · split <;> rfl
      intro t ht
      rw [hdescription] at ht
      have hsubset : e.body ⊆ trimBlankLines body := by
        rw [← flatMap_lines_entries (trimBlankLines body), hone]
        simp [Entry.lines]
      refine (isVerbatim_of_joinProse? (fun line => isClean_of_mem_dedentBy fun l hl => ?_) ht).1.clean
      exact hclean l ((isInfix_trimBlankLines body).subset (hsubset hl))
  · rw [hvalue] at hdoc
    cases hdoc

/-- No underline stands where a section is opened. -/
theorem openedAt?_of_isUnderline {lines : List Line} {line : Line} {i : Nat}
    (hline : lines[i]? = some line) (hunderline : isUnderline line = true) :
    openedAt? (lines.drop i) = none := by
  by_contra hopened
  obtain ⟨kind, hopened⟩ := Option.ne_none_iff_exists'.mp hopened
  have hat := atHeader_of_openedAt? hopened
  rw [List.drop_eq_getElem_cons (List.getElem?_eq_some_iff.mp hline).1,
    (List.getElem?_eq_some_iff.mp hline).2, atHeader_of_isUnderline hunderline] at hat
  cases hat

/-- No underline stands at the start of a section, and none right below one. -/
theorem not_completes_of_span {old : List Line} (hnormal : IsNormal old)
    (h : parse (joinLines old) = .ok d) {s : SectionSpan} (hs : s ∈ d.metadata.sections) :
    (∀ line ∈ old[s.first]?, ¬opener.completes line) ∧
      ∀ line ∈ old[s.last]?, ¬opener.completes line := by
  obtain ⟨lo, htiled⟩ := tiled_parse h
  have hread : ∀ i, ∀ line ∈ old[i]?, isUnderline line = true →
      (normalLines (joinLines old))[i]? = some line := fun i line hline hunderline =>
    getElem?_normalLines_joinLines hnormal hline (opensWithInk_of_isUnderline hunderline)
  constructor
  · intro line hline hunderline
    have hnone := openedAt?_of_isUnderline (hread _ line hline hunderline) hunderline
    rw [htiled.opened s hs] at hnone
    cases hnone
  · intro line hline hunderline
    have hline := hread _ line hline hunderline
    obtain ⟨kind, hopened⟩ := htiled.opens_last hs (List.getElem?_eq_some_iff.mp hline).1 hline
      (not_blank_of_opensWithInk (opensWithInk_of_isUnderline hunderline))
    rw [openedAt?_of_isUnderline hline hunderline] at hopened
    cases hopened

/-! ## Writing -/

theorem typedAt_of_shown {lines all : List Line} {place j : Nat} (hshown : Shown lines all place)
    (h : TypedAt lines j) : TypedAt all (place + j) := by
  obtain ⟨⟨line, hline, hnames⟩, hclosed⟩ := h
  refine ⟨⟨line, hshown.getElem? (n := j + 2) hline (ne_nil_of_opensWithInk hnames.1), hnames⟩, ?_⟩
  by_contra hopens
  obtain ⟨kind, hopens⟩ := Option.ne_none_iff_exists'.mp hopens
  rw [Opener.at?_of_shown (n := j + 2) hshown hopens] at hclosed
  cases hclosed

/-- A section is a signature. -/
theorem isSignature_of_opened {lines : List Line} {i : Nat}
    (hclean : ∀ line ∈ lines, IsClean line) (hopens : opener.at? lines i = some kind) :
    ∃ line, lines[i]? = some line ∧ isSignature .numpy line lines[i + 1]? = true := by
  obtain ⟨line, hline, hink, hkind⟩ := Opener.at?_eq_some hopens
  obtain ⟨below, hbelow, hopened⟩ := Option.bind_eq_some_iff.mp hkind
  obtain ⟨title, underline, rest, hlines, hheader⟩ := exists_header_of_openedAt? hopened
  simp only [List.cons.injEq] at hlines
  obtain ⟨rfl, rfl, rfl⟩ := hlines
  have htrim : trim line = line :=
    trim_of_ink hink (hclean line (List.mem_of_getElem? hline)).trimmed
  refine ⟨line, hline, ?_⟩
  simp [isSignature, isNumpySignature, hbelow, indentWidth_of_opensWithInk hink, htrim, hheader]

/-- The lines of a section on a value: the header, the type, and the description. -/
theorem exists_sectionLines (hkind : kind = .returns ∨ kind = .yields)
    {doc : ReturnDoc} {type : Text} (hdoc : d.value kind = some doc) (htype : doc.type = some type)
    (hclean : doc.IsClean) (width : Nat) :
    ∃ below, sectionLines d kind width =
        title kind :: dashes kind :: type :: indent descriptionIndent below ∧
      ∀ line ∈ below, IsClean line := by
  obtain ⟨below, hlines, hbelow⟩ : ∃ below,
      descriptionLines width doc.description = indent descriptionIndent below ∧
        ∀ line ∈ below, IsClean line := by
    unfold descriptionLines
    dsimp only
    split
    · exact ⟨[], rfl, by simp⟩
    · refine ⟨_, rfl, fun line hl => ?_⟩
      rw [Layout.wrapProse, List.flatMap_def] at hl
      exact isClean_of_mem_pieces
        (Layout.forall₂_wrapProseLine _ (ReturnDoc.IsClean.getD hclean)) hl
  refine ⟨below, ?_, hbelow⟩
  rcases hkind with rfl | rfl
  · have hdoc : d.returns = some doc := hdoc
    simp [sectionLines, underHeader, headerLines, dashes, returnLines, hdoc, htype, hlines]
  · have hdoc : d.yields = some doc := hdoc
    simp [sectionLines, underHeader, headerLines, dashes, returnLines, hdoc, htype, hlines]

theorem isSection_sectionLines (hkind : kind = .returns ∨ kind = .yields)
    {doc : ReturnDoc} {type : Text} (hdoc : d.value kind = some doc) (htype : doc.type = some type)
    (hline : IsOneLine type) (hnames : NamesType type) (hclean : doc.IsClean)
    (width : Nat) : opener.IsSection TypedAt TypedAt kind (sectionLines d kind width) := by
  obtain ⟨below, hlines, hbelow⟩ := exists_sectionLines hkind hdoc htype hclean width
  have hunderline : isUnderline (dashes kind) = true := by cases kind <;> decide
  have hfirst : ∀ rest, opener.at? (title kind :: dashes kind :: rest) 0 = some kind := by
    intro rest
    rw [at?_opener, List.drop_zero, openedAt?, header?_title]
  have hthird : ∀ rest : List Line, (∀ line ∈ rest.head?, ¬opener.completes line) →
      opener.at? (title kind :: dashes kind :: type :: indent descriptionIndent below ++ rest) 2 =
        none := by
    intro rest hrest
    refine at?_eq_none fun line hl hcompletes => ?_
    have hl : line ∈ (indent descriptionIndent below ++ rest)[0]? := hl
    cases below with
    | nil => exact hrest line (by rwa [List.head?_eq_getElem?]) hcompletes
    | cons inner below =>
      have hmem : line ∈ indent descriptionIndent [inner] := by
        rw [← Option.some.inj hl]
        exact List.mem_singleton.mpr rfl
      exact not_opensWithInk_of_mem_indent (by decide) hmem (opensWithInk_of_isUnderline hcompletes)
  have htyped : ∀ rest : List Line, (∀ line ∈ rest.head?, ¬opener.completes line) →
      TypedAt (title kind :: dashes kind :: type :: indent descriptionIndent below ++ rest) 0 :=
    fun rest hrest => ⟨⟨type, rfl, hnames⟩, hthird rest hrest⟩
  rw [hlines]
  refine ⟨?_, ⟨title kind, rfl, ?_, ?_⟩, ?_,
    fun rest hrest => ⟨0, Nat.succ_pos _, hfirst _, htyped rest hrest⟩⟩
  · intro line hl
    simp only [List.mem_cons] at hl
    rcases hl with rfl | rfl | rfl | hl
    · cases kind <;> decide
    · cases kind <;> decide
    · exact hline.isClean
    · exact isClean_of_mem_indent hbelow hl
  · cases kind <;> decide
  · change ¬isUnderline (title kind) = true
    cases kind <;> decide
  · intro rest hrest j hj other hopens
    -- The title, its underline, the type, and the description.
    rcases j with _ | _ | _ | j
    · exact ⟨Option.some.inj (hopens.symm.trans (hfirst _)), htyped rest hrest⟩
    · rw [at?_opener] at hopens
      have hat := atHeader_of_openedAt? hopens
      rw [List.cons_append, List.cons_append, List.drop_succ_cons, List.drop_zero,
        atHeader_of_isUnderline hunderline] at hat
      cases hat
    · rw [hthird rest hrest] at hopens
      cases hopens
    · simp only [List.cons_append, Opener.at?_cons_succ] at hopens
      refine (Opener.at?_indent_append (by decide) ?_ hopens).elim
      simpa using hj

/-- Below its title, the section has no margin: there is the underline. -/
theorem bodyMargin?_sectionLines (hkind : kind = .returns ∨ kind = .yields)
    {doc : ReturnDoc} {type : Text} (hdoc : d.value kind = some doc) (htype : doc.type = some type)
    (hclean : doc.IsClean) (width : Nat) (rest : List Line) :
    (bodyMargin? (sectionLines d kind width ++ rest)).getD 0 = 0 := by
  obtain ⟨below, hlines, _⟩ := exists_sectionLines hkind hdoc htype hclean width
  rw [hlines]
  refine bodyMargin?_of_hasNoMargin (.inl ⟨dashes kind, by simp, ?_⟩)
  cases kind <;> decide

end Docstring.Numpy
