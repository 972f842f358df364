-- Two neighbouring fields in either order: the description and the type of one parameter. Both
-- orders read the same, but for a warning where the type comes first: the description then finds a
-- parameter that it takes for a second entry.
import Docstring.Proofs.Literal.Margin
import Docstring.Proofs.Rest.RoundTrip
import Docstring.Proofs.Rest.Walk
import Docstring.Proofs.Rest.Warned

namespace Docstring

open Text

/-! ## Normal lines -/

/-- Lines as they are read where one of those below has no margin. -/
def flushLines (lines : List Line) : List Line :=
  stripMargin 0 (lines.map fun line => expandTabs (trimEnd line))

/-- Lines at the first column take the margin from all others. -/
theorem normalLines_around {above below : List Line} {first second : Line}
    (hnewline : ∀ line ∈ above ++ first :: second :: below, '\n' ∉ line)
    (hfirst : opensWithInk first = true) (hsecond : opensWithInk second = true) :
    normalLines (joinLines (above ++ first :: second :: below)) =
      (flushLines above).dropWhile List.isEmpty ++ trimEnd first :: trimEnd second ::
        (below.map fun line => expandTabs (trimEnd line)).rdropWhile List.isEmpty := by
  have hopens : ∀ {line : Line}, opensWithInk line = true → opensWithInk (trimEnd line) = true := by
    intro line hline
    obtain ⟨c, rest, rfl, hc⟩ := exists_of_opensWithInk hline
    have htrim : trimEnd (c :: rest) = c :: trimEnd rest := trimEnd_append_ink [] rest hc
    simp [htrim, opensWithInk, hc]
  have hkept : ∀ {line : Line}, opensWithInk line = true →
      expandTabs (trimEnd line) = trimEnd line := by
    intro line hline
    rw [expandTabs, indentOf_of_opensWithInk (hopens hline)]
    rfl
  have hne : ∀ {line : Line}, opensWithInk line = true → trimEnd line ≠ [] :=
    fun hline => ne_nil_of_opensWithInk (hopens hline)
  have hlines : expandedLines (joinLines (above ++ first :: second :: below)) =
      above.map (fun line => expandTabs (trimEnd line)) ++ trimEnd first :: trimEnd second ::
        below.map fun line => expandTabs (trimEnd line) := by
    rw [expandedLines, splitLines_joinLines (by simp) hnewline]
    simp only [List.map_append, List.map_cons, hkept hfirst, hkept hsecond]
  have hmargin : HasNoMargin (expandedLines (joinLines (above ++ first :: second :: below))) := by
    refine .inl ⟨trimEnd second, ?_, hopens hsecond⟩
    rw [hlines]
    cases above <;> simp
  have hstrip : stripMargin 0 (expandedLines (joinLines (above ++ first :: second :: below))) =
      flushLines above ++ trimEnd first :: trimEnd second ::
        below.map fun line => expandTabs (trimEnd line) := by
    rw [hlines]
    cases above with
    | nil => exact stripMargin_zero _ (trim_of_ink (hopens hfirst) (trimEnd_trimEnd first))
    | cons top above =>
      have hid : stripColumns 0 = id := funext stripColumns_zero
      simp [flushLines, stripMargin, hid]
  change trimEmptyLines (stripMargin ((bodyMargin? (expandedLines _)).getD 0) (expandedLines _)) = _
  rw [bodyMargin?_of_hasNoMargin hmargin, hstrip, trimEmptyLines_append_ink _ _ (hne hfirst)]
  have hbelow := rdropWhile_append_cons (p := List.isEmpty) []
    (below.map fun line => expandTabs (trimEnd line)) (x := trimEnd second)
    (by simpa using hne hsecond)
  rw [List.nil_append, List.nil_append] at hbelow
  rw [hbelow]

namespace Rest

/-! ## Two fields -/

/-- The field that describes a parameter. -/
def describing (name text : Text) (n : Nat) : Field := ⟨.param .positional name, text, n, []⟩

/-- The field that gives the type of a parameter. -/
def typing (name text : Text) (n : Nat) : Field := ⟨.paramType name, text, n, []⟩

section Exchange

variable {name : Text}

theorem splitName_of_isIdentifier (h : isIdentifier name = true) :
    ParamKind.splitName name = (.positional, name) :=
  Parameter.splitName_display (p := { name := name }) h

theorem addField_describing (h : isIdentifier name = true) (d : Document) (text : Text) (n : Nat) :
    addField d (describing name text n) = .ok (d.addParameter
      { name := name, description := some ((description? text []).getD []) }) := by
  have hcut : cutAtLast? isSpace name = none :=
    cutAtLast?_of_none fun c hc => not_space_of_nameChar (nameChar_of_mem h c hc)
  have hne : name.isEmpty = false := by simpa using isIdentifier_ne_nil h
  change addParam d .positional name (description? text []) = _
  simp [addParam, hcut, splitName_of_isIdentifier h, hne]

theorem addField_typing (d : Document) (name text : Text) (n : Nat) :
    addField d (typing name text n) = .ok (setParamType d name (description? text [])) := rfl

theorem setParamType_of_lists (h : isIdentifier name = true) {d : Document} (type : Option Text)
    (hlisted : d.lists name = true) :
    setParamType d name type = d.modifyParameter name fun p => { p with type := type } := by
  obtain ⟨p, hp⟩ := Option.isSome_iff_exists.mp hlisted
  simp [setParamType, splitName_of_isIdentifier h, hp]

theorem setParamType_of_not_lists (h : isIdentifier name = true) {d : Document}
    (type : Option Text) (hlisted : d.lists name = false) :
    setParamType d name type =
      { d with parameters := d.parameters ++ [{ name := name, type := type }] } := by
  have hnone : d.parameter? name = none := by simpa [Document.lists] using hlisted
  simp [setParamType, splitName_of_isIdentifier h, hnone]

theorem updateFirst_comm (name : Text) (f g : Parameter → Parameter)
    (hf : ∀ p, (f p).name = p.name) (hg : ∀ p, (g p).name = p.name) (h : ∀ p, f (g p) = g (f p))
    (params : List Parameter) :
    Document.updateFirst name f (Document.updateFirst name g params) =
      Document.updateFirst name g (Document.updateFirst name f params) := by
  induction params with
  | nil => rfl
  | cons p params ih =>
    by_cases hp : p.name = name
    · simp [Document.updateFirst, hp, hf, hg, h]
    · simp [Document.updateFirst, hp, ih]

/-- A type and a description, in either order: where the parameter is new, a type that comes first
makes the description one that comes too often. -/
theorem addParameter_setParamType (h : isIdentifier name = true) (d : Document)
    (type description : Option Text) :
    let described := { name := name, description := description }
    let both := setParamType (d.addParameter described) name type
    (setParamType d name type).addParameter described =
      if d.lists name then both else both.warn (duplicateOf name) := by
  intro described both
  have hlisted : (d.addParameter described).lists name = true := by
    simp [Document.lists_addParameter, described]
  have htyped : (setParamType d name type).lists described.name = true := by
    simp [lists_setParamType, splitName_of_isIdentifier h, described]
  have hboth : both = _ := setParamType_of_lists h type hlisted
  rw [hboth, Document.addParameter_of_lists htyped]
  cases hold : d.lists name with
  | true =>
    have hcomm := updateFirst_comm name (fun q => q.merge described)
      (fun p => { p with type := type }) (fun _ => rfl) (fun _ => rfl)
      (fun p => by simp [Parameter.merge, described]) d.parameters
    rw [if_pos rfl, setParamType_of_lists h type hold, Document.addParameter_of_lists hold]
    exact congrArg (fun params => ({ d with parameters := params } : Document).warn
      (duplicateOf name)) hcomm
  | false =>
    have hnew := Document.notMem_of_not_lists hold
    have hmerge := updateFirst_concat (q := { name := name, type := type })
      (fun q => q.merge described) hnew
    have htype := updateFirst_concat (q := described) (fun p => { p with type := type }) hnew
    rw [if_neg (by simp), setParamType_of_not_lists h type hold,
      Document.addParameter_of_not_lists hold]
    simp only [Document.modifyParameter, described] at hmerge htype ⊢
    rw [hmerge, htype]
    simp [Parameter.merge, Parameter.joinDescription]

/-- Two neighbouring fields of one kind share a run. -/
theorem readFields_pair {p : Progress} {f g : Field} {kind : SectionKind} {d d' : Document}
    (rest : List Field) (stop : Option ParseError) (hf : f.marker.sectionKind? = some kind)
    (hg : g.marker.sectionKind? = some kind) (hd : addField (p.enter f).document f = .ok d)
    (hd' : addField d g = .ok d') :
    readFields p (f :: g :: rest) stop =
      readFields ⟨d', (p.enter f).group.map fun span => { span with last := g.last }⟩ rest
        stop := by
  obtain ⟨span, hgroup, hspan⟩ : ∃ span, (p.enter f).group = some span ∧ span.kind = kind := by
    unfold Progress.enter
    rw [hf]
    dsimp only
    split
    · rename_i hopen
      cases hgroup : p.group with
      | none => simp [hgroup] at hopen
      | some span => exact ⟨span, rfl, by simpa [hgroup] using hopen⟩
    · exact ⟨_, rfl, rfl⟩
  have hstay : ∀ last, Progress.enter ⟨d, some { span with last := last }⟩ g =
      ⟨d, some { span with last := last }⟩ := by
    intro last
    simp [Progress.enter, hg, hspan]
  rw [readFields_cons, Progress.add, hd]
  dsimp only
  rw [readFields_cons, Progress.add, hgroup, Option.map_some, hstay, hd']
  rfl

/-- The two fields of a parameter, in either order. -/
theorem readFields_exchange (h : isIdentifier name = true) (p : Progress) (n : Nat)
    (description type : Text) (rest : List Field) (stop : Option ParseError) :
    ∃ q : Progress, q.document.lists name = true ∧
      readFields p (describing name description n :: typing name type (n + 1) :: rest) stop =
        readFields q rest stop ∧
      readFields p (typing name type n :: describing name description (n + 1) :: rest) stop =
        readFields (if p.document.lists name then q
          else q.withWarnings (q.document.metadata.warnings ++ [duplicateOf name])) rest stop := by
  have henter : p.enter (typing name type n) = p.enter (describing name description n) := rfl
  have hlists := lists_enter p (describing name description n) name
  have hfirst := readFields_pair (p := p) rest stop rfl rfl (addField_describing h _ description n)
    (addField_typing _ name type (n + 1))
  have hsecond := readFields_pair (p := p) rest stop rfl rfl
    (addField_typing _ name type n)
    (addField_describing h _ description (n + 1))
  rw [addParameter_setParamType h, henter, hlists] at hsecond
  refine ⟨_, ?_, hfirst, ?_⟩
  · simp [lists_setParamType, splitName_of_isIdentifier h]
  · rw [hsecond]
    split <;> rfl

/-- The two fields of a parameter below others, in either order. -/
theorem readFields_append_exchange (h : isIdentifier name = true) (p : Progress)
    (above : List Field) (n : Nat) (description type : Text) (rest : List Field)
    (stop : Option ParseError) :
    let r := readFields p
      (above ++ describing name description n :: typing name type (n + 1) :: rest) stop
    let r' := readFields p
      (above ++ typing name type n :: describing name description (n + 1) :: rest) stop
    (r' = r ∨ r.Gains (duplicateOf name) r') ∧
      ((∀ f ∈ above, f.marker.parameter? ≠ some name) → p.document.lists name = false →
        (r' = r ↔ r.document.lists name = false)) := by
  intro r r'
  have hr : r = _ := readFields_append p above _ stop
  have hr' : r' = _ := readFields_append p above _ stop
  have habove := (lists_readFields p above none name).2
  rw [readFields] at habove
  cases hrun : above.foldlM Progress.add p with
  | error failure =>
    rw [hrun] at hr hr' habove
    exact ⟨.inl (hr'.trans hr.symm), fun hfields hnone =>
      iff_of_true (hr'.trans hr.symm) (hr ▸ habove hfields hnone)⟩
  | ok q =>
    rw [hrun] at hr hr' habove
    obtain ⟨s, hlisted, hfirst, hsecond⟩ := readFields_exchange h q n description type rest stop
    have hs : r = readFields s rest stop := hr.trans hfirst
    have hs' : r' = _ := hr'.trans hsecond
    have hkept : r.document.lists name = true := hs ▸ (lists_readFields s rest stop name).1 hlisted
    cases hq : q.document.lists name with
    | true =>
      rw [hq, if_pos rfl, ← hs] at hs'
      refine ⟨.inl hs', fun hfields hnone => ?_⟩
      have hnew : q.finish.lists name = false := habove hfields hnone
      rw [lists_finish, hq] at hnew
      cases hnew
    | false =>
      rw [hq, if_neg (by simp)] at hs'
      have hgains : r.Gains (duplicateOf name) r' := by
        rw [hs, hs']
        exact gains_readFields s _ rest stop
      exact ⟨.inr hgains, fun _ _ => iff_of_false hgains.ne (by simp [hkept])⟩

end Exchange

/-! ## Outlines -/

section Outline

variable {line : Line} {name text : Text}

/-- No field takes a line that is a field. -/
theorem not_any_takes (h : field? line = some (name, text)) (current : Option Field) :
    ¬(current.any fun f => f.takes line) = true := by
  cases current with
  | none => simp
  | some f =>
    intro htakes
    rw [(Field.classify_of_takes htakes).1] at h
    cases h

theorem outlineFrom_of_field (h : field? line = some (name, text)) (n : Nat)
    (current : Option Field) (below : List Line) :
    outlineFrom n current (line :: below) =
      let found := outlineFrom (n + 1) (some ⟨classifyField name, text, n, []⟩) below
      (current.toList ++ found.1, found.2) := by
  have hclassify : classify line = some (classifyField name, text) := by rw [classify, h]
  have hblank : ¬isBlank line = true := by
    intro hblank
    rw [classify_of_isBlank hblank] at hclassify
    cases hclassify
  exact outlineFrom_of_marker n below (not_any_takes h current) hblank hclassify

/-- A field closes what is open above it: the lines above and those from the field on are walked on
their own, unless the walk stops above. -/
theorem outlineFrom_append_field (h : field? line = some (name, text)) (n : Nat)
    (current : Option Field) (above below : List Line) :
    outlineFrom n current (above ++ line :: below) =
      let found := outlineFrom n current above
      let more := outlineFrom (n + above.length) none (line :: below)
      if found.2.isSome then found else (found.1 ++ more.1, more.2) := by
  have hnext : ∀ (n : Nat) (top : Line) (above : List Line),
      n + (top :: above).length = n + 1 + above.length := fun n top above => by
    rw [List.length_cons]
    omega
  fun_induction outlineFrom n current above with
  | case1 n current =>
    have hclosed := outlineFrom_of_field h n none below
    have hopen := outlineFrom_of_field h n current below
    simp only [Option.toList_none, List.nil_append] at hclosed
    rw [List.nil_append, hopen]
    simp [hclosed]
  | case2 n current top above htakes ih =>
    cases current with
    | none => cases htakes
    | some f =>
      rw [List.cons_append, outlineFrom_of_takes n _ htakes, hnext]
      exact ih
  | case3 n current top above htakes hblank ih =>
    cases current with
    | none =>
      have hskip : outlineFrom n none (top :: (above ++ line :: below)) =
          outlineFrom (n + 1) none (above ++ line :: below) := by simp [outlineFrom, hblank]
      rw [List.cons_append, hskip, hnext, ih]
    | some f => exact absurd (f.takes_of_isBlank hblank) (by simpa using htakes)
  | case4 n current top above hcurrent hblank marker text hmarker fields stop hfound ih =>
    rw [List.cons_append, outlineFrom_of_marker n _ hcurrent hblank hmarker, hnext, ih, hfound]
    cases stop <;> simp
  | case5 n current top above hcurrent hblank hmarker =>
    rw [List.cons_append, outlineFrom_of_prose n _ hcurrent hblank hmarker]
    rfl

theorem outline_append_field (h : field? line = some (name, text)) (n : Nat)
    (above below : List Line) :
    outline n (above ++ line :: below) =
      let found := outline n above
      let more := outline (n + above.length) (line :: below)
      if found.2.isSome then found else (found.1 ++ more.1, more.2) := by
  unfold outline
  rw [outlineFrom_append_field h]
  by_cases hstop : (outlineFrom n none above).2.isSome = true <;> simp [hstop]

/-- Above a line that starts at the first column, an open field takes blank lines only. -/
theorem outlineFrom_above_flush {f : Field} (hf : f.marker ≠ .block .examples) (n : Nat)
    {below : List Line} (h : ∀ line ∈ (dropBlankStart below).head?, indentWidth line = 0) :
    outlineFrom n (some f) below =
      let found := outlineFrom (n + (below.takeWhile isBlank).length) none (dropBlankStart below)
      ({ f with body := f.body ++ below.takeWhile isBlank } :: found.1, found.2) := by
  induction below generalizing n f with
  | nil => simp [outlineFrom, dropBlankStart]
  | cons line below ih =>
    cases hblank : isBlank line with
    | true =>
      have hkept : dropBlankStart (line :: below) = dropBlankStart below := by
        simp [dropBlankStart, hblank]
      have hpush := ih (f := f.push line) hf (n + 1) (by rwa [hkept] at h)
      rw [outlineFrom_of_takes n below (f.takes_of_isBlank hblank), hpush, hkept]
      simp [hblank, Field.push, Nat.add_assoc, Nat.add_comm 1]
    | false =>
      have hkept : dropBlankStart (line :: below) = line :: below := by
        simp [dropBlankStart, hblank]
      rw [hkept] at h ⊢
      have htakes : f.takes line = false := by simp [Field.takes, hf, hblank, h line rfl]
      have hink : ¬isBlank line = true := by simp [hblank]
      have hnone : ¬((none : Option Field).any fun f => f.takes line) = true := by simp
      have hsome : ¬((some f).any fun f => f.takes line) = true := by simp [htakes]
      cases hmarker : classify line with
      | none =>
        rw [List.takeWhile_cons_of_neg hink, List.length_nil, Nat.add_zero,
          outlineFrom_of_prose n below hsome hink hmarker,
          outlineFrom_of_prose n below hnone hink hmarker]
        simp
      | some found =>
        rw [List.takeWhile_cons_of_neg hink, List.length_nil, Nat.add_zero,
          outlineFrom_of_marker n below hsome hink hmarker,
          outlineFrom_of_marker n below hnone hink hmarker]
        simp

/-- What is left of a field list below two fields on lines of their own. -/
theorem outline_pair {line' : Line} {name' text' : Text} (h : field? line = some (name, text))
    (h' : field? line' = some (name', text')) (hopen : classifyField name' ≠ .block .examples)
    (n : Nat) {below : List Line}
    (hbelow : ∀ line ∈ (dropBlankStart below).head?, indentWidth line = 0) :
    outline n (line :: line' :: below) =
      let found := outline (n + 2 + (below.takeWhile isBlank).length) (dropBlankStart below)
      (⟨classifyField name, text, n, []⟩ :: ⟨classifyField name', text', n + 1, []⟩ :: found.1,
        found.2) := by
  have hflush := outlineFrom_above_flush (f := ⟨classifyField name', text', n + 1, []⟩) hopen
    (n + 2) hbelow
  have hblanks : dropBlankEnd (below.takeWhile isBlank) = [] := by
    change (below.takeWhile isBlank).rdropWhile isBlank = []
    rw [List.rdropWhile_eq_nil_iff]
    exact fun line => List.mem_takeWhile_imp
  simp only [outline, outlineFrom_of_field h, outlineFrom_of_field h', hflush]
  simp [Field.close, hblanks]

/-- The markers of the fields stand in the lines. -/
theorem exists_line_of_mem_outlineFrom {f : Field} {n : Nat} {current : Option Field}
    {lines : List Line} (h : f ∈ (outlineFrom n current lines).1) :
    (∃ g ∈ current, g.marker = f.marker) ∨
      ∃ line ∈ lines, (classify line).map Prod.fst = some f.marker := by
  fun_induction outlineFrom n current lines with
  | case1 n current => exact .inl ⟨f, by simpa using h, rfl⟩
  | case2 n current line rest htakes ih =>
    rcases ih h with ⟨g, hg, hmarker⟩ | ⟨top, htop, hmarker⟩
    · obtain ⟨g', hg', rfl⟩ := Option.map_eq_some_iff.mp hg
      exact .inl ⟨g', hg', hmarker⟩
    · exact .inr ⟨top, List.mem_cons_of_mem line htop, hmarker⟩
  | case3 n current line rest htakes hblank ih =>
    rcases ih h with hcurrent | ⟨top, htop, hmarker⟩
    · exact .inl hcurrent
    · exact .inr ⟨top, List.mem_cons_of_mem line htop, hmarker⟩
  | case4 n current line rest hcurrent hblank marker text hmarker fields stop hfound ih =>
    rw [hfound] at ih
    rcases List.mem_append.mp h with h | h
    · exact .inl ⟨f, by simpa using h, rfl⟩
    · right
      rcases ih h with ⟨g, hg, hsame⟩ | ⟨top, htop, hsame⟩
      · refine ⟨line, List.mem_cons_self, ?_⟩
        obtain rfl := Option.mem_some_iff.mp hg
        rw [hmarker, ← hsame]
        rfl
      · exact ⟨top, List.mem_cons_of_mem line htop, hsame⟩
  | case5 n current line rest hcurrent hblank hmarker =>
    exact .inl ⟨f, by simpa using h, rfl⟩

end Outline

/-! ## Lines -/

/-- A field with its text beside it. -/
def fieldLine (name text : Text) : Line := ':' :: name ++ ": ".toList ++ text

theorem trimEnd_fieldLine (name text : Text) :
    trimEnd (fieldLine name text) = ':' :: name ++ ':' :: trimEnd (' ' :: text) := by
  have hline : fieldLine name text = ':' :: name ++ ':' :: ' ' :: text := by simp [fieldLine]
  rw [hline, trimEnd_append_ink _ _ (by decide)]

theorem field?_fieldLine {name : Text} (h : IsOneLine name) (hcolon : ':' ∉ name) (text : Text) :
    field? (trimEnd (fieldLine name text)) = some (name, trim text) := by
  have hbody : markerBody? (trimEnd (' ' :: text)) = some (trim text) := by
    cases htext : trimEnd (' ' :: text) with
    | nil =>
      have hblank : trim text = [] := by
        rw [← trim_space_cons text isSpace_space, ← trim_trimEnd, htext]
        rfl
      rw [hblank]
      rfl
    | cons c rest =>
      obtain ⟨more, hprefix⟩ := List.rdropWhile_prefix isSpace (' ' :: text)
      change trimEnd (' ' :: text) ++ more = ' ' :: text at hprefix
      rw [htext, List.cons_append, List.cons.injEq] at hprefix
      have hend : trimEnd (c :: rest) = c :: rest := by rw [← htext, trimEnd_trimEnd]
      have hstart : trimEnd (trimStart rest) = trimStart rest :=
        trimEnd_of_suffix hend ((List.dropWhile_suffix _).trans (List.suffix_cons _ _))
      rw [← trim_space_cons text isSpace_space, ← trim_trimEnd, htext, hprefix.1,
        trim_space_cons rest isSpace_space, trim, hstart]
      rfl
  obtain ⟨c, rest, hname, hc⟩ := exists_of_opensWithInk h.opens
  have hnone : ∀ x ∈ name, (x == ':') = false := by
    intro x hx
    rw [beq_eq_false_iff_ne]
    rintro rfl
    exact hcolon hx
  have hcut := cutAt?_append (trimEnd (' ' :: text)) hnone (c := ':') rfl
  have hfirst : (c == ':') = false := hnone c (by simp [hname])
  have htrim := h.trimmed
  rw [trimEnd_fieldLine]
  rw [hname] at hcut htrim ⊢
  rw [List.cons_append] at hcut ⊢
  simp only [List.cons_append, field?, hc, hcut, hbody, htrim]
  simpa using hfirst

/-! ## Readings -/

theorem parse_eq_readFields (text : Text) :
    parse text =
      let head := Head.cut atMarker atField (normalLines text)
      let found := outline head.length head.rest
      readFields ⟨head.document .rest, none⟩ found.1 found.2 := by
  rw [parse_eq_read]
  unfold Walk.read Walk.readBelow Walk.head readFields
  dsimp only [walk]
  cases List.foldlM Progress.add _ _ with
  | error failure => rfl
  | ok p => rfl

/-- What is read of lines with two fields among them, the second of which takes only blank lines. -/
theorem parse_of_pair {text first second name text₁ name' text₂ : Text} {above below : List Line}
    (hlines : normalLines text = above ++ first :: second :: below)
    (hfirst : field? first = some (name, text₁)) (hsecond : field? second = some (name', text₂))
    (hopen : classifyField name' ≠ .block .examples)
    (hbelow : ∀ line ∈ (dropBlankStart below).head?, indentWidth line = 0) :
    parse text =
      let head := Head.cut atMarker atField above
      let found := outline head.length head.rest
      let n := head.length + head.rest.length
      let more := outline (n + 2 + (below.takeWhile isBlank).length) (dropBlankStart below)
      let start : Progress := ⟨head.document .rest, none⟩
      if found.2.isSome then readFields start found.1 found.2
      else readFields start (found.1 ++ ⟨classifyField name, text₁, n, []⟩ ::
        ⟨classifyField name', text₂, n + 1, []⟩ :: more.1) more.2 := by
  have hclassify : classify first = some (classifyField name, text₁) := by rw [classify, hfirst]
  have hmarker : atMarker (first :: second :: below) = true := by
    simp [atMarker, hclassify]
  have hfield : atField (first :: second :: below) = true := by
    unfold atField
    simp only [List.head?_cons, Option.bind_some, hclassify]
    split
    · rename_i name₁ _ hunknown
      exact absurd (congrArg Prod.fst (Option.some.inj hunknown))
        (classifyField_ne_unknownDirective name name₁)
    · rfl
    · contradiction
  have hcut := Head.cut_append_mark atMarker atField (fun _ _ _ => rfl) (fun _ _ _ => rfl)
    hmarker hfield (by simp) above
  rw [parse_eq_readFields, hlines, hcut]
  dsimp only
  rw [outline_append_field hfirst, outline_pair hfirst hsecond hopen _ hbelow]
  dsimp only
  split <;> rfl

/-- Does a field of some lines name this parameter? -/
def Names (lines : List Line) (name : Text) : Prop :=
  ∃ line ∈ lines, ((classify line).map Prod.fst).bind Marker.parameter? = some name

theorem parameter?_of_mem_outline {lines part : List Line} {name : Text} (h : ¬Names lines name)
    (hpart : part ⊆ lines) {n : Nat} {f : Field} (hf : f ∈ (outline n part).1) :
    f.marker.parameter? ≠ some name := by
  intro hname
  obtain ⟨g, hg, rfl⟩ := List.mem_map.mp hf
  rcases exists_line_of_mem_outlineFrom hg with ⟨_, hnone, _⟩ | ⟨line, hline, hmarker⟩
  · cases hnone
  · exact h ⟨line, hpart hline, by rw [hmarker]; exact hname⟩

/-- Normalizing indents no line that was not indented. -/
theorem indentWidth_normalized {below : List Line}
    (h : ∀ line ∈ (dropBlankStart below).head?, indentWidth line = 0) :
    ∀ line ∈ (dropBlankStart ((below.map fun line => expandTabs (trimEnd line)).rdropWhile
      List.isEmpty)).head?, indentWidth line = 0 := by
  have hblank : isBlank ∘ (fun line => expandTabs (trimEnd line)) = isBlank :=
    funext fun line => (isBlank_expandTabs _).trans (isBlank_trimEnd line)
  have hstart : dropBlankStart (below.map fun line => expandTabs (trimEnd line)) =
      (dropBlankStart below).map fun line => expandTabs (trimEnd line) := by
    rw [dropBlankStart, List.dropWhile_map, hblank]
    rfl
  intro line hline
  obtain ⟨more, hmore⟩ := List.rdropWhile_prefix List.isEmpty
    (below.map fun line => expandTabs (trimEnd line))
  have hhead : line ∈ ((dropBlankStart below).map fun line => expandTabs (trimEnd line)).head? := by
    rw [← hstart, ← hmore, dropBlankStart, List.dropWhile_append]
    obtain ⟨rest, hrest⟩ := List.head?_eq_some_iff.mp hline
    rw [dropBlankStart] at hrest
    simp [hrest]
  rw [List.head?_map] at hhead
  obtain ⟨raw, hraw, rfl⟩ := Option.map_eq_some_iff.mp hhead
  have hink : isBlank raw = false := by
    have hnot := List.head?_dropWhile_not isBlank below
    rw [dropBlankStart] at hraw
    rw [hraw] at hnot
    simpa using hnot
  rw [indentWidth_expandTabs, indentWidth_trimEnd hink]
  exact h raw hraw

/-! ## Descriptions and types -/

/-- The line that describes a parameter. -/
def paramLine (name text : Text) : Line := fieldLine ("param ".toList ++ name) text

/-- The line that gives the type of a parameter. -/
def paramTypeLine (name text : Text) : Line := fieldLine ("type ".toList ++ name) text

section Lines

variable {name : Text} (h : isIdentifier name = true)

include h

theorem isOneLine_append_name (word : Text) (hopens : opensWithInk word = true)
    (hword : '\n' ∉ word ∧ ':' ∉ word) : IsOneLine (word ++ name) ∧ ':' ∉ word ++ name := by
  refine ⟨IsOneLine.append hopens hword.1 (isOneLine_of_isIdentifier h), ?_⟩
  rw [List.mem_append, not_or]
  exact ⟨hword.2, notMem_of_isIdentifier h (by decide)⟩

theorem field?_paramLine (text : Text) :
    field? (trimEnd (paramLine name text)) = some ("param ".toList ++ name, trim text) :=
  have hline := isOneLine_append_name h "param ".toList (by decide) (by decide)
  field?_fieldLine hline.1 hline.2 text

theorem field?_paramTypeLine (text : Text) :
    field? (trimEnd (paramTypeLine name text)) = some ("type ".toList ++ name, trim text) :=
  have hline := isOneLine_append_name h "type ".toList (by decide) (by decide)
  field?_fieldLine hline.1 hline.2 text

theorem newline_notMem_paramLine {text : Text} (htext : '\n' ∉ text) :
    '\n' ∉ paramLine name text ∧ '\n' ∉ paramTypeLine name text := by
  have hname : '\n' ∉ name := notMem_of_isIdentifier h (by decide)
  simp [paramLine, paramTypeLine, fieldLine, hname, htext]

end Lines

/-- What is read does not hang on whether the type of a parameter stands below its description or
above it, but for one warning: where no field further up names the parameter, a description that is
reached below the type is taken for a second entry. -/
theorem a_type_above_its_parameter_adds_a_warning {above below : List Line}
    {name description type : Text} (hname : isIdentifier name = true)
    (hnewline : ∀ line ∈ description :: type :: above ++ below, '\n' ∉ line)
    (hbelow : ∀ line ∈ (dropBlankStart below).head?, indentWidth line = 0) :
    let param := paramLine name description
    let typed := paramTypeLine name type
    let r := parse (joinLines (above ++ param :: typed :: below))
    let r' := parse (joinLines (above ++ typed :: param :: below))
    (r' = r ∨ r.Gains (duplicateOf name) r') ∧
      (¬Names (flushLines above) name → (r' = r ↔ r.document.parameter? name = none)) := by
  intro param typed r r'
  have hlines : ∀ line ∈ above ++ param :: typed :: below, '\n' ∉ line := by
    intro line hline
    simp only [List.mem_append, List.mem_cons] at hline hnewline
    rcases hline with hline | rfl | rfl | hline
    · exact hnewline line (.inl (.inr (.inr hline)))
    · exact (newline_notMem_paramLine hname (hnewline description (.inl (.inl rfl)))).1
    · exact (newline_notMem_paramLine hname (hnewline type (.inl (.inr (.inl rfl))))).2
    · exact hnewline line (.inr hline)
  have hlines' : ∀ line ∈ above ++ typed :: param :: below, '\n' ∉ line := by
    intro line hline
    exact hlines line (by simpa [or_left_comm] using hline)
  have hmarker := classifyField_param (isOneLine_of_isIdentifier hname).trimmed
  have hmarker' := classifyField_type (isOneLine_of_isIdentifier hname).trimmed
  have hr : r = _ := parse_of_pair (normalLines_around hlines rfl rfl)
    (field?_paramLine hname description) (field?_paramTypeLine hname type)
    (by rw [hmarker']; exact Marker.noConfusion) (indentWidth_normalized hbelow)
  have hr' : r' = _ := parse_of_pair (normalLines_around hlines' rfl rfl)
    (field?_paramTypeLine hname type) (field?_paramLine hname description)
    (by rw [hmarker]; exact Marker.noConfusion) (indentWidth_normalized hbelow)
  rw [hmarker, hmarker'] at hr hr'
  let head := Head.cut atMarker atField ((flushLines above).dropWhile List.isEmpty)
  let start : Progress := ⟨head.document .rest, none⟩
  have hfields : ¬Names (flushLines above) name →
      ∀ f ∈ (outline head.length head.rest).1, f.marker.parameter? ≠ some name := by
    intro hnames f
    have hrest : head.rest <:+ (flushLines above).dropWhile List.isEmpty :=
      Head.drop_cut atMarker atField _ ▸ List.drop_suffix _ _
    exact parameter?_of_mem_outline hnames (hrest.trans (List.dropWhile_suffix _)).subset
  have hlists : r.document.parameter? name = none ↔ r.document.lists name = false := by
    simp [Document.lists]
  rw [hlists]
  by_cases hstop : (outline head.length head.rest).2.isSome = true
  · have hread : r = readFields start (outline head.length head.rest).1
        (outline head.length head.rest).2 := hr.trans (if_pos hstop)
    have hsame : r' = r := (hr'.trans (if_pos hstop)).trans hread.symm
    exact ⟨.inl hsame, fun hnames =>
      iff_of_true hsame (hread ▸ (lists_readFields start _ _ name).2 (hfields hnames) rfl)⟩
  · have hread : r = _ := hr.trans (if_neg hstop)
    have hread' : r' = _ := hr'.trans (if_neg hstop)
    obtain ⟨hsame, hiff⟩ := readFields_append_exchange hname start
      (outline head.length head.rest).1 (head.length + head.rest.length) (trim description)
      (trim type) _ _
    rw [hread, hread']
    exact ⟨hsame, fun hnames => hiff (hfields hnames) rfl⟩

/-- Of the two orders, only the one with the type first warns about `x`, which has one entry. -/
theorem a_type_above_x_adds_a_warning :
    let name := "x".toList
    let above := ["S.".toList, [], ":returns: two".toList]
    let below := [[], ":raises E: often".toList]
    let param := paramLine name "one".toList
    let typed := paramTypeLine name "int".toList
    let r := parse (joinLines (above ++ param :: typed :: below))
    let r' := parse (joinLines (above ++ typed :: param :: below))
    r.document.parameter? name =
        some { name := name, type := some "int".toList, description := some "one".toList } ∧
      r.Gains (duplicateOf name) r' ∧ r.document.metadata.warnings = [] ∧
      r'.document.metadata.warnings = [duplicateOf name] := by
  intro name above below param typed r r'
  have hread : r.document.parameter? name =
      some { name := name, type := some "int".toList, description := some "one".toList } := by
    decide +kernel
  have hnames : ¬Names (flushLines above) name := by
    unfold Names
    decide +kernel
  obtain ⟨hsame, hiff⟩ := @a_type_above_its_parameter_adds_a_warning above below name
    "one".toList "int".toList (by decide) (by decide) (by decide)
  refine ⟨hread, hsame.resolve_left fun heq => ?_, by decide +kernel, by decide +kernel⟩
  have hnone : r.document.parameter? name = none := (hiff hnames).mp heq
  rw [hread] at hnone
  cases hnone

/-- So the order does matter, even where no other field names the parameter. -/
theorem a_type_above_its_parameter_is_not_the_same :
    ¬∀ (above below : List Line) (name description type : Text), isIdentifier name = true →
      type ≠ [] → (∀ line ∈ description :: type :: above ++ below, '\n' ∉ line) →
      (∀ line ∈ (dropBlankStart below).head?, indentWidth line = 0) →
      ¬Names (flushLines above) name → ¬Names (flushLines below) name →
      parse (joinLines (above ++ paramLine name description :: paramTypeLine name type :: below)) =
        parse (joinLines
          (above ++ paramTypeLine name type :: paramLine name description :: below)) := by
  intro h
  have hsame := h ["S.".toList, []] [] "x".toList "d".toList "int".toList (by decide) (by decide)
    (by decide) (by decide) (by unfold Names; decide +kernel) (by unfold Names; decide +kernel)
  revert hsame
  decide +kernel

end Rest

end Docstring
