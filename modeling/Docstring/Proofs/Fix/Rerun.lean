-- The operation on return types on a docstring that is canonical, and what it does to a file when it
-- is made again. A canonical docstring is written anew as a whole, which replaces the section on the
-- value and leaves the lines around it where they are.
import Docstring.Proofs.Canonical
import Docstring.Proofs.Fix.Again

namespace Docstring

open Text

namespace Fix

variable {l : Literal} {symbol : SymbolFact} {hint : Text} {style default : Style}
  {options : ConvertOptions} {current d : Document} {lines : List Line} {width : Nat}
  {doc : ReturnDoc} {type : Text}

/-- The sections that say what the value of a symbol is, in the order in which they are written. -/
def valueSections (symbol : SymbolFact) : List SectionKind :=
  if valueSection symbol = .returns then [.returns] else [.returns, .yields]

theorem mem_valueSections {kind : SectionKind} (h : IsOnValue symbol kind) :
    kind ∈ valueSections symbol := by
  unfold valueSections
  rcases h with rfl | rfl
  · rcases valueSection_cases symbol with hkind | hkind <;> simp [hkind]
  · split <;> simp

theorem exists_order (symbol : SymbolFact) : ∃ after fields,
    SectionKind.order = [.params] ++ valueSections symbol ++ after ∧
      Rest.fieldSections = [.params] ++ valueSections symbol ++ fields := by
  unfold valueSections
  split
  · exact ⟨_, _, rfl, rfl⟩
  · exact ⟨_, _, rfl, rfl⟩

/-- The lines that a document has about the value of a symbol. -/
def valueLines (style : Style) (symbol : SymbolFact) (d : Document) (width : Nat) : List Line :=
  Layout.brokenUp (style.group ((valueSections symbol).map fun kind =>
    style.sectionLines d kind width))

theorem withValue_eq (d : Document) (symbol : SymbolFact) (doc : ReturnDoc) : ∃ returns yields,
    withValue d symbol doc = { d with returns := returns, yields := yields } ∧
      (.returns ∉ valueSections symbol → returns = d.returns) ∧
      (.yields ∉ valueSections symbol → yields = d.yields) := by
  unfold withValue valueSections
  split
  · exact ⟨_, _, rfl, by simp, fun _ => rfl⟩
  · exact ⟨_, _, rfl, by simp, by simp⟩

theorem value_withValue (d : Document) (symbol : SymbolFact) (doc : ReturnDoc) :
    (withValue d symbol doc).value (valueSection symbol) = some doc := by
  unfold withValue
  rcases valueSection_cases symbol with hkind | hkind <;> simp [hkind]

theorem heads_valueBlocks (style : Style) (symbol : SymbolFact) (d : Document) (width : Nat) :
    ∀ line ∈ (style.group ((valueSections symbol).map fun kind =>
      style.sectionLines d kind width)).head?, style.Heads (firstLine line) := by
  refine Style.forall_head?_group fun block hblock => ?_
  obtain ⟨kind, _, rfl⟩ := List.mem_map.mp hblock
  exact Style.heads_sectionLines style d kind width

/-- Only the section on the value is left of those that could say it. -/
theorem group_withValue (d : Document) (symbol : SymbolFact) (doc : ReturnDoc) (width : Nat) :
    style.group ((valueSections symbol).map fun kind =>
        style.sectionLines (withValue d symbol doc) kind width) =
      style.sectionLines (withValue d symbol doc) (valueSection symbol) width := by
  rcases valueSection_cases symbol with hkind | hkind
  · rw [valueSections, if_pos hkind, hkind]
    exact Style.group_singleton _
  · have hreturns : (withValue d symbol doc).value .returns = none := by
      rw [withValue, if_neg (by simp [hkind]), Document.value_returns]
    rw [valueSections, if_neg (by simp [hkind]), hkind, List.map_cons, List.map_singleton,
      Style.sectionLines_of_value_eq_none (.inl rfl) hreturns, Style.group_nil_cons]
    exact Style.group_singleton _

/-! ## A canonical docstring -/

/-- What is written anew of a canonical docstring: lines around the section on the value stay where
they are. -/
structure Rewritten (style : Style) (symbol : SymbolFact) (old lines up between down new : List Line) :
    Prop where
  old_eq : old = up ++ between ++ down
  inside : ∀ kind, IsOnValue symbol kind → ∀ i,
    style.opener.at? (normalLines (joinLines old)) i = some kind →
      up.length ≤ i ∧ i < up.length + between.length
  spaced : Spaced up.length lines new
  closed : ∀ line ∈ down.head?, ¬style.opener.completes line
  heads : up = [] → ∀ line ∈ old.head?, style.Heads line
  level : up = [] → ∃ below, new ++ down = lines ++ below ∧ IsLevel below

/-- A canonical docstring has the lines that are written around those on the value. -/
theorem arranged_eq_normalLines {above front back below : List Line}
    (hparse : style.parse l.body = .ok current) (hcanonical : style.render current width = l.body)
    (haround : Style.WrittenAround style (valueSections symbol) current width above front back below) :
    Layout.arranged (Layout.brokenUp above) (Layout.brokenUp front)
        (valueLines style symbol current width) (Layout.brokenUp back) (Layout.brokenUp below) =
      normalLines l.raw := by
  have hold := haround.render_eq current.returns current.yields (fun _ => rfl) (fun _ => rfl)
  rw [valueLines, ← Layout.brokenUp_arranged]
  refine Layout.brokenUp_of_joinLines (isNormal_normalLines l.raw) (hold.symm.trans hcanonical)
    fun hnil => ?_
  have hheads := Layout.forall_head?_arranged
    (haround.front_heads (Style.headBlocks_eq_nil width hnil hparse))
    (heads_valueBlocks style symbol current width) haround.back_heads haround.below_heads
  exact fun line hline => ne_nil_of_opensWithInk (hheads line hline).ink

theorem exists_rewritten (hplain : style ≠ .plain) (hparse : style.parse l.body = .ok current)
    (hcanonical : style.render current width = l.body)
    (hlines : lines = style.sectionLines (withValue current symbol doc) (valueSection symbol) width)
    (hne : lines ≠ []) (hclean : ∀ line ∈ lines, IsClean line) : ∃ up down new,
      Rewritten style symbol (normalLines l.raw) lines up (valueLines style symbol current width) down new ∧
        splitLines (style.render (withValue current symbol doc) width) = up ++ new ++ down := by
  have hnormal := isNormal_normalLines l.raw
  obtain ⟨after, fields, horder, hfields⟩ := exists_order symbol
  obtain ⟨above, front, back, below, haround⟩ :=
    Style.exists_writtenAround hplain horder ⟨fields, hfields⟩ current width
  have hlinesOld := arranged_eq_normalLines hparse hcanonical haround
  obtain ⟨up, down, left, right, hup, hnew, hsurrounds, hleft, hright, htop⟩ :=
    Layout.exists_arranged (Layout.brokenUp above) (Layout.brokenUp front)
      (valueLines style symbol current width) (Layout.brokenUp back) (Layout.brokenUp below) hne
  have holdEq := hlinesOld.symm.trans hup
  have hback := Layout.forall_head?_brokenUp haround.back_heads
  have hbelow := Layout.forall_head?_brokenUp haround.below_heads
  refine ⟨up, down, left ++ lines ++ right, ?_, ?_⟩
  · exact {
      old_eq := holdEq
      inside := fun kind hkind i hopens => Style.inside_of_opened hplain hnormal hparse hcanonical
        (hkind.elim (fun hsame => hsame ▸ valueSection_cases symbol) .inl) hopens haround hsurrounds
        rfl holdEq (mem_valueSections hkind)
      spaced := ⟨left, right, hleft, hright,
        fun hzero => (htop (List.eq_nil_of_length_eq_zero hzero)).1, rfl⟩
      closed := hsurrounds.forall_head?_down Opener.not_completes_nil
        (fun line hline => (hback line hline).lone) fun line hline => (hbelow line hline).lone
      heads := fun hnil => by
        obtain ⟨habove, hfront⟩ := hsurrounds.eq_nil_of_up hnil
        rw [← hlinesOld, habove, hfront]
        exact Layout.forall_head?_arranged (by simp)
          (Layout.forall_head?_brokenUp (heads_valueBlocks style symbol current width)) hback hbelow
      level := fun hnil => by
        obtain ⟨hnoLeft, hlevel⟩ := htop hnil
        refine ⟨right ++ down, by simp [hnoLeft], hlevel ▸ ?_⟩
        exact Layout.isLevel_append_setOff (fun line hline => (hback line hline).ink)
          fun line hline => (hbelow line hline).ink }
  · obtain ⟨returns, yields, hwith, hreturns, hyields⟩ := withValue_eq current symbol doc
    have hgroup := @group_withValue style current symbol doc width
    rw [← hlines, hwith] at hgroup
    rw [hwith, haround.render_eq returns yields hreturns hyields, hgroup,
      Layout.splitLines_joinLines_arranged _ _ _ _ hne,
      Layout.brokenUp_of_newline fun line hline => (hclean line hline).newline, hnew]

section Rewritten

variable {up between down new old : List Line}

theorem Rewritten.take (h : Rewritten style symbol old lines up between down new) :
    old.take up.length = up := by
  rw [h.old_eq, List.append_assoc, List.take_left]

theorem Rewritten.drop (h : Rewritten style symbol old lines up between down new) :
    old.drop (up ++ between).length = down := by
  rw [h.old_eq, List.drop_left]

theorem Rewritten.isClean (h : Rewritten style symbol old lines up between down new)
    (hnormal : IsNormal old) (hlines : ∀ line ∈ lines, IsClean line) :
    ∀ line ∈ up ++ new ++ down, IsClean line := by
  have hold : ∀ line ∈ old, IsClean line := hnormal.clean
  rw [h.old_eq] at hold
  intro line hline
  simp only [List.mem_append] at hline hold
  rcases hline with (hline | hline) | hline
  · exact hold line (.inl (.inl hline))
  · exact h.spaced.isClean hlines line hline
  · exact hold line (.inr hline)

end Rewritten

section Beside

variable {siteIndent : Text} {up between down new rest : List Line} {first : Line} {headed : Bool}
  (h : Rewritten style symbol (normalLines l.raw) lines up between down new)

include h

/-- New lines are found again behind any margin, below a header of their style, too. -/
theorem Rewritten.shifted_new (hclean : ∀ line ∈ lines, IsClean line)
    (hheaded : style = .google → ∀ line ∈ lines, isBlank line = false →
      Google.isHeader (trim line) = true ∨ Google.bodyIndent ≤ indentWidth line)
    (hflag : headed = true → style = .google) : ∀ line ∈ new, isBlank line = false →
      marginOf headed (spaces l.marginWidth ++ line) = l.marginWidth + marginOf headed line := by
  intro line hline hink
  have hmem := h.spaced.mem_of_ne_nil hline (by rintro rfl; cases hink)
  exact marginOf_spaces_append (hclean line hmem).tab fun hheader =>
    .inr (hheaded (hflag hheader) line hmem hink)

/-- Below a new first line, old lines are found again behind their margin: they stood below a header,
too, if that line is one. -/
theorem Rewritten.shifted_old (hmargin : l.margin = Literal.marginOf l.rawLines siteIndent)
    (hbeside : l.startsBelow = false) (hup : up = []) (hflag : headed = true → style = .google) :
    ∀ line ∈ down, isBlank line = false →
      marginOf headed (spaces l.marginWidth ++ line) = l.marginWidth + marginOf headed line := by
  intro line hline hink
  have hold : line ∈ normalLines l.raw := by
    rw [h.old_eq]
    simp [hline]
  have hclean := (isNormal_normalLines l.raw).clean line hold
  cases headed with
  | false => exact marginOf_spaces_append hclean.tab nofun
  | true =>
    obtain ⟨top, others, hlines⟩ := List.exists_cons_of_ne_nil (List.ne_nil_of_mem hold)
    have htop := h.heads hup top (by rw [hlines]; rfl)
    have hheader := htop.header.mpr (hflag rfl)
    have hshifted := (Literal.shifted_of_beside hmargin hbeside hlines).2
    rw [hheader] at hshifted
    rw [hlines] at hold
    rcases List.mem_cons.mp hold with rfl | hold
    · refine marginOf_spaces_append hclean.tab fun _ => .inr (.inl ?_)
      rw [trim_of_ink htop.ink hclean.trimmed, hheader]
    · exact hshifted line hold hink

/-- Where the first line stands on the line of the opening quotes, the others are found again behind
the margin. -/
theorem Rewritten.levelBelow (hmargin : l.margin = Literal.marginOf l.rawLines siteIndent)
    (hbeside : l.startsBelow = false) (hclean : ∀ line ∈ lines, IsClean line)
    (hhead : ∃ line ∈ lines.head?, style.Heads line)
    (hstyle : Google.isHeader (trim (firstLine l.raw)) = true → style = .google)
    (hheaded : style = .google → ∀ line ∈ lines, isBlank line = false →
      Google.isHeader (trim line) = true ∨ Google.bodyIndent ≤ indentWidth line)
    (hzero : up = [] → (bodyMargin? (new ++ down)).getD 0 = 0)
    (hall : up ++ new ++ down = first :: rest) :
    trim first = first ∧ LevelBelow first l.marginWidth rest := by
  obtain ⟨head, hmem, hheads⟩ := hhead
  have hwhole := h.isClean (isNormal_normalLines l.raw) hclean
  rw [hall] at hwhole
  cases up with
  | nil =>
    obtain ⟨below, hbelow, _⟩ := h.level rfl
    have hzero := hzero rfl
    rw [List.nil_append] at hall
    obtain rfl : head = first := by
      rw [hbelow] at hall
      have hfirst := congrArg List.head? hall
      rw [List.head?_append, Option.mem_def.mp hmem] at hfirst
      exact Option.some.inj hfirst
    have htrim : trim head = head :=
      trim_of_ink hheads.ink (hclean head (List.mem_of_mem_head? hmem)).trimmed
    rw [hall, bodyMargin?_eq_zero_iff htrim] at hzero
    refine ⟨htrim, ⟨fun line hline hink => ?_, ?_⟩⟩
    · rw [htrim]
      have hline : line ∈ new ++ down := hall ▸ List.mem_cons_of_mem _ hline
      rcases List.mem_append.mp hline with hline | hline
      · exact h.shifted_new hclean hheaded hheads.header.mp line hline hink
      · exact h.shifted_old hmargin hbeside rfl hheads.header.mp line hline hink
    · rw [htrim]
      exact hzero.imp_right fun hblank line hline =>
        (hwhole line (List.mem_cons_of_mem _ hline)).blank_iff.mp (hblank line hline)
  | cons top above =>
    obtain ⟨rfl, rfl⟩ : top = first ∧ above ++ new ++ down = rest := List.cons.inj hall
    have hlines : normalLines l.raw = top :: (above ++ between ++ down) := h.old_eq
    obtain ⟨htop, hshifted⟩ := Literal.shifted_of_beside hmargin hbeside hlines
    have htrim : trim top = top := by rw [htop, trim_trim]
    have hnew := h.spaced.mem (List.mem_of_mem_head? hmem)
    refine ⟨htrim, ⟨fun line hline hink => ?_, .inl ⟨head, by simp [hnew],
      not_blank_of_opensWithInk hheads.ink, marginOf_of_opensWithInk _ hheads.ink⟩⟩⟩
    rw [htrim]
    simp only [List.mem_append] at hline
    rcases hline with (hline | hline) | hline
    · exact hshifted line (by simp [hline]) hink
    · exact h.shifted_new hclean hheaded (htop ▸ hstyle) line hline hink
    · exact hshifted line (by simp [hline]) hink

end Beside

section Placed

variable {up between down new old : List Line}

/-- With a section that comes first, lines have no margin. -/
theorem Rewritten.bodyMargin?_eq_zero (h : Rewritten style symbol (normalLines l.raw)
      (style.sectionLines d (valueSection symbol) width) up between down new)
    (hdoc : d.value (valueSection symbol) = some doc) (hvalue : SaysType doc type)
    (htakes : Takes l style type) (hup : up = []) : (bodyMargin? (new ++ down)).getD 0 = 0 := by
  have hnormal := isNormal_normalLines l.raw
  have hbody : l.body = joinLines (normalLines l.raw) := rfl
  obtain ⟨below, hbelow, hlevel⟩ := h.level hup
  rw [hbelow]
  refine Style.bodyMargin?_sectionLines (valueSection_cases symbol) hdoc hvalue.type htakes.reads
    hvalue.clean width (fun hstyle => htakes.title hstyle ?_) fun _ _ => hlevel
  cases hlines : normalLines l.raw with
  | nil =>
    left
    rw [hbody, hlines]
    decide
  | cons top others =>
    right
    have htop := h.heads hup top (by rw [hlines]; rfl)
    rw [hbody, headD_normalLines_joinLines hnormal, hlines, List.headD_cons,
      trim_of_ink htop.ink (hnormal.clean top (by simp [hlines])).trimmed]
    exact htop.header.mpr hstyle

/-- The section is put in its place, in place of what was written of the value. -/
theorem Rewritten.placed (h : Rewritten style symbol (normalLines l.raw) lines up between down new) :
    Placed style.opener (IsOnValue symbol) (normalLines l.raw) lines up.length
      (up ++ between).length new where
  le := by simp
  last_le := by
    rw [h.old_eq]
    simp
  spaced := h.spaced
  closed line hline := by
    rw [← List.head?_drop, h.drop] at hline
    exact h.closed line hline
  inside kind hkind i hopens := by
    rw [List.length_append]
    exact h.inside kind hkind i hopens

/-- Once the section on the value is written anew, the type is said. -/
theorem Rewritten.saysValue {l' : Literal} (h : Rewritten style symbol (normalLines l.raw)
      (style.sectionLines d (valueSection symbol) width) up between down new)
    (hdoc : d.value (valueSection symbol) = some doc) (hvalue : SaysType doc type)
    (htakes : Takes l style type)
    (hraw : normalLines l'.raw = trimEmptyLines (up ++ new ++ down)) :
    SaysValue symbol style (normalLines l'.body) := by
  have hsection := Style.isSection_sectionLines (valueSection_cases symbol) hdoc hvalue.type
    htakes.reads hvalue.clean width
  refine h.placed.saysValue hsection ?_ (by rw [h.take, h.drop, hraw])
  rw [h.take, h.drop]
  cases up with
  | nil => exact h.bodyMargin?_eq_zero hdoc hvalue htakes rfl
  | cons top above =>
    obtain ⟨head, hmem, hink, _⟩ := hsection.head
    have hnew := h.spaced.mem (List.mem_of_mem_head? hmem)
    exact bodyMargin?_of_hasNoMargin (.inl ⟨head, by simp [hnew], hink⟩)

end Placed

/-- A canonical docstring says the type of the value once it is written with one. -/
theorem exists_saysValue_of_wrap? {t siteIndent s : Text} (h : Literal.ofText? t siteIndent = some l)
    (hplain : style ≠ .plain) (hparse : style.parse l.body = .ok current)
    (hcanonical : style.render current width = l.body)
    (hs : l.wrap? (style.render (withValue current symbol doc) width) = some s)
    (hvalue : SaysType doc type) (htakes : Takes l style type) (indent : Text) :
    ∃ l', Literal.ofText? s indent = some l' ∧ SaysValue symbol style (normalLines l'.body) := by
  have hkind := valueSection_cases symbol
  have hdoc := value_withValue current symbol doc
  have hsection := Style.isSection_sectionLines hkind hdoc hvalue.type htakes.reads hvalue.clean width
  obtain ⟨head, hmem, hink, _⟩ := hsection.head
  have hhead := List.mem_of_mem_head? hmem
  have hheads : style.Heads head := by
    have hfirst := Style.heads_sectionLines style _ _ width head hmem
    rwa [firstLine, splitLines_of_notMem (hsection.clean head hhead).newline] at hfirst
  obtain ⟨up, down, new, hrewritten, hall⟩ := exists_rewritten hplain hparse hcanonical rfl
    (List.ne_nil_of_mem hhead) hsection.clean
  have hclean := hrewritten.isClean (isNormal_normalLines l.raw) hsection.clean
  have hlevel : IsLevel (up ++ new ++ down) := by
    have hnew := hrewritten.spaced.mem hhead
    exact .inl ⟨head, by simp [hnew], not_blank_of_opensWithInk hink,
      indentWidth_of_opensWithInk hink⟩
  obtain ⟨-, hmargin, hsite⟩ := Literal.ofText?_eq_some h
  obtain ⟨hindentation, hgrows, l', hl', -, -, hraw⟩ := Literal.exists_of_wrap? h hs
    (fun hnone _ => hsite ▸ htakes.indentation hnone) indent
  obtain ⟨first, rest, hsplit⟩ := List.exists_cons_of_ne_nil
    (splitLines_ne_nil (style.render (withValue current symbol doc) width))
  rw [hsplit] at hall
  have hread := Literal.normalLines_wrapLines_of_level hindentation hgrows hsplit (hall ▸ hclean)
    (fun _ => hall ▸ hlevel) fun hbeside => hrewritten.levelBelow hmargin hbeside hsection.clean
      ⟨head, hmem, hheads⟩ (fun hheader => htakes.header (isHeader_headD_body hheader))
      (fun hstyle => by
        subst hstyle
        exact Google.isHeader_or_le_indentWidth hkind hdoc hvalue.type htakes.reads.1 hvalue.clean
          width)
      (hrewritten.bodyMargin?_eq_zero hdoc hvalue htakes) hall.symm
  exact ⟨l', hl', hrewritten.saysValue hdoc hvalue htakes (by rw [hraw, hread, hall])⟩

/-! ## One docstring -/

/-- The style that a docstring is read in; prose is read in the default style. -/
def readingStyle (l : Literal) (default : Style) : Style :=
  if (Detection.ofText l.body).style = .plain then default else (Detection.ofText l.body).style

/-- What a docstring is like in which a type that is written is found again. -/
structure Settles (l : Literal) (symbol : SymbolFact) (hint : Text) (style : Style)
    (current : Document) (width : Nat) : Prop where
  takes : ∀ type ∈ documentedType (typed current symbol hint) (valueSection symbol),
    Takes l style type
  /-- From an empty section on returned values there is nothing to move for a generator. -/
  blank : valueSection symbol ≠ .returns → ∀ doc ∈ current.returns, doc.isBlank = false
  /-- A section before a first line beside the opening quotes takes the place of that line there. -/
  front : style.render current width ≠ l.body → ComesFirst current (valueSection symbol) →
    l.lead = 0 → l.GivesWay
      (style.sectionLines (typed current symbol hint) (valueSection symbol) width)

/-- What the operation writes says the type of the value. -/
theorem exists_saysValue_of_writeChange? {t siteIndent s : Text}
    (h : Literal.ofText? t siteIndent = some l) (hplain : style ≠ .plain)
    (hparse : style.parse l.body = .ok current) (hsettles : Settles l symbol hint style current width)
    (hs : writeChange? l current (typed current symbol hint) (valueSection symbol) style
      (!(routed current symbol).2.isEmpty) width = some s) (indent : Text) :
    ∃ l', Literal.ofText? s indent = some l' ∧ SaysValue symbol style (normalLines l'.body) := by
  have hclean : ∀ kind, kind = .returns ∨ kind = .yields → ∀ doc ∈ current.value kind, doc.IsClean :=
    fun kind hkind => Style.isClean_value hkind hparse
  obtain ⟨doc, type, hvalue, htyped⟩ := exists_typed symbol hint (hclean _ (.inl rfl))
    (hclean _ (.inr rfl)) hsettles.blank
  have hdoc := value_withValue current symbol doc
  have htakes : Takes l style type := by
    refine hsettles.takes type ?_
    rw [htyped, documentedType_eq, hdoc]
    exact hvalue.type
  rw [htyped] at hs
  by_cases hcanonical : style.render current width = l.body
  · rw [writeChange?, if_pos hcanonical] at hs
    exact exists_saysValue_of_wrap? h hplain hparse hcanonical hs hvalue htakes indent
  · obtain ⟨first, last, new, hs, hplaced, htop⟩ :=
      exists_placed hparse hsettles.blank hcanonical hs
    exact exists_saysValue_of_splice? hparse hdoc hvalue htakes h hs hplaced htop
      (htyped ▸ hsettles.front hcanonical) indent

/-- Text is written for a docstring that can be read in its style. -/
theorem writeChange?_of_fixLiteral {s : Text}
    (hparse : (readingStyle l default).parse l.body = .ok current)
    (hs : (fixLiteral l symbol hint options default).2 = some s) :
    readingStyle l default ≠ .plain ∧
      writeChange? l current (typed current symbol hint) (valueSection symbol)
        (readingStyle l default) (!(routed current symbol).2.isEmpty)
        (options.maxLineWidth - l.marginWidth) = some s := by
  unfold fixLiteral at hs
  dsimp only at hs
  rw [← readingStyle] at hs
  split at hs
  · cases hs
  · split at hs
    · cases hs
    · rename_i hplain
      rw [hparse] at hs
      dsimp only at hs
      rw [fixDocument_text] at hs
      split at hs
      · cases hs
      · exact ⟨hplain, hs⟩

/-! ## A file -/

/-- Where a docstring stands once an edit has replaced it. -/
def movedSite (site : DocstringSite) (e : Edit) : DocstringSite :=
  { site with span := ⟨site.span.first, site.span.first + byteLength e.text⟩ }

/-- The symbol whose docstring was replaced. -/
def moved (symbol : SymbolFact) (site : DocstringSite) (e : Edit) : SymbolFact :=
  { symbol with docstring := some (movedSite site e) }

theorem SaysValue.moved (h : SaysValue symbol style lines) (site : DocstringSite) (e : Edit) :
    SaysValue (moved symbol site e) style lines := ⟨h.said, h.fits, h.only⟩

/-- The edits for one definition are those of its docstring. -/
theorem mem_edits_iff {file : Nat} {source : Text} {assignments : List AssignmentFact} {e : Edit}
    {site : DocstringSite} {hint : Text} (hsite : symbol.docstring = some site)
    (hhint : symbol.returnHint = some hint) :
    e ∈ (fixReturnTypes file source ⟨[symbol], assignments⟩ options default).edits ↔
      (symbol.kind.isCallable = true ∧ Hint.isNoValue hint = false) ∧
        ∃ l, Literal.ofSource? source site = some l ∧ ∃ text,
          (fixLiteral l symbol hint options default).2 = some text ∧
            e = literalEdit file returnTypeName symbol site (some .missingReturnType) text := by
  have hone : (fixReturnTypes file source ⟨[symbol], assignments⟩ options default).edits =
      (fixReturnType file source options default symbol).edits := rfl
  rw [hone]
  unfold fixReturnType
  rw [hsite, hhint]
  dsimp only
  split
  · rename_i hskipped
    simp only [Bool.or_eq_true, Bool.not_eq_true'] at hskipped
    refine iff_of_false (by simp) fun ⟨⟨hcallable, hvalue⟩, _⟩ => ?_
    simp [hcallable, hvalue] at hskipped
  · rename_i hkept
    simp only [Bool.or_eq_true, Bool.not_eq_true', not_or, Bool.not_eq_false, Bool.not_eq_true]
      at hkept
    rw [and_iff_right hkept]
    cases Literal.ofSource? source site with
    | none => simp
    | some l => simp [eq_comm]

/-- The operation is re-runnable where the type that it writes is read back: an edit of its report can
be made, and on the file that this gives it makes no other. Where the lines of the new
docstring are of several styles and that does not stop the operation, it must be taken for one of the
same style. -/
theorem a_written_type_is_found_again (file : Nat) (source : Text) (symbol : SymbolFact)
    (assignments : List AssignmentFact) (site : DocstringSite) (hint : Text)
    (options : ConvertOptions) (default : Style) (l : Literal) (current : Document) (e : Edit)
    (hsite : symbol.docstring = some site) (hhint : symbol.returnHint = some hint)
    (hl : Literal.ofSource? source site = some l)
    (hparse : (readingStyle l default).parse l.body = .ok current)
    (hsettles : Settles l symbol hint (readingStyle l default) current
      (options.maxLineWidth - l.marginWidth))
    (hmode : options.unsafeMode = true → ∀ l', Literal.ofText? e.text site.indent = some l' →
      (Detection.ofText l'.body).hasConflicts = true →
        (Detection.ofText l'.body).style = readingStyle l default)
    (he : e ∈ (fixReturnTypes file source ⟨[symbol], assignments⟩ options default).edits) :
    ∃ new, Edit.applyAll source [e] = .ok new ∧
      (fixReturnTypes file new ⟨[moved symbol site e], assignments⟩ options default).edits = [] := by
  obtain ⟨_, l₀, hl₀, text, htext, hedit⟩ := (mem_edits_iff hsite hhint).mp he
  obtain rfl : l = l₀ := Option.some.inj (hl.symm.trans hl₀)
  have hspan : e.span = site.span := congrArg Edit.span hedit
  obtain rfl : e.text = text := congrArg Edit.text hedit
  obtain ⟨hplain, hwritten⟩ := writeChange?_of_fixLiteral hparse htext
  obtain ⟨t, -, hread⟩ := Option.bind_eq_some_iff.mp hl
  obtain ⟨l', hl', hvalue⟩ := exists_saysValue_of_writeChange? hread hplain hparse hsettles hwritten
    site.indent
  have hfits : e.span.Fits source := hspan ▸ fits_of_ofSource? hl
  have hslice := Edit.slice?_replace hfits
  rw [hspan] at hslice
  refine ⟨Edit.replace source e, Edit.applyAll_singleton hfits, ?_⟩
  refine List.eq_nil_iff_forall_not_mem.mpr fun again hagain => ?_
  have hhint' : (moved symbol site e).returnHint = some hint := hhint
  obtain ⟨_, l₁, hl₁, text', htext', _⟩ := (mem_edits_iff rfl hhint').mp hagain
  obtain rfl : l' = l₁ := by
    have hsame : Literal.ofSource? (Edit.replace source e) (movedSite site e) = some l' :=
      Option.bind_eq_some_iff.mpr ⟨e.text, hslice, hl'⟩
    exact Option.some.inj (hsame.symm.trans hl₁)
  rw [(hvalue.moved site e).fixLiteral_text fun hunsafe => hmode hunsafe l' hl'] at htext'
  cases htext'

/-- The section on returned values of a generator becomes one on yielded values, with their type. -/
theorem the_values_of_a_generator_are_typed_once :
    let source := "def f() -> Iterator[int]:\n    \"\"\"Count.\n\n    Returns:\n        All.\n    \"\"\"".toList
    let site : DocstringSite := ⟨⟨30, 74⟩, "    ".toList⟩
    let symbol : SymbolFact :=
      { name := ['f'], qualifiedName := ['f'], kind := .function, isGenerator := true,
        returnHint := some "Iterator[int]".toList, docstring := some site }
    let e := literalEdit 0 returnTypeName symbol site (some .missingReturnType)
      "\"\"\"Count.\n\n    Yields:\n        int: All.\n    \"\"\"".toList
    (fixReturnTypes 0 source ⟨[symbol], []⟩ {} .rest).edits = [e] ∧
      ∃ new, Edit.applyAll source [e] = .ok new ∧
        (fixReturnTypes 0 new ⟨[moved symbol site e], []⟩ {} .rest).edits = [] := by
  intro source site symbol e
  let l : Literal := ⟨[], .tripleDouble, "Count.\n\n    Returns:\n        All.\n    ".toList,
    "    ".toList, "    ".toList⟩
  let current : Document :=
    { summary := "Count.".toList, returns := some { description := some "All.".toList },
      metadata := { style := some .google, sections := [⟨.returns, 2, 4⟩] } }
  have hedits : (fixReturnTypes 0 source ⟨[symbol], []⟩ {} .rest).edits = [e] := by decide +kernel
  have hstyle : readingStyle l .rest = .google := by decide +kernel
  have hparse : Style.google.parse l.body = .ok current := by decide +kernel
  have hcanonical : Style.google.render current (88 - 4) = l.body := by decide +kernel
  have htype : documentedType (typed current symbol "Iterator[int]".toList)
      (valueSection symbol) = some "int".toList := by decide +kernel
  refine ⟨hedits, a_written_type_is_found_again 0 source symbol [] site "Iterator[int]".toList {} .rest
    l current e rfl rfl (by decide +kernel) (hstyle ▸ hparse) ?_ nofun
    (by rw [hedits]; exact List.mem_singleton.mpr rfl)⟩
  rw [hstyle]
  refine ⟨fun type hmem => ?_, fun _ => by decide +kernel, fun h => absurd hcanonical h⟩
  rw [htype] at hmem
  obtain rfl := Option.some.inj hmem
  exact ⟨⟨by decide, ⟨("int".toList, []), by decide, by decide⟩⟩, by decide +kernel,
    fun _ => rfl, fun _ _ => by decide⟩

/-- A type is not found where it starts with a parenthesis, or where a bracket in it is a character of
a string. It is written again on every run, as the description of itself. -/
theorem a_type_that_is_not_found_is_written_again :
    let above := "\"\"\"Count.\n\n    Args:\n        x: what\n".toList
    let quotes := "    \"\"\"".toList
    let isWrittenAgain (hint : Text) : Prop :=
      let head := "def f(x) -> ".toList ++ hint ++ ":\n    ".toList
      let source := head ++ above ++ quotes ++ "\n    return 1\n".toList
      let site : DocstringSite :=
        ⟨⟨byteLength head, byteLength head + byteLength (above ++ quotes)⟩, "    ".toList⟩
      let symbol : SymbolFact :=
        { name := ['f'], qualifiedName := ['f'], kind := .function, returnHint := some hint,
          docstring := some site }
      let e := literalEdit 0 returnTypeName symbol site (some .missingReturnType)
        (above ++ "\n    Returns:\n        ".toList ++ hint ++ ":\n".toList ++ quotes)
      let again := literalEdit 0 returnTypeName symbol (movedSite site e) (some .missingReturnType)
        (above ++ "\n    Returns:\n        ".toList ++ hint ++ ": ".toList ++ hint ++ ":\n".toList ++
          quotes)
      (fixReturnTypes 0 source ⟨[symbol], []⟩ {} .rest).edits = [e] ∧
        ∃ new, Edit.applyAll source [e] = .ok new ∧
          (fixReturnTypes 0 new ⟨[moved symbol site e], []⟩ {} .rest).edits = [again]
    isWrittenAgain "(int)".toList ∧ isWrittenAgain "Literal[\"]\"]".toList := by
  refine ⟨⟨by decide +kernel, _, Edit.applyAll_singleton ?_, by decide +kernel⟩,
    ⟨by decide +kernel, _, Edit.applyAll_singleton ?_, by decide +kernel⟩⟩
  · decide +kernel
  · decide +kernel

end Fix

end Docstring
