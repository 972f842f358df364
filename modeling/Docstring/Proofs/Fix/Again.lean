-- The operation on return types, made a second time. A type that it wrote is found again where a
-- section on the value opens, so that there is nothing left to write.
import Docstring.Proofs.Arranged
import Docstring.Proofs.Fix.Agreement
import Docstring.Proofs.Fix.Placed

namespace Docstring.Fix

open Text

variable {l : Literal} {symbol : SymbolFact} {hint : Text} {style default : Style}
  {options : ConvertOptions} {current d : Document} {lines : List Line} {width : Nat}

/-! ## A type that is found -/

theorem valueSection_cases (symbol : SymbolFact) :
    valueSection symbol = .returns ∨ valueSection symbol = .yields := by
  unfold valueSection
  split
  · exact .inr rfl
  · exact .inl rfl

/-- The sections that say what the value of a symbol is: that on yielded values for a generator, and
the one on returned values, which belongs there. -/
def IsOnValue (symbol : SymbolFact) (kind : SectionKind) : Prop :=
  kind = valueSection symbol ∨ kind = .returns

/-- Lines that say the type of a symbol's value, and that do so in the section where it belongs. -/
structure SaysValue (symbol : SymbolFact) (style : Style) (lines : List Line) : Prop where
  said : ∃ i, style.opener.at? lines i = some (valueSection symbol) ∧ style.TypedAt lines i
  fits : ∀ i, style.opener.at? lines i = some (valueSection symbol) → style.FitsAt lines i
  only : valueSection symbol ≠ .returns → ∀ i, style.opener.at? lines i ≠ some .returns

/-- A generator's docstring without a section on returned values is read as it is. -/
theorem routed_of_returns_eq_none (h : valueSection symbol ≠ .returns → d.returns = none) :
    routed d symbol = (d, []) := by
  unfold routed
  split
  · rename_i hgenerator
    rw [Enriched.routeReturns, if_pos hgenerator, h (by simp [valueSection, hgenerator])]
  · rfl

theorem SaysValue.fixDocument_text (h : SaysValue symbol style (normalLines l.body))
    (hparse : style.parse l.body = .ok d) {confidence : Binary64} {warnings : List Diagnostic} :
    (fixDocument l symbol hint style confidence width warnings d).2 = none := by
  have hroute : routed d symbol = (d, []) := by
    refine routed_of_returns_eq_none fun hyields => ?_
    have hopened : (d.value .returns).isSome = true ↔ _ := Style.isSome_value_iff (.inl rfl) hparse
    have hnone : ¬(d.returns.isSome = true) := fun hsome =>
      (hopened.mp hsome).elim (h.only hyields)
    simpa using hnone
  have htype := Style.isSome_documentedType (valueSection_cases symbol) hparse h.said h.fits
  rw [Fix.fixDocument_text, hroute, if_pos]
  simpa using htype

/-- A docstring that says the type is left as it is. Where its lines are of several styles and that does
not stop the operation, the one that it is taken for must be that in which it says the type. -/
theorem SaysValue.fixLiteral_text (h : SaysValue symbol style (normalLines l.body))
    (hstyle : options.unsafeMode = true → (Detection.ofText l.body).hasConflicts = true →
      (Detection.ofText l.body).style = style) :
    (fixLiteral l symbol hint options default).2 = none := by
  obtain ⟨i, hopens, htyped⟩ := h.said
  have hplain : style ≠ .plain := by
    rintro rfl
    exact htyped
  have hmatched := Style.countSignatures_pos_of_typedAt (isNormal_normalLines l.body).clean
    hopens htyped
  unfold fixLiteral
  dsimp only
  split
  · rfl
  · rename_i hpassed
    have hfound : (Detection.ofText l.body).style = style := by
      cases hconflicts : (Detection.ofText l.body).hasConflicts with
      | true => exact hstyle (by simpa [hconflicts] using hpassed) hconflicts
      | false => exact Detection.style_ofText hplain hconflicts hmatched
    rw [hfound, if_neg hplain, if_neg hplain]
    cases hparse : style.parse l.body with
    | error failure => rfl
    | ok d => exact h.fixDocument_text hparse

/-- What is opened in new lines is the section that says the type, or it was opened outside of the
lines that they took the place of. -/
theorem saysValue_of_opened {old : List Line} {first last : Nat}
    (hsaid : ∃ i, style.opener.at? lines i = some (valueSection symbol) ∧ style.TypedAt lines i)
    (hopened : ∀ i other, style.opener.at? lines i = some other →
      (other = valueSection symbol ∧ style.FitsAt lines i) ∨
        ∃ j, (j < first ∨ last ≤ j) ∧ style.opener.at? old j = some other)
    (hinside : ∀ kind, IsOnValue symbol kind → ∀ i, style.opener.at? old i = some kind →
      first ≤ i ∧ i < last) : SaysValue symbol style lines := by
  have hnone : ∀ kind, IsOnValue symbol kind →
      ¬∃ j, (j < first ∨ last ≤ j) ∧ style.opener.at? old j = some kind := by
    rintro kind hkind ⟨j, hj, hopens⟩
    have hbetween := hinside kind hkind j hopens
    omega
  refine ⟨hsaid, fun i hopens => ?_, fun hyields i hopens => ?_⟩
  · rcases hopened i _ hopens with ⟨_, hfits⟩ | hold
    · exact hfits
    · exact (hnone _ (.inl rfl) hold).elim
  · rcases hopened i _ hopens with ⟨hsame, _⟩ | hold
    · exact hyields hsame.symm
    · exact hnone _ (.inr rfl) hold

/-! ## The document that says it -/

/-- A value with a type, and a description of clean lines. -/
structure SaysType (doc : ReturnDoc) (type : Text) : Prop where
  type : doc.type = some type
  clean : doc.IsClean

theorem isClean_joinDescriptions {a b : Option Text}
    (ha : ∀ t ∈ a, ∀ line ∈ splitLines t, IsClean line)
    (hb : ∀ t ∈ b, ∀ line ∈ splitLines t, IsClean line) :
    ∀ t ∈ Enriched.joinDescriptions a b, ∀ line ∈ splitLines t, IsClean line := by
  intro t ht line hline
  unfold Enriched.joinDescriptions at ht
  split at ht
  · rename_i a b
    split at ht
    · exact hb t ht line hline
    · split at ht
      · exact ha t ht line hline
      · cases ht
        rw [splitLines_newline_append] at hline
        exact (List.mem_append.mp hline).elim (ha a rfl line) (hb b rfl line)
  · rcases Option.or_eq_some_iff.mp ht with hleft | ⟨_, hright⟩
    · exact ha t hleft line hline
    · exact hb t hright line hline

theorem isClean_mergeYields {yields : Option ReturnDoc} {returns : ReturnDoc}
    (hyields : ∀ doc ∈ yields, doc.IsClean) (hreturns : returns.IsClean) :
    (Enriched.mergeYields yields returns).IsClean := by
  refine isClean_joinDescriptions ?_ hreturns
  cases yields with
  | none => simp
  | some doc => exact hyields doc rfl

/-- The document with what is said about the value where it belongs, and only there. -/
def withValue (d : Document) (symbol : SymbolFact) (doc : ReturnDoc) : Document :=
  if valueSection symbol = .returns then { d with returns := some doc }
  else { d with returns := none, yields := some doc }

/-- A document with a type for a value: what it said before, with the type if there was none. -/
theorem exists_withType {kind : SectionKind} (hkind : kind = .returns ∨ kind = .yields)
    (hclean : ∀ doc ∈ d.value kind, doc.IsClean) (wanted : Text) :
    ∃ doc type, SaysType doc type ∧
      (if (documentedType d kind).isSome then d else withType d kind wanted) =
        if kind = .yields then { d with yields := some doc } else { d with returns := some doc } := by
  rw [documentedType_eq]
  cases hdoc : d.value kind with
  | none =>
    refine ⟨{ type := some wanted }, wanted, ⟨rfl, nofun⟩, ?_⟩
    rcases hkind with rfl | rfl <;> simp_all [withType]
  | some doc =>
    cases htype : doc.type with
    | none =>
      refine ⟨{ doc with type := some wanted }, wanted, ⟨rfl, hclean doc hdoc⟩, ?_⟩
      rcases hkind with rfl | rfl <;> simp_all [withType]
    | some type =>
      refine ⟨doc, type, ⟨htype, hclean doc hdoc⟩, ?_⟩
      rw [if_pos (by simp [htype])]
      rcases hkind with rfl | rfl <;> exact hdoc ▸ rfl

/-- A generator's document has nothing left to say of a returned value. -/
theorem exists_routed (hgenerator : symbol.isGenerator = true)
    (hreturns : ∀ doc ∈ d.returns, doc.IsClean) (hyields : ∀ doc ∈ d.yields, doc.IsClean)
    (hempty : ∀ doc ∈ d.returns, doc.isBlank = false) :
    ∃ yields, (routed d symbol).1 = { d with returns := none, yields := yields } ∧
      ∀ doc ∈ yields, doc.IsClean := by
  rw [routed, if_pos hgenerator, Enriched.routeReturns, if_pos hgenerator]
  cases hdoc : d.returns with
  | none => exact ⟨d.yields, by simp [← hdoc], hyields⟩
  | some doc =>
    have hsaid := hempty doc hdoc
    refine ⟨some (Enriched.mergeYields d.yields doc), by simp [hsaid], ?_⟩
    rintro _ ⟨⟩
    exact isClean_mergeYields hyields (hreturns doc hdoc)

/-- With a type, a document says of the value what it said before, and where it belongs. -/
theorem exists_typed (symbol : SymbolFact) (hint : Text) (hreturns : ∀ doc ∈ d.returns, doc.IsClean)
    (hyields : ∀ doc ∈ d.yields, doc.IsClean)
    (hempty : valueSection symbol ≠ .returns → ∀ doc ∈ d.returns, doc.isBlank = false) :
    ∃ doc type, SaysType doc type ∧ typed d symbol hint = withValue d symbol doc := by
  cases hgenerator : symbol.isGenerator with
  | false =>
    have hkind : valueSection symbol = .returns := by simp [valueSection, hgenerator]
    have hroute : routed d symbol = (d, []) := routed_of_returns_eq_none fun h => absurd hkind h
    obtain ⟨doc, type, hsays, htyped⟩ :=
      exists_withType (.inl rfl) hreturns (wantedType symbol hint)
    have hvalue : withValue d symbol doc = { d with returns := some doc } := if_pos hkind
    refine ⟨doc, type, hsays, ?_⟩
    rw [typed, hroute, hvalue, hkind]
    exact htyped
  | true =>
    have hkind : valueSection symbol = .yields := by simp [valueSection, hgenerator]
    obtain ⟨yields, hroute, hclean⟩ :=
      exists_routed hgenerator hreturns hyields (hempty (by simp [hkind]))
    obtain ⟨doc, type, hsays, htyped⟩ := exists_withType
      (d := { d with returns := none, yields := yields }) (.inr rfl) hclean (wantedType symbol hint)
    have hvalue : withValue d symbol doc = { d with returns := none, yields := some doc } :=
      if_neg (by simp [hkind])
    refine ⟨doc, type, hsays, ?_⟩
    rw [typed, hroute, hvalue, hkind]
    exact htyped

/-! ## A section that is spliced in -/

/-- A header on the line of the opening quotes is the first line that is read. -/
theorem isHeader_headD_body (h : Google.isHeader (trim (firstLine l.raw)) = true) :
    Google.isHeader ((normalLines l.body).headD []) = true := by
  have hne : trim (firstLine l.raw) ≠ [] := by
    intro hnil
    rw [hnil] at h
    cases h
  rw [Literal.body, normalText, headD_normalLines_joinLines (isNormal_normalLines l.raw),
    normalLines_eq, trimEmptyLines_cons _ hne, List.headD_cons, trim_trim, h]

/-- What a type and a docstring are like if the type is found where it is written: the style reads it
as a type, and the margin of the docstring is the same with it. -/
structure Takes (l : Literal) (style : Style) (type : Text) : Prop where
  reads : style.ReadsType type
  indentation : bodyMargin? l.rawLines = none → IsIndentation l.siteIndent
  /-- Only below a header of the Google style, other lines count as less indented. -/
  header : Google.isHeader ((normalLines l.body).headD []) = true → style = .google
  /-- A section title in place of a type is no line of the section. -/
  title : style = .google →
    (normalLines l.body = [] ∨ Google.isHeader ((normalLines l.body).headD []) = true) →
      Google.headerOfTitle? type = none

theorem mem_tail_of_pos {old new below : List Line} {line : Line} {first : Nat} (hpos : 0 < first)
    (hfirst : first ≤ old.length) (hline : line ∈ new) :
    line ∈ (old.take first ++ new ++ below).tail := by
  obtain ⟨n, rfl⟩ := Nat.exists_eq_succ_of_ne_zero hpos.ne'
  cases old with
  | nil => simp at hfirst
  | cons above rest => simp [hline]

section Splice

variable {t siteIndent s : Text} {first last : Nat} {new : List Line} {changed : Document}
  {doc : ReturnDoc} {type : Text}

theorem isHeader_of_span (hparse : style.parse l.body = .ok current) {span : SectionSpan}
    (hspan : span ∈ current.metadata.sections) (hfirst : span.first = 0) (hstyle : style = .google) :
    Google.isHeader ((normalLines l.body).headD []) = true := by
  subst hstyle
  obtain ⟨lo, htiled⟩ := Style.tiled_parse hparse
  have hopened := htiled.opened span hspan
  rw [hfirst, List.drop_zero] at hopened
  exact Google.isHeader_of_openedAt? hopened

/-- Lines that come before a first line beside the opening quotes are a section that is to come first. -/
theorem givesWay_of_splice? (hs : l.splice? first last new = some s) {lines : List Line}
    (hne : lines ≠ []) (hplaced : Spaced first lines new)
    (htop : first = 0 → ComesToTop current (valueSection symbol) last lines new)
    (hpos : ∀ span ∈ current.metadata.sections, span.first < span.last)
    (hfront : ComesFirst current (valueSection symbol) → l.lead = 0 → l.GivesWay lines)
    (hzero : first + l.lead = 0) : l.GivesWay new := by
  obtain ⟨rfl, hlead⟩ : first = 0 ∧ l.lead = 0 := by omega
  obtain ⟨-, -, hpoint, -⟩ := Literal.splice?_eq_some hs
  rcases htop rfl with ⟨_, hcomes⟩ | ⟨_, span, hspan, _, hfirst, rfl⟩
  · obtain ⟨above, below, _, hbelow, hnothing, rfl⟩ := hplaced
    rw [hnothing rfl, List.nil_append]
    exact (hfront hcomes hlead).append hne hbelow
  · have hlast := hpoint hzero (Literal.beside_of_lead hlead)
    have hlt := hpos span hspan
    omega

/-- A docstring with a section in its place says what that section says, if there is no margin then. -/
theorem Placed.saysValue {l' : Literal}
    (h : Placed style.opener (IsOnValue symbol) (normalLines l.raw) lines first last new)
    (hsection : style.opener.IsSection style.TypedAt style.FitsAt (valueSection symbol) lines)
    (hmargin : (bodyMargin? ((normalLines l.raw).take first ++ new ++
      (normalLines l.raw).drop last)).getD 0 = 0)
    (hraw : normalLines l'.raw = trimEmptyLines
      ((normalLines l.raw).take first ++ new ++ (normalLines l.raw).drop last)) :
    SaysValue symbol style (normalLines l'.body) := by
  obtain ⟨hsaid, hopened⟩ := Opener.opened_rewritten Style.typedAt_of_shown Style.fitsAt_of_shown
    (isNormal_normalLines l.raw) hsection h.spaced (h.le.trans h.last_le) h.closed hmargin
    (congrArg (fun lines => normalLines (joinLines lines)) hraw)
  exact saysValue_of_opened hsaid hopened h.inside

section Written

variable (hparse : style.parse l.body = .ok current)
  (hdoc : changed.value (valueSection symbol) = some doc) (hvalue : SaysType doc type)
  (htakes : Takes l style type)

include hparse hdoc hvalue htakes

/-- What is left of a docstring above and below a section that comes first has no margin, unless its
lines were indented and the section is a single line. -/
theorem bodyMargin?_at_top
    (hplaced : Placed style.opener (IsOnValue symbol) (normalLines l.raw)
      (style.sectionLines changed (valueSection symbol) width) 0 last new)
    (htop : ComesToTop current (valueSection symbol) last
      (style.sectionLines changed (valueSection symbol) width) new)
    (hlevel : style = .rest → doc.description = none → 0 < last →
      IsLevel ((normalLines l.raw).drop last)) :
    (bodyMargin? (new ++ (normalLines l.raw).drop last)).getD 0 = 0 := by
  have htitle : ∀ span ∈ current.metadata.sections, span.first = 0 → style = .google →
      Google.headerOfTitle? type = none := fun span hspan hfirst hstyle =>
    htakes.title hstyle (.inr (isHeader_of_span hparse hspan hfirst hstyle))
  have hmargin := fun (rest : List Line) => @Style.bodyMargin?_sectionLines _ _ _
    (valueSection_cases symbol) _ _ hdoc hvalue.type htakes.reads hvalue.clean width rest
  rcases htop with ⟨rfl, _, _, after, hafter, hfirst⟩ | ⟨rfl, span, hspan, _, hfirst, rfl⟩
  · obtain ⟨above, below, _, hbelow, hfront, rfl⟩ := hplaced.spaced
    rw [hfront rfl, List.nil_append, List.drop_zero, List.append_assoc]
    exact hmargin _ (htitle after (mem_of_nextSpan? hafter) hfirst) fun _ _ =>
      isLevel_append hbelow (Literal.isLevel_normalLines l.raw)
  · obtain ⟨lo, htiled⟩ := Style.tiled_parse hparse
    exact hmargin _ (htitle span hspan hfirst) fun hstyle hnone =>
      hlevel hstyle hnone (hfirst ▸ htiled.nonempty span hspan)

/-- A single field takes the place of the one on the first line. The lines below keep their margin. -/
theorem saysValue_of_field {l' : Literal} (hrest : style = .rest) (hnone : doc.description = none)
    (hpos : 0 < last) (hlevel : ¬IsLevel ((normalLines l.raw).drop last))
    (hplaced : Placed style.opener (IsOnValue symbol) (normalLines l.raw)
      (style.sectionLines changed (valueSection symbol) width) 0 last new)
    (htop : ComesToTop current (valueSection symbol) last
      (style.sectionLines changed (valueSection symbol) width) new)
    (hraw : normalLines l'.raw = trimEmptyLines (new ++ (normalLines l.raw).drop last)) :
    SaysValue symbol style (normalLines l'.body) := by
  subst hrest
  have hkind := valueSection_cases symbol
  have hsection := Style.isSection_sectionLines hkind hdoc hvalue.type htakes.reads hvalue.clean width
  obtain ⟨rfl, _⟩ | ⟨rfl, span, hspan, hspanKind, hfirst, rfl⟩ := htop
  · exact absurd hpos (Nat.lt_irrefl 0)
  obtain ⟨line, hline, hink, _⟩ := hsection.head
  obtain ⟨rest, rfl⟩ := Rest.head?_sectionLines changed (valueSection symbol) width line hline
  have hsingle : Style.rest.sectionLines changed (valueSection symbol) width = [':' :: rest] := by
    have htype : Style.rest.sectionLines changed (valueSection symbol) width = _ :=
      Rest.sectionLines_of_description_eq_none hkind hdoc hvalue.type hnone width
    rw [htype] at hline
    exact htype.trans (congrArg (fun line => [line]) (Option.some.inj hline))
  rw [hsingle] at hsection hraw
  have hheader : Google.isHeader (trim (':' :: rest)) = false := by
    rw [trim_of_ink hink (hsection.clean _ (List.mem_singleton.mpr rfl)).trimmed]
    exact Google.isHeader_colon rest
  rcases Rest.bodyMargin?_below hspanKind (isNormal_normalLines l.raw) hparse hspan rfl hfirst
    hheader with hempty | hmargin
  · exact absurd (.inr hempty) hlevel
  · obtain ⟨hsaid, hopened⟩ := Opener.opened_shifted Style.typedAt_of_shown Style.fitsAt_of_shown
      (isNormal_normalLines l.raw) hsection hpos (fun _ _ => id) hmargin
      (congrArg (fun lines => normalLines (joinLines lines)) hraw)
    refine saysValue_of_opened hsaid (fun i other hopens => ?_) hplaced.inside
    exact (hopened i other hopens).imp_right fun hold => hold.imp fun j hj => ⟨.inr hj.1, hj.2⟩

/-- A docstring says the type of the value once a section that says it is spliced in. -/
theorem exists_saysValue_of_splice? (h : Literal.ofText? t siteIndent = some l)
    (hs : l.splice? first last new = some s)
    (hplaced : Placed style.opener (IsOnValue symbol) (normalLines l.raw)
      (style.sectionLines changed (valueSection symbol) width) first last new)
    (htop : first = 0 → ComesToTop current (valueSection symbol) last
      (style.sectionLines changed (valueSection symbol) width) new)
    (hfront : ComesFirst current (valueSection symbol) → l.lead = 0 →
      l.GivesWay (style.sectionLines changed (valueSection symbol) width)) (indent : Text) :
    ∃ l', Literal.ofText? s indent = some l' ∧ SaysValue symbol style (normalLines l'.body) := by
  have hkind := valueSection_cases symbol
  have hsection := Style.isSection_sectionLines hkind hdoc hvalue.type htakes.reads hvalue.clean width
  obtain ⟨lo, htiled⟩ := Style.tiled_parse hparse
  obtain ⟨line, hline, hink, -⟩ := hsection.head
  have hmem : line ∈ new := hplaced.spaced.mem (List.mem_of_mem_head? hline)
  have hgives := givesWay_of_splice? hs (List.ne_nil_of_mem (List.mem_of_mem_head? hline))
    hplaced.spaced htop htiled.nonempty hfront
  have hheaded : Google.isHeader (trim (firstLine l.raw)) = true → ∀ line ∈ new,
      isBlank line = false → Google.isHeader (trim line) = true ∨
        Google.bodyIndent ≤ indentWidth line := by
    intro hheader line hl hkept
    obtain rfl := htakes.header (isHeader_headD_body hheader)
    refine Google.isHeader_or_le_indentWidth hkind hdoc hvalue.type htakes.reads.1 hvalue.clean width
      line ?_ hkept
    exact hplaced.spaced.mem_of_ne_nil hl (by rintro rfl; cases hkept)
  obtain ⟨-, hmargin, hsite⟩ := Literal.ofText?_eq_some h
  obtain ⟨hle, -, hpoint, -⟩ := Literal.splice?_eq_some hs
  obtain ⟨hindentation, l', hl', -, -, hl'raw⟩ :=
    Literal.exists_of_splice? h hs (List.ne_nil_of_mem hmem) (hsite ▸ htakes.indentation) indent
  have hraw : normalLines l'.raw = trimEmptyLines
      ((normalLines l.raw).take first ++ new ++ (normalLines l.raw).drop last) := by
    rw [hl'raw]
    exact Literal.normalLines_spliceLines hmargin hle hplaced.last_le
      (fun hzero => hpoint hzero (Literal.beside_of_lead (Nat.eq_zero_of_add_eq_zero_left hzero)))
      hgives hindentation (hplaced.spaced.isClean hsection.clean) hheaded
      ⟨line, hmem, not_blank_of_opensWithInk hink, indentWidth_of_opensWithInk hink⟩
  refine ⟨l', hl', ?_⟩
  rcases Nat.eq_zero_or_pos first with rfl | hpos
  · by_cases hfield : style = .rest ∧ doc.description = none ∧ 0 < last ∧
        ¬IsLevel ((normalLines l.raw).drop last)
    · obtain ⟨hrest, hnone, hpos, hlevel⟩ := hfield
      exact saysValue_of_field hparse hdoc hvalue htakes hrest hnone hpos hlevel hplaced (htop rfl)
        hraw
    · refine hplaced.saysValue hsection ?_ hraw
      exact bodyMargin?_at_top hparse hdoc hvalue htakes hplaced (htop rfl)
        fun hrest hnone hpos => by_contra fun hlevel => hfield ⟨hrest, hnone, hpos, hlevel⟩
  · refine hplaced.saysValue hsection (bodyMargin?_of_hasNoMargin (.inl ⟨line, ?_, hink⟩)) hraw
    exact mem_tail_of_pos hpos (hplaced.le.trans hplaced.last_le) hmem

end Written

/-- A generator's docstring has a section on returned values to move only if that is not empty. -/
theorem returns_of_routed (hempty : valueSection symbol ≠ .returns →
    ∀ doc ∈ current.returns, doc.isBlank = false) (hyields : valueSection symbol ≠ .returns) :
    (routed current symbol).2 = [] ↔ current.returns = none := by
  have hgenerator : symbol.isGenerator = true := by
    by_contra hnot
    exact hyields (if_neg hnot)
  rw [routed, if_pos hgenerator, Enriched.routeReturns, if_pos hgenerator]
  cases hdoc : current.returns with
  | none => simp
  | some doc => simp [hempty hyields doc hdoc]

/-- The operation splices a section in where none on the value is left elsewhere. -/
theorem exists_placed (hparse : style.parse l.body = .ok current)
    (hempty : valueSection symbol ≠ .returns → ∀ doc ∈ current.returns, doc.isBlank = false)
    (hcanonical : style.render current width ≠ l.body)
    (hs : writeChange? l current changed (valueSection symbol) style
      (!(routed current symbol).2.isEmpty) width = some s) :
    ∃ first last new, l.splice? first last new = some s ∧
      Placed style.opener (IsOnValue symbol) (normalLines l.raw)
        (style.sectionLines changed (valueSection symbol) width) first last new ∧
      (first = 0 → ComesToTop current (valueSection symbol) last
        (style.sectionLines changed (valueSection symbol) width) new) := by
  rw [writeChange?, if_neg hcanonical] at hs
  split at hs
  · rename_i hmoved
    have hyields : valueSection symbol = .yields := by
      refine (valueSection_cases symbol).resolve_left fun hreturns => ?_
      rw [routed_of_returns_eq_none fun h => absurd hreturns h] at hmoved
      cases hmoved
    obtain ⟨first, last, new, hs, hplaced, htop⟩ := exists_placed_of_spliceOverReturns? hparse hs
    refine ⟨first, last, new, hs, ?_, hyields ▸ htop⟩
    rw [hyields]
    exact { hplaced with inside := fun kind hkind => hplaced.inside kind (hyields ▸ hkind) }
  · rename_i hmoved
    obtain ⟨first, last, new, hs, hplaced, htop⟩ :=
      exists_placed_of_spliceSection? (valueSection_cases symbol) hparse hs
    refine ⟨first, last, new, hs, { hplaced with inside := fun kind hkind i hopens => ?_ }, htop⟩
    by_cases hsame : kind = valueSection symbol
    · exact hplaced.inside kind hsame i hopens
    · obtain rfl : kind = .returns := hkind.resolve_left hsame
      have hnone := (returns_of_routed hempty (Ne.symm hsame)).mp (by simpa using hmoved)
      have hopened : (current.value .returns).isSome = true ↔ _ :=
        Style.isSome_value_iff (.inl rfl) hparse
      have hsome := hopened.mpr ⟨i, hopens⟩
      rw [Document.value_returns, hnone] at hsome
      cases hsome

end Splice

end Docstring.Fix
