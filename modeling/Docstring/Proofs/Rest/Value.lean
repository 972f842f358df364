-- What a field list says about the value that is returned or yielded: its fields add up, and a type
-- stays until another field takes its place.
import Docstring.Proofs.Document.Value
import Docstring.Proofs.Literal.Margin
import Docstring.Proofs.Rest.Example
import Docstring.Proofs.Rest.Tiled

namespace Docstring.Rest

open Text

variable {text : Text} {d : Document} {kind : SectionKind}

/-! ## Where sections open -/

theorem opensWithInk_of_classify {line : Line} {found : Marker × Text}
    (h : classify line = some found) : opensWithInk line = true := by
  cases line with
  | nil => cases h
  | cons c rest =>
    by_contra hink
    have hspace : isSpace c = true := by simpa [opensWithInk] using hink
    rw [classify_of_isSpace rest hspace] at h
    cases h

/-- A marker line opens the section of its kind, whatever stands below it. -/
def opener : Opener :=
  .ofLine (fun line => openedAt? [line]) fun h =>
    opensWithInk_of_classify (Option.bind_eq_some_iff.mp h).choose_spec.1

theorem at?_opener (lines : List Line) (i : Nat) :
    opener.at? lines i = openedAt? (lines.drop i) := by
  rw [Opener.at?, ← List.head?_drop]
  cases lines.drop i <;> rfl

theorem at?_eq_some_iff {lines : List Line} {i : Nat} : opener.at? lines i = some kind ↔
    ∃ found, lines[i]?.bind classify = some found ∧ found.1.sectionKind? = some kind := by
  rw [at?_opener, openedAt?, List.head?_drop, Option.bind_eq_some_iff]

/-- A field list starts with the first marker that opens a section, at the latest. -/
theorem atField_of_opened {lines : List Line} {i : Nat} (h : opener.at? lines i = some kind) :
    atField (lines.drop i) = true := by
  obtain ⟨⟨marker, beside⟩, hfound, hsection⟩ := at?_eq_some_iff.mp h
  rw [atField, List.head?_drop, hfound]
  cases marker <;> first | rfl | cases hsection

/-- A field for the type of a value. -/
def Marker.IsType (m : Marker) : Prop := m = .returnType ∨ m = .yieldType

instance : DecidablePred Marker.IsType := fun _ => inferInstanceAs (Decidable (_ ∨ _))

/-- No directive is on a value. -/
theorem field?_of_value {line : Line} {found : Marker × Text}
    (hkind : kind = .returns ∨ kind = .yields) (h : classify line = some found)
    (hfound : found.1.sectionKind? = some kind) : (field? line).isSome = true := by
  unfold classify at h
  split at h
  · rename_i hfield
    simp [hfield]
  · obtain ⟨⟨name, body⟩, _, rfl⟩ := Option.map_eq_some_iff.mp h
    simp only [classifyDirective] at hfound
    rcases hkind with rfl | rfl <;> split_ifs at hfound <;>
      simp [Marker.sectionKind?] at hfound

/-- The text beside a field is on the line of the field. -/
theorem newline_notMem_of_field? {line : Line} {marker : Marker} {text : Text} (hn : '\n' ∉ line)
    (h : classify line = some (marker, text)) (hfield : (field? line).isSome = true) :
    '\n' ∉ text := by
  obtain ⟨⟨name, text'⟩, hfound⟩ := Option.isSome_iff_exists.mp hfield
  simp only [classify, hfound, Option.some.injEq, Prod.mk.injEq] at h
  exact fun hmem => hn ((suffix_of_field? hfound).subset (h.2 ▸ hmem))

/-! ## Reading -/

/-- The text of a field. -/
def Field.said (f : Field) : Option Text := description? f.text (dedentBy bodyIndent f.body)

/-- What a field adds to what is said about a value. -/
def Field.on (f : Field) (doc : ReturnDoc) : ReturnDoc :=
  if f.marker.IsType then { doc with type := f.said }
  else { doc with description := some (f.said.getD []) }

/-- A field that opens a block of text opens no section on a value. -/
theorem Marker.OpensText.ne_value {m : Marker} {opened : SectionKind}
    (hkind : kind = .returns ∨ kind = .yields) (h : m.OpensText)
    (hm : m = .block opened ∨ m = .directive opened) : opened ≠ kind := by
  rcases h opened hm with hexamples | hfree
  · rcases hm with rfl | rfl
    · rw [Marker.block.inj hexamples]
      exact SectionKind.ne_of_value hkind (by simp) (by simp)
    · cases hexamples
  · refine SectionKind.ne_of_value hkind ?_ ?_ <;>
      (rintro rfl; cases hfree)

/-- A field on a value adds to what is said about it, and no other field does. -/
theorem value_addField {d d' : Document} {f : Field} (hkind : kind = .returns ∨ kind = .yields)
    (htext : f.marker.OpensText) (h : addField d f = .ok d') :
    d'.value kind = if f.marker.sectionKind? = some kind then some (f.on ((d.value kind).getD {}))
      else d.value kind := by
  have hparams : SectionKind.params ≠ kind := SectionKind.ne_of_value hkind (by simp) (by simp)
  cases hmarker : f.marker <;> simp only [addField, hmarker] at h
  case param paramKind argument =>
    obtain ⟨p, rfl, _⟩ := addParam_cases h
    simp [Marker.sectionKind?, hparams]
  case paramType raw =>
    cases h
    have hsame : (setParamType d raw f.said).value kind = d.value kind := by
      unfold setParamType
      dsimp only
      split <;> rfl
    rw [if_neg (by simpa [Marker.sectionKind?] using hparams)]
    exact hsame
  case returns | returnType | yields | yieldType =>
    cases h
    rcases hkind with rfl | rfl <;>
      simp [Marker.sectionKind?, Field.on, Marker.IsType, hmarker, setDescription, setType,
        Field.said]
  case raises exception =>
    have hraises : SectionKind.raises ≠ kind := SectionKind.ne_of_value hkind (by simp) (by simp)
    cases exception <;> simp only at h
    · split at h
      · cases h
        simp [Marker.sectionKind?, hraises]
        rfl
      · cases h
    · cases h
      simp [Marker.sectionKind?, hraises]
      rfl
  case block opened =>
    have hopened := htext.ne_value hkind (.inl hmarker)
    rw [if_neg (by simpa [Marker.sectionKind?] using hopened)]
    cases opened <;> cases h <;> simp
  case directive opened =>
    have hopened := htext.ne_value hkind (.inr hmarker)
    rw [if_neg (by simpa [Marker.sectionKind?] using hopened)]
    cases h
    simp
  case unknownField | unknownDirective => cases h

theorem value_add {p p' : Progress} {f : Field} (hkind : kind = .returns ∨ kind = .yields)
    (htext : f.marker.OpensText) (h : p.add f = .ok p') :
    p'.document.value kind =
      if f.marker.sectionKind? = some kind then some (f.on ((p.document.value kind).getD {}))
      else p.document.value kind := by
  have hfinish : p.finish.value kind = p.document.value kind := by
    unfold Progress.finish
    split <;> rfl
  obtain ⟨d, hadd, ⟨rfl, _⟩ | ⟨rfl, _⟩⟩ := add_cases h
  · exact value_addField hkind htext hadd
  · rw [← hfinish]
    exact value_addField hkind htext hadd

/-- What a docstring is read from: a head without fields, and fields below it. -/
structure ReadFrom (text : Text) (d : Document) (n : Nat) (fields : List Field) (p : Progress) :
    Prop where
  above : ∀ i < n, atField ((normalLines text).drop i) = false
  laid : Laid (normalLines text) n fields
  ends : ∀ f ∈ fields, EndsInk f.body
  added : fields.foldlM Progress.add
    ⟨(Head.cut atMarker atField (normalLines text)).document .rest, none⟩ = .ok p
  finished : d = p.finish

theorem exists_readFrom (h : parse text = .ok d) : ∃ n fields p, ReadFrom text d n fields p := by
  obtain ⟨hstop, p, hfold, hd⟩ := parse_eq_ok_iff.mp h
  rw [← Head.drop_cut atMarker atField (normalLines text)] at hfold hstop
  exact ⟨_, _, p, fun i => Head.mark_drop_of_lt_cut lawful_walk.ends, laid_outline hstop,
    fun f => endsInk_of_mem_outline, hfold, hd⟩

namespace ReadFrom

variable {n : Nat} {fields : List Field} {p : Progress}

/-- Every field on a value is one of the fields: it is not in the head, and no other field takes
its line. -/
theorem exists_field (h : ReadFrom text d n fields p) (hkind : kind = .returns ∨ kind = .yields)
    {i : Nat} (hopens : opener.at? (normalLines text) i = some kind) :
    ∃ f ∈ fields, f.first = i ∧ f.marker.sectionKind? = some kind := by
  obtain ⟨found, hfound, hsection⟩ := at?_eq_some_iff.mp hopens
  obtain ⟨line, hline, hclassify⟩ := Option.bind_eq_some_iff.mp hfound
  have hlo : n ≤ i := by
    by_contra hlt
    have hnone := h.above i (Nat.lt_of_not_le hlt)
    rw [atField_of_opened hopens] at hnone
    cases hnone
  have hink := not_blank_of_opensWithInk (opensWithInk_of_classify hclassify)
  obtain ⟨f, hf, hfirst, hlast⟩ := h.laid.covers i line hlo hline hink
  have hat := h.laid.stands f hf
  have hsame : f.first = i := by
    refine Nat.le_antisymm hfirst ?_
    by_contra hlt
    obtain ⟨below, hbody, _⟩ := hat.body.split (Nat.lt_of_not_le hlt) hlast hline
    have htaken := hat.taken line (by rw [hbody]; simp)
    have hsome := field?_of_value hkind hclassify hsection
    rw [(Field.classify_of_takes htaken).1] at hsome
    cases hsome
  refine ⟨f, hf, hsame, ?_⟩
  have hmarker := hat.marker
  rw [hsame, hfound, Option.some.injEq] at hmarker
  rw [← hsection, hmarker]

theorem value_eq (h : ReadFrom text d n fields p) : d.value kind = p.document.value kind := by
  rw [h.finished]
  unfold Progress.finish
  split <;> rfl

/-- What a document says about the value that can be set by a field on it is what the last such field
has set. -/
theorem last {α : Type} (h : ReadFrom text d n fields p)
    (hkind : kind = .returns ∨ kind = .yields) (part : Option ReturnDoc → Option α)
    {W : Field → Prop} {P : α → Prop} (hnone : part none = none)
    (hset : ∀ f ∈ fields, f.At (normalLines text) → f.marker.sectionKind? = some kind → W f →
      ∀ doc, ∃ a, part (some (f.on doc)) = some a ∧ P a)
    (hkeep : ∀ f ∈ fields, f.marker.sectionKind? = some kind → ¬W f →
      ∀ doc, part (some (f.on (doc.getD {}))) = part doc) :
    ((∃ f ∈ fields, f.marker.sectionKind? = some kind ∧ W f) ∧
        ∃ a, part (d.value kind) = some a ∧ P a) ∨
      (∀ f ∈ fields, f.marker.sectionKind? = some kind → ¬W f) ∧
        part (d.value kind) = none := by
  have hlast := foldlM_last (fun p : Progress => part (p.document.value kind))
    (W := fun f => f.marker.sectionKind? = some kind ∧ W f) (P := P)
    (fun s s' f hf hadd hwrites => by
      have hat := h.laid.stands f hf
      rw [value_add hkind (opensText_classify
        (Option.bind_eq_some_iff.mp hat.marker).choose_spec.2) hadd, if_pos hwrites.1]
      exact hset f hf hat hwrites.1 hwrites.2 _)
    (fun s s' f hf hadd hother => by
      have hat := h.laid.stands f hf
      rw [value_add hkind (opensText_classify
        (Option.bind_eq_some_iff.mp hat.marker).choose_spec.2) hadd]
      split
      · rename_i hsection
        exact hkeep f hf hsection (fun hwrites => hother ⟨hsection, hwrites⟩) _
      · rfl) h.added
  rw [h.value_eq]
  refine hlast.imp id fun ⟨hnot, hkept⟩ => ⟨fun f hf hsection hw => hnot f hf ⟨hsection, hw⟩, ?_⟩
  rw [hkept, ← hnone]
  congr 1
  unfold Document.value
  split <;> rfl

end ReadFrom

/-- A field on a value is in a section on the value. -/
theorem exists_span {i : Nat} (hkind : kind = .returns ∨ kind = .yields) (h : parse text = .ok d)
    (hopens : opener.at? (normalLines text) i = some kind) :
    ∃ s ∈ d.metadata.sections, s.kind = kind ∧ s.first ≤ i ∧ i < s.last := by
  obtain ⟨n, fields, p, hread⟩ := exists_readFrom h
  obtain ⟨f, hf, rfl, hsection⟩ := hread.exists_field hkind hopens
  have hstart : Runs (normalLines text) n n
      ⟨(Head.cut atMarker atField (normalLines text)).document .rest, none⟩ :=
    ⟨Nat.le_refl n, tiled_nil (isGap_self _ n), .nil, fun _ => rfl⟩
  obtain ⟨last, hle, hruns⟩ := hstart.foldlM hread.added hread.laid hread.ends
  have hrecorded : Recorded n ([] ++ fields) p :=
    Recorded.foldlM ⟨fun s hs => absurd hs List.not_mem_nil, by simp⟩ hread.added hread.laid.first
      hread.laid.sorted
  obtain ⟨line, hline, hclassify⟩ := Option.bind_eq_some_iff.mp (hread.laid.stands f hf).marker
  have hlt := (List.getElem?_eq_some_iff.mp hline).1
  obtain ⟨s, hs, hfirst, hlast⟩ := hruns.tiled.covers f.first line (hread.laid.first f hf)
    (hlt.trans_le hle) hline (not_blank_of_opensWithInk (opensWithInk_of_classify hclassify))
  rw [← sections_finish] at hs
  have hkept := (hrecorded.finish s hs).2.2 f hf hfirst hlast
  rw [hread.finished]
  exact ⟨s, hs, Option.some.inj (hkept.symm.trans hsection), hfirst, hlast⟩

/-- A document has a section on a value if a field on it is found. -/
theorem isSome_value_iff (hkind : kind = .returns ∨ kind = .yields) (h : parse text = .ok d) :
    (d.value kind).isSome = true ↔ ∃ i, opener.at? (normalLines text) i = some kind := by
  obtain ⟨n, fields, p, hread⟩ := exists_readFrom h
  rcases hread.last hkind id (W := fun _ => True) (P := fun _ => True) rfl
    (fun f _ _ _ _ doc => ⟨_, rfl, trivial⟩) (fun f _ _ hnot => absurd trivial hnot) with
      ⟨⟨f, hf, hsection, _⟩, doc, hdoc, _⟩ | ⟨hnone, hvalue⟩
  · have hopens : opener.at? (normalLines text) f.first = some kind :=
      at?_eq_some_iff.mpr ⟨_, (hread.laid.stands f hf).marker, hsection⟩
    simp [show d.value kind = some doc from hdoc,
      show ∃ i, opener.at? (normalLines text) i = some kind from ⟨_, hopens⟩]
  · rw [show d.value kind = none from hvalue]
    simp only [Option.isSome_none, Bool.false_eq_true, false_iff, not_exists]
    intro i hopens
    obtain ⟨f, hf, _, hsection⟩ := hread.exists_field hkind hopens
    exact hnone f hf hsection trivial

/-- A type field is written at a line. -/
def TypedAt (lines : List Line) (i : Nat) : Prop :=
  ∃ name type, (name = "rtype".toList ∨ name = "ytype".toList) ∧ IsOneLine type ∧
    lines[i]? = some (typeLine name type)

/-- The field at a line is not a type field without a type. -/
def FitsAt (lines : List Line) (i : Nat) : Prop :=
  ∃ found ∈ lines[i]?.bind classify, found.1.IsType → isBlank found.2 = false

theorem classify_typeLine {name type : Text} (hname : name = "rtype".toList ∨ name = "ytype".toList)
    (htype : IsOneLine type) : ∃ marker : Marker, marker.IsType ∧
      classify (typeLine name type) = some (marker, type) := by
  have htidy : (Item.typing name type).Tidy := by
    rcases hname with rfl | rfl <;> exact Item.tidy_typing (by decide) (by decide) htype
  have hline : typeLine name type =
      Layout.beside (Item.typing name type).lead (Item.typing name type).first :=
    (List.cons.inj (typeLine_eq htype.nonempty)).1
  rw [hline, classify_item htidy]
  rcases hname with rfl | rfl
  · exact ⟨.returnType, .inl rfl, rfl⟩
  · exact ⟨.yieldType, .inr rfl, rfl⟩

theorem isSome_description? {first : Text} (lines : List Line) (hink : isBlank first = false) :
    (description? first lines).isSome = true := by
  have hne : trim first ≠ [] := by
    intro hnil
    rw [← isBlank_trim, hnil] at hink
    exact absurd hink (by decide)
  simp only [description?, List.isEmpty_iff, hne, if_false, joinProse?]
  rw [trimBlankLines_ink_cons lines (by rw [isBlank_trim, hink])]
  rfl

/-- A document has a type for a value if some field says one and no type field is empty. -/
theorem isSome_type_of_typedAt (hkind : kind = .returns ∨ kind = .yields) (h : parse text = .ok d)
    (htyped : ∃ i, opener.at? (normalLines text) i = some kind ∧ TypedAt (normalLines text) i)
    (hfits : ∀ i, opener.at? (normalLines text) i = some kind → FitsAt (normalLines text) i) :
    ((d.value kind).bind ReturnDoc.type).isSome = true := by
  obtain ⟨n, fields, p, hread⟩ := exists_readFrom h
  rcases hread.last hkind (fun doc => doc.bind ReturnDoc.type)
    (W := fun f => f.marker.IsType) (P := fun _ => True) rfl
    (fun f hf hat hsection htype doc => by
      obtain ⟨found, hfound, hink⟩ := hfits f.first (at?_eq_some_iff.mpr ⟨_, hat.marker, hsection⟩)
      rw [hat.marker, Option.mem_some_iff] at hfound
      subst hfound
      obtain ⟨type, hsaid⟩ := Option.isSome_iff_exists.mp
        (isSome_description? (dedentBy bodyIndent f.body) (hink htype))
      refine ⟨type, ?_, trivial⟩
      rw [Option.bind_some, Field.on, if_pos htype]
      exact hsaid)
    (fun f _ _ htype doc => by
      rw [Option.bind_some, Field.on, if_neg htype]
      cases doc <;> rfl) with ⟨_, type, htype, _⟩ | ⟨hnone, _⟩
  · rw [htype]
    rfl
  · obtain ⟨i, hopens, name, type, hname, htype, hline⟩ := htyped
    obtain ⟨f, hf, rfl, hsection⟩ := hread.exists_field hkind hopens
    obtain ⟨marker, hmarker, hclassify⟩ := classify_typeLine hname htype
    have hsame : (f.marker, f.text) = (marker, type) := by
      rw [← Option.some_inj, ← (hread.laid.stands f hf).marker, hline, Option.bind_some, hclassify]
    rw [Prod.mk.injEq] at hsame
    exact (hnone f hf hsection (hsame.1 ▸ hmarker)).elim

/-- What is said about a value is read from clean lines. -/
theorem isClean_value (hkind : kind = .returns ∨ kind = .yields) (h : parse text = .ok d) :
    ∀ doc ∈ d.value kind, doc.IsClean := by
  obtain ⟨n, fields, p, hread⟩ := exists_readFrom h
  have hclean : ∀ line ∈ normalLines text, IsClean line := (isNormal_normalLines text).clean
  have hsaid : ∀ f : Field, f.At (normalLines text) → f.marker.sectionKind? = some kind →
      ∀ line ∈ splitLines (f.said.getD []), IsClean line := by
    intro f hat hsection
    obtain ⟨line, hline, hmarker⟩ := Option.bind_eq_some_iff.mp hat.marker
    have hn : '\n' ∉ f.text :=
      newline_notMem_of_field? (hclean line (List.mem_of_getElem? hline)).newline hmarker
        (field?_of_value hkind hmarker hsection)
    cases ht : f.said with
    | none => simp [splitLines_of_notMem, isClean_nil]
    | some t =>
      refine (isVerbatim_of_description? hn (fun line => isClean_of_mem_dedentBy fun l hl => ?_)
        ht).clean
      exact hclean l (List.mem_of_mem_drop (hat.body.subset hl))
  intro doc hdoc t ht
  rcases hread.last hkind (fun doc => doc.bind ReturnDoc.description)
    (W := fun f => ¬f.marker.IsType) (P := fun t => ∀ line ∈ splitLines t, IsClean line) rfl
    (fun f _ hat hsection htype doc => by
      refine ⟨f.said.getD [], ?_, hsaid f hat hsection⟩
      rw [Option.bind_some, Field.on, if_neg htype])
    (fun f _ _ htype doc => by
      rw [Option.bind_some, Field.on, if_pos (not_not.mp htype)]
      cases doc <;> rfl) with ⟨_, t', ht', hlines⟩ | ⟨_, hnone⟩
  · rw [Option.mem_def.mp hdoc, Option.bind_some, Option.mem_def.mp ht, Option.some.injEq] at ht'
    exact ht' ▸ hlines
  · rw [Option.mem_def.mp hdoc, Option.bind_some, Option.mem_def.mp ht] at hnone
    cases hnone

/-! ## Writing -/

theorem typedAt_of_shown {lines all : List Line} {place j : Nat} (hshown : Shown lines all place)
    (h : TypedAt lines j) : TypedAt all (place + j) := by
  obtain ⟨name, type, hname, htype, hline⟩ := h
  exact ⟨name, type, hname, htype, hshown.getElem? hline (by simp [typeLine])⟩

theorem fitsAt_of_shown {lines all : List Line} {place j : Nat} (hshown : Shown lines all place)
    (h : FitsAt lines j) : FitsAt all (place + j) := by
  obtain ⟨found, hfound, hfits⟩ := h
  obtain ⟨line, hline, hmarker⟩ := Option.bind_eq_some_iff.mp hfound
  have hne := ne_nil_of_opensWithInk (opensWithInk_of_classify hmarker)
  exact ⟨found, by rw [hshown.getElem? hline hne]; exact hmarker, hfits⟩

/-- A type field is a signature. -/
theorem isSignature_of_typedAt {lines : List Line} {i : Nat} (h : TypedAt lines i) :
    ∃ line, lines[i]? = some line ∧ isSignature .rest line lines[i + 1]? = true := by
  obtain ⟨name, type, hname, htype, hline⟩ := h
  refine ⟨_, hline, ?_⟩
  rcases hname with rfl | rfl <;> rfl

/-- The name of the field that describes a value. -/
def valueName (kind : SectionKind) : Text :=
  if kind = .yields then "yields".toList else "returns".toList

/-- The name of the field that gives the type of a value. -/
def valueTypeName (kind : SectionKind) : Text :=
  if kind = .yields then "ytype".toList else "rtype".toList

/-- Lines that describe a value: none, or a field of its own with clean lines shifted below it. -/
def Describes (name : Text) (described : List Line) : Prop :=
  described = [] ∨ ∃ (i : Item) (below : List Line), i.Tidy ∧ i.name = name ∧
    described = Layout.beside i.lead i.first :: indent continuationIndent below ∧
    ∀ line ∈ below, IsClean line

section Described

variable {name : Text} {described rest : List Line} (h : Describes name described)

include h

theorem Describes.isClean : ∀ line ∈ described, IsClean line := by
  rcases h with rfl | ⟨i, below, hi, -, rfl, hbelow⟩
  · simp
  · refine List.forall_mem_cons.mpr ⟨hi.isOneLine_head.isClean, fun line hl => ?_⟩
    exact isClean_of_mem_indent hbelow hl

theorem Describes.head {last : Line} (hlast : opensWithInk last = true) :
    ∃ line ∈ (described ++ [last]).head?, opensWithInk line = true := by
  rcases h with rfl | ⟨i, below, hi, -, rfl, -⟩
  · exact ⟨last, rfl, hlast⟩
  · exact ⟨_, rfl, hi.isOneLine_head.opens⟩

/-- What is opened in such lines is opened by the field. -/
theorem Describes.opened {j : Nat} {other : SectionKind} (hj : j < described.length)
    (hopens : opener.at? (described ++ rest) j = some other) :
    ∃ text, (described ++ rest)[j]?.bind classify = some (classifyField name, text) := by
  rcases h with rfl | ⟨i, below, hi, rfl, rfl, -⟩
  · cases hj
  cases j with
  | zero => exact ⟨i.first, classify_item hi⟩
  | succ j =>
    rw [List.cons_append, Opener.at?_cons_succ] at hopens
    exact (Opener.at?_indent_append (by decide) (Nat.lt_of_succ_lt_succ hj) hopens).elim

end Described

/-- The lines of a section on a value: a description, unless there is none, and the type. -/
theorem exists_sectionLines (hkind : kind = .returns ∨ kind = .yields)
    {doc : ReturnDoc} {type : Text} (hdoc : d.value kind = some doc) (htype : doc.type = some type)
    (hclean : doc.IsClean) (width : Nat) :
    ∃ described, sectionLines d kind width = described ++ [typeLine (valueTypeName kind) type] ∧
      Describes (valueName kind) described ∧ (described = [] → doc.description = none) := by
  have hlines : sectionLines d kind width =
      returnLines width (valueName kind) (valueTypeName kind) doc := by
    rcases hkind with rfl | rfl
    · have hdoc : d.returns = some doc := hdoc
      simp [sectionLines, hdoc, valueName, valueTypeName]
    · have hdoc : d.yields = some doc := hdoc
      simp [sectionLines, hdoc, valueName, valueTypeName]
  have hname : IsOneLine (valueName kind) ∧ ':' ∉ valueName kind := by
    rcases hkind with rfl | rfl <;> decide
  refine ⟨_, by rw [hlines, returnLines, htype]; rfl, ?_⟩
  split
  · have hlead : IsOneLine (':' :: valueName kind ++ [':']) :=
      Item.isOneLine_lead (i := ⟨valueName kind, [], []⟩) hname.1
    obtain ⟨more, below, hhanging, htrim, hn, hbelow⟩ := Layout.exists_hanging 0 width
      continuationIndent hlead (ReturnDoc.IsClean.getD hclean)
    have hfield : fieldLines width (':' :: valueName kind ++ [':']) doc.description =
        Layout.beside (Item.mk (valueName kind) more []).lead more ::
          indent continuationIndent below := by
      rw [fieldLines, hhanging, Layout.beside_eq_aside _ (by simp [Item.lead])]
      rfl
    rw [hfield]
    exact ⟨.inr ⟨⟨valueName kind, more, []⟩, below,
      ⟨hname.1, hname.2, htrim, hn, by simp, by simp [EndsInk]⟩, rfl, rfl, hbelow⟩, by simp⟩
  · rename_i hnone
    exact ⟨.inl rfl, fun _ => by simpa [htype] using hnone⟩

/-- Without a description, the section is the type. -/
theorem sectionLines_of_description_eq_none (hkind : kind = .returns ∨ kind = .yields)
    {doc : ReturnDoc} {type : Text} (hdoc : d.value kind = some doc) (htype : doc.type = some type)
    (hnone : doc.description = none) (width : Nat) :
    sectionLines d kind width = [typeLine (valueTypeName kind) type] := by
  rcases hkind with rfl | rfl
  · have hdoc : d.returns = some doc := hdoc
    simp [sectionLines, returnLines, hdoc, htype, hnone, valueTypeName]
  · have hdoc : d.yields = some doc := hdoc
    simp [sectionLines, returnLines, hdoc, htype, hnone, valueTypeName]

theorem sectionKind?_valueName (hkind : kind = .returns ∨ kind = .yields) :
    ¬(classifyField (valueName kind)).IsType ∧
      (classifyField (valueName kind)).sectionKind? = some kind ∧
      (classifyField (valueTypeName kind)).sectionKind? = some kind := by
  rcases hkind with rfl | rfl <;> decide

theorem isSection_sectionLines (hkind : kind = .returns ∨ kind = .yields)
    {doc : ReturnDoc} {type : Text} (hdoc : d.value kind = some doc) (htype : doc.type = some type)
    (hline : IsOneLine type) (hclean : doc.IsClean) (width : Nat) :
    opener.IsSection TypedAt FitsAt kind (sectionLines d kind width) := by
  obtain ⟨described, hlines, hdescribed, -⟩ := exists_sectionLines hkind hdoc htype hclean width
  obtain ⟨htext, hvalue, htypeName⟩ := sectionKind?_valueName hkind
  have hname : valueTypeName kind = "rtype".toList ∨ valueTypeName kind = "ytype".toList := by
    rcases hkind with rfl | rfl <;> decide
  have htyping : (Item.typing (valueTypeName kind) type).Tidy := by
    rcases hname with hname | hname <;> rw [hname] <;>
      exact Item.tidy_typing (by decide) (by decide) hline
  have htypeLine : typeLine (valueTypeName kind) type =
      Layout.beside (Item.typing (valueTypeName kind) type).lead type :=
    (List.cons.inj (typeLine_eq hline.nonempty)).1
  have hclassify : classify (typeLine (valueTypeName kind) type) =
      some (classifyField (valueTypeName kind), type) := by
    rw [htypeLine]
    exact classify_item htyping
  -- The type stands in the last line, whatever follows.
  have hlast : ∀ rest : List Line, ((described ++ [typeLine (valueTypeName kind) type]) ++ rest)[
      described.length]? = some (typeLine (valueTypeName kind) type) := by
    intro rest
    simp
  rw [hlines]
  refine ⟨?_, ?_, ?_, fun rest _ => ⟨described.length, by simp, at?_eq_some_iff.mpr ⟨_, by
    rw [hlast, Option.bind_some, hclassify], htypeName⟩, ⟨_, _, hname, hline, hlast rest⟩⟩⟩
  · refine List.forall_mem_append.mpr ⟨hdescribed.isClean, List.forall_mem_singleton.mpr ?_⟩
    rw [htypeLine]
    exact htyping.isOneLine_head.isClean
  · obtain ⟨line, hhead, hink⟩ := hdescribed.head (opensWithInk_of_classify hclassify)
    exact ⟨line, hhead, hink, id⟩
  · intro rest _ j hj other hopens
    rw [List.length_append, List.length_singleton] at hj
    obtain ⟨found, hfound, hother⟩ := at?_eq_some_iff.mp hopens
    rcases Nat.lt_succ_iff_lt_or_eq.mp hj with hlt | rfl
    · rw [List.append_assoc] at hopens
      obtain ⟨text, hsame⟩ := hdescribed.opened hlt hopens
      rw [← List.append_assoc, hfound, Option.some_inj] at hsame
      rw [hsame] at hother
      exact ⟨Option.some.inj (hother.symm.trans hvalue), found, hfound,
        fun hfits => (htext (by rwa [hsame] at hfits)).elim⟩
    · have hsame : found = (classifyField (valueTypeName kind), type) := by
        rw [← Option.some_inj, ← hfound, hlast, Option.bind_some, hclassify]
      rw [hsame] at hother
      exact ⟨Option.some.inj (hother.symm.trans htypeName), found, hfound,
        fun _ => by rw [hsame, hline.not_blank]⟩

/-- Below its first line, the section has no margin: there is the type or, if that is the first line,
what follows. -/
theorem bodyMargin?_sectionLines (hkind : kind = .returns ∨ kind = .yields)
    {doc : ReturnDoc} {type : Text} (hdoc : d.value kind = some doc) (htype : doc.type = some type)
    (hline : IsOneLine type) (hclean : doc.IsClean) (width : Nat) {rest : List Line}
    (hrest : doc.description = none → IsLevel rest) :
    (bodyMargin? (sectionLines d kind width ++ rest)).getD 0 = 0 := by
  obtain ⟨described, hlines, hdescribed, hnone⟩ :=
    exists_sectionLines hkind hdoc htype hclean width
  have hname : valueTypeName kind = "rtype".toList ∨ valueTypeName kind = "ytype".toList := by
    rcases hkind with rfl | rfl <;> decide
  obtain ⟨_, _, hclassify⟩ := classify_typeLine hname hline
  have hink := opensWithInk_of_classify hclassify
  rw [hlines]
  rcases hdescribed with rfl | ⟨i, below, _, _, rfl, _⟩
  · have hclean : IsClean (typeLine (valueTypeName kind) type) :=
      (isSection_sectionLines hkind hdoc htype hline hclean width).clean _ (by simp [hlines])
    rw [List.nil_append, List.singleton_append,
      bodyMargin?_eq_zero_iff (trim_of_ink hink hclean.trimmed)]
    rcases hrest (hnone rfl) with ⟨line, hl, hinner, hwidth⟩ | hempty
    · exact .inl ⟨line, hl, hinner, by simp [marginOf, hwidth]⟩
    · exact .inr fun line hl => by rw [hempty line hl]; rfl
  · exact bodyMargin?_of_hasNoMargin (.inl ⟨_, by simp, hink⟩)

end Docstring.Rest
