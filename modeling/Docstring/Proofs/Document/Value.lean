-- What a docstring says about the value: which items of a run write it last, in which section a line
-- stands, and what the lines look like that an entry is written as.
import Docstring.Document.Section
import Docstring.Fix.ReturnType
import Docstring.Proofs.Document.Broken
import Docstring.Proofs.Document.Spliced
import Docstring.Proofs.Document.Tiled
import Docstring.Proofs.Text.Verbatim
import Mathlib.Data.List.Pairwise

namespace Docstring

open Text

/-! ## Lines -/

theorem Text.trimBlankLines_ink_cons {line : Line} (rest : List Line)
    (hink : isBlank line = false) :
    trimBlankLines (line :: rest) = line :: dropBlankEnd rest := by
  have hstart : dropBlankStart (line :: rest) = line :: rest :=
    List.dropWhile_cons_of_neg (by simp [hink])
  rw [trimBlankLines, hstart]
  exact dropBlankEnd_append_ink [] rest hink

/-- The lines of a section start with the line below its head. -/
theorem StandsAt.eq_cons {lines body : List Line} {line : Line} {n : Nat}
    (h : StandsAt lines n body) (hne : body ≠ []) (hline : lines[n]? = some line) :
    ∃ rest, body = line :: rest := by
  obtain ⟨first, rest, rfl⟩ := List.exists_cons_of_ne_nil hne
  obtain ⟨below, hbelow⟩ := h
  rw [← List.head?_drop, ← hbelow, List.cons_append, List.head?_cons] at hline
  exact ⟨rest, by rw [Option.some.inj hline]⟩

/-! ## Documents -/

/-- The section on the returned or, for its own kind, the yielded value. -/
def Document.value (d : Document) (kind : SectionKind) : Option ReturnDoc :=
  if kind = .yields then d.yields else d.returns

/-- A section on something else is of another kind than one on a value. -/
theorem SectionKind.ne_of_value {kind other : SectionKind}
    (hkind : kind = .returns ∨ kind = .yields) (hreturns : other ≠ .returns)
    (hyields : other ≠ .yields) : other ≠ kind := by
  rintro rfl
  exact hkind.elim hreturns hyields

@[simp] theorem Document.value_returns (d : Document) : d.value .returns = d.returns := rfl

@[simp] theorem Document.value_yields (d : Document) : d.value .yields = d.yields := rfl

section Changes

variable (d : Document) (kind : SectionKind)

@[simp] theorem Document.value_recordSection (span : SectionSpan) :
    (d.recordSection span).value kind = d.value kind := rfl

@[simp] theorem Document.value_warnAll (ws : List Diagnostic) :
    (d.warnAll ws).value kind = d.value kind := rfl

@[simp] theorem Document.value_addParameter (p : Parameter) :
    (d.addParameter p).value kind = d.value kind := by
  unfold addParameter
  split
  rename_i next isNew hpush
  obtain rfl : (d.pushParameter p).1 = next := congrArg Prod.fst hpush
  split <;> rfl

@[simp] theorem Document.value_addExample (text : Option Text) :
    (d.addExample text).value kind = d.value kind := rfl

@[simp] theorem Document.value_addFreeText? (freeText : SectionKind) (text : Option Text) :
    (d.addFreeText? freeText text).value kind = d.value kind := by
  cases text with
  | none => rfl
  | some text => cases freeText <;> rfl

end Changes

theorem documentedType_eq (d : Document) (kind : SectionKind) :
    Fix.documentedType d kind = (d.value kind).bind ReturnDoc.type := by
  have hvalue : Fix.documentedType d kind = ((d.value kind).getD {}).type := rfl
  rw [hvalue]
  cases d.value kind <;> rfl

/-- The description of a value has clean lines. -/
def ReturnDoc.IsClean (doc : ReturnDoc) : Prop :=
  ∀ t ∈ doc.description, ∀ line ∈ splitLines t, Text.IsClean line

/-! ## Runs -/

/-- What a run leaves is what the last item gave that writes it, or what was there before. -/
theorem foldlM_last {State Item Error α : Type} {step : State → Item → Except Error State}
    (value : State → Option α) {W : Item → Prop} {P : α → Prop} {items : List Item}
    {s s' : State}
    (hset : ∀ s s', ∀ x ∈ items, step s x = .ok s' → W x → ∃ a, value s' = some a ∧ P a)
    (hkeep : ∀ s s', ∀ x ∈ items, step s x = .ok s' → ¬W x → value s' = value s)
    (h : items.foldlM step s = .ok s') :
    ((∃ x ∈ items, W x) ∧ ∃ a, value s' = some a ∧ P a) ∨
      (∀ x ∈ items, ¬W x) ∧ value s' = value s := by
  induction items using List.reverseRecOn generalizing s' with
  | nil =>
    cases h
    exact .inr ⟨by simp, rfl⟩
  | append_singleton init last ih =>
    obtain ⟨before, after, hinit, hlast, hdone⟩ := exists_of_foldlM h
    cases hdone
    have hmem : last ∈ init ++ [last] := by simp
    by_cases hW : W last
    · exact .inl ⟨⟨last, hmem, hW⟩, hset _ _ last hmem hlast hW⟩
    · have hsame := hkeep _ _ last hmem hlast hW
      have hrest := ih (fun s s' x hx => hset s s' x (by simp [hx]))
        (fun s s' x hx => hkeep s s' x (by simp [hx])) hinit
      rw [hsame]
      refine hrest.imp (fun ⟨⟨x, hx, hw⟩, hvalue⟩ => ⟨⟨x, by simp [hx], hw⟩, hvalue⟩)
        fun ⟨hnone, hvalue⟩ => ⟨fun x hx => ?_, hvalue⟩
      rcases List.mem_append.mp hx with hx | hx
      · exact hnone x hx
      · rw [List.mem_singleton.mp hx]
        exact hW

/-- Sections that are added one after the other, of which each one of a kind takes the place of those
above it: the document says what one of them says, or there is none. -/
theorem value_of_sections {Item Error : Type} {add : Document → Item → Except Error Document}
    {items : List Item} {d d' : Document} {kind : SectionKind} (span : Item → SectionSpan)
    (Says : Item → ReturnDoc → Prop)
    (hset : ∀ d d' b, add d b = .ok d' → (span b).kind = kind →
      ∃ doc, d'.value kind = some doc ∧ Says b doc)
    (hkeep : ∀ d d' b, add d b = .ok d' → (span b).kind ≠ kind → d'.value kind = d.value kind)
    (hsections : d'.metadata.sections = items.map span) (hstart : d.value kind = none)
    (h : items.foldlM add d = .ok d') :
    (∃ b ∈ items, (span b).kind = kind ∧ span b ∈ d'.metadata.sections ∧
        ∃ doc, d'.value kind = some doc ∧ Says b doc) ∨
      (∀ s ∈ d'.metadata.sections, s.kind ≠ kind) ∧ d'.value kind = none := by
  have hlast := foldlM_last (fun d : Document => d.value kind) (W := fun b => (span b).kind = kind)
    (P := fun doc => ∃ b ∈ items, (span b).kind = kind ∧ Says b doc)
    (fun d d' b hb hadd hsame => by
      obtain ⟨doc, hdoc, hsays⟩ := hset d d' b hadd hsame
      exact ⟨doc, hdoc, b, hb, hsame, hsays⟩)
    (fun d d' b _ hadd hne => hkeep d d' b hadd hne) h
  rcases hlast with ⟨-, doc, hdoc, b, hb, hsame, hsays⟩ | ⟨hnone, hkept⟩
  · exact .inl ⟨b, hb, hsame, hsections ▸ List.mem_map_of_mem hb, doc, hdoc, hsays⟩
  · refine .inr ⟨fun s hs => ?_, hkept.trans hstart⟩
    rw [hsections] at hs
    obtain ⟨b, hb, rfl⟩ := List.mem_map.mp hs
    exact hnone b hb

/-! ## Sections -/

/-- Titles start with ink. -/
theorem SectionKind.opensWithInk_of_ofTitle? {title : Text} {kind : SectionKind}
    (h : ofTitle? title = some kind) : opensWithInk title = true := by
  obtain ⟨entry, hentry, _⟩ := Option.map_eq_some_iff.mp h
  have htable : ∀ entry ∈ titles, opensWithInk entry.1.toList = true := by decide
  have htitle : entry.1.toList = title := by simpa using List.find?_some hentry
  exact htitle ▸ htable entry (List.mem_of_find?_eq_some hentry)

section Tiles

variable {opens : List Line → Option SectionKind} {lines : List Line} {lo hi : Nat}
  {spans : List SectionSpan}

/-- Of two sections, one ends where the other starts or above that. -/
theorem Tiled.apart_of_ne (h : Tiled opens lines lo hi spans) {s t : SectionSpan} (hs : s ∈ spans)
    (ht : t ∈ spans) (hne : s ≠ t) : s.last ≤ t.first ∨ t.last ≤ s.first := by
  have hsymm : Std.Symm fun a b : SectionSpan => a.last ≤ b.first ∨ b.last ≤ a.first :=
    ⟨fun _ _ => Or.symm⟩
  have hapart : spans.Pairwise fun a b => a.last ≤ b.first ∨ b.last ≤ a.first :=
    h.apart.imp Or.inl
  exact hapart.forall hs ht hne

/-- A line of ink belongs to the section above it, if no other one starts between them. -/
theorem Tiled.lt_last (h : Tiled opens lines lo hi spans) {s : SectionSpan} (hs : s ∈ spans)
    {line : Line} {k : Nat} (hhi : s.first + k < hi) (hline : lines[s.first + k]? = some line)
    (hink : isBlank line = false)
    (hnone : ∀ n, 0 < n → n ≤ k → opens (lines.drop (s.first + n)) = none) :
    s.first + k < s.last := by
  obtain ⟨t, ht, hfirst, hlast⟩ :=
    h.covers (s.first + k) line ((h.first s hs).trans (Nat.le_add_right _ _)) hhi hline hink
  have hopened := h.opened t ht
  have habove : t.first ≤ s.first := by
    by_contra hgt
    obtain ⟨n, hn⟩ := Nat.exists_eq_add_of_lt (Nat.lt_of_not_le hgt)
    have hnext := hnone (n + 1) (Nat.succ_pos n) (by omega)
    rw [← Nat.add_assoc, ← hn, hopened] at hnext
    cases hnext
  by_cases hsame : s = t
  · exact hsame ▸ hlast
  · rcases h.apart_of_ne hs ht hsame with hle | hle
    · have hpos := h.nonempty s hs
      omega
    · omega

/-- A line of ink right below a section opens the next one. -/
theorem Tiled.opens_last (h : Tiled opens lines lo hi spans) {s : SectionSpan} (hs : s ∈ spans)
    {line : Line} (hhi : s.last < hi) (hline : lines[s.last]? = some line)
    (hink : isBlank line = false) : ∃ kind, opens (lines.drop s.last) = some kind := by
  have hs' := h.nonempty s hs
  obtain ⟨t, ht, hfirst, hlast⟩ :=
    h.covers s.last line ((h.first s hs).trans hs'.le) hhi hline hink
  have hsame : t.first = s.last := by
    obtain ⟨i, hi, rfl⟩ := List.getElem_of_mem hs
    obtain ⟨j, hj, rfl⟩ := List.getElem_of_mem ht
    have hapart := List.pairwise_iff_getElem.mp h.apart
    rcases Nat.lt_trichotomy i j with hlt | rfl | hgt
    · exact Nat.le_antisymm hfirst (hapart i j hi hj hlt)
    · exact absurd hlast (Nat.lt_irrefl _)
    · have hle := hapart j i hj hi hgt
      omega
  exact ⟨t.kind, hsame ▸ h.opened t ht⟩

end Tiles

/-! ## Written sections -/

/-- The lines of a section on a value that says a type: it is said somewhere in them, and no section
is opened in them that does not fit, whatever stands below that completes no title. -/
structure Opener.IsSection (o : Opener) (typed fitting : List Line → Nat → Prop) (kind : SectionKind)
    (lines : List Line) : Prop where
  clean : ∀ line ∈ lines, IsClean line
  head : ∃ line ∈ lines.head?, opensWithInk line = true ∧ ¬o.completes line
  opened : ∀ below, (∀ line ∈ below.head?, ¬o.completes line) → ∀ j < lines.length, ∀ other,
    o.at? (lines ++ below) j = some other → other = kind ∧ fitting (lines ++ below) j
  said : ∀ below, (∀ line ∈ below.head?, ¬o.completes line) → ∃ j < lines.length,
    o.at? (lines ++ below) j = some kind ∧ typed (lines ++ below) j

/-- Shifted lines do not start with ink. -/
theorem not_opensWithInk_of_mem_indent {lines : List Line} {line : Line} {columns : Nat}
    (hcolumns : 0 < columns) (h : line ∈ indent columns lines) : ¬opensWithInk line = true := by
  obtain ⟨n, rfl⟩ := Nat.exists_eq_succ_of_ne_zero hcolumns.ne'
  rcases mem_indent h with rfl | ⟨inner, _, _, rfl⟩
  · decide
  · simp [spaces, List.replicate_succ, opensWithInk]

/-- No section is opened in shifted lines. -/
theorem Opener.at?_indent_append {o : Opener} {lines below : List Line} {columns j : Nat}
    {kind : SectionKind} (hcolumns : 0 < columns) (hj : j < (indent columns lines).length)
    (h : o.at? (indent columns lines ++ below) j = some kind) : False := by
  obtain ⟨line, hline, hink, _⟩ := at?_eq_some h
  rw [List.getElem?_append_left hj] at hline
  exact not_opensWithInk_of_mem_indent hcolumns (List.mem_of_getElem? hline) hink

theorem Opener.at?_cons_succ (o : Opener) (line : Line) (lines : List Line) (i : Nat) :
    o.at? (line :: lines) (i + 1) = o.at? lines i := by
  simp [at?]

theorem ReturnDoc.IsClean.getD {doc : ReturnDoc} (h : doc.IsClean) :
    ∀ line ∈ splitLines (doc.description.getD []), Text.IsClean line := by
  cases hdescription : doc.description with
  | none => simp [splitLines_of_notMem, isClean_nil]
  | some t => exact h t hdescription

/-! ## Entries -/

namespace Layout

variable (column width continuation : Nat)

theorem isClean_of_mem_entryPieces (lead : Text) {t : Text} (h : ∀ line ∈ splitLines t, IsClean line) :
    ∀ piece ∈ entryPieces column lead t width continuation, IsClean piece := by
  have hlater := forall₂_wrapProseLine (width - continuation)
    fun line hl => h line (by rw [splitLines_eq_cons]; exact List.mem_cons_of_mem _ hl)
  intro piece hpiece
  rw [entryPieces, List.mem_append] at hpiece
  rcases hpiece with hpiece | hpiece
  · unfold firstPieces at hpiece
    split at hpiece
    · rw [List.mem_singleton.mp hpiece]
      exact isClean_nil
    · rename_i hne
      exact (pieces_wrapLine _ _ ⟨by simpa using hne, trim_trim _,
        newline_notMem_trim_firstLine t⟩).clean piece hpiece
  · rw [List.flatMap_def] at hpiece
    exact isClean_of_mem_pieces hlater hpiece

/-- An entry is written as its lead, with more text beside it, and clean lines below it. -/
theorem exists_hanging {lead t : Text} (hlead : IsOneLine lead)
    (h : ∀ line ∈ splitLines t, IsClean line) :
    ∃ more below, hanging column lead t width continuation =
        (spaces column ++ (lead ++ aside more)) :: indent continuation below ∧
      trim more = more ∧ '\n' ∉ more ∧ ∀ line ∈ below, IsClean line := by
  obtain ⟨piece, others, hpieces, htrim, hn, _⟩ :=
    entryPieces_keeps column lead t width continuation
  have hclean := isClean_of_mem_entryPieces column width continuation lead h
  rw [hpieces] at hclean
  refine ⟨piece, others, ?_, htrim, hn, fun line hl => hclean line (by simp [hl])⟩
  rw [hanging_eq_pieces column lead t width continuation hpieces,
    beside_eq_aside piece hlead.nonempty]

theorem isClean_append_aside {lead more : Text} (hlead : IsOneLine lead) (htrim : trim more = more)
    (hn : '\n' ∉ more) : IsClean (lead ++ aside more) := by
  by_cases hmore : more = []
  · simpa [hmore, aside] using hlead.isClean
  · have hline : IsOneLine (lead ++ [' '] ++ more) :=
      IsOneLine.append (opensWithInk_append _ hlead.opens) (by simp [hlead.newline])
        ⟨hmore, htrim, hn⟩
    simpa [aside, hmore] using hline.isClean

end Layout

end Docstring
