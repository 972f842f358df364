-- The sections of a written document are found again under their headers, and the entries of a
-- section by their indentation.
import Docstring.Google.Parser
import Docstring.Proofs.Document.Head
import Docstring.Proofs.Google.Written

namespace Docstring.Google

open Text

/-! ## Headers -/

theorem header?_headerLine (kind : SectionKind) :
    header? (headerLine kind) = some (.opens kind false) := by
  cases kind <;> decide

@[simp] theorem header?_nil : header? [] = none := rfl

/-- The titles of sections, supported or not. -/
def allTitles : List Text :=
  SectionKind.titles.map (fun entry => entry.1.toList) ++ unsupportedTitles.map String.toList

/-- A header is one of the titles and a colon. -/
theorem exists_title_of_isHeader {line : Line} (h : isHeader line = true) :
    ∃ title ∈ allTitles, line = title ++ [':'] := by
  obtain ⟨header, hheader⟩ := Option.isSome_iff_exists.mp h
  unfold header? at hheader
  split at hheader
  · rename_i hcolon
    obtain ⟨title, rfl⟩ := List.getLast?_eq_some_iff.mp hcolon
    rw [List.dropLast_concat] at hheader
    refine ⟨title, List.mem_append.mpr ?_, rfl⟩
    unfold headerOfTitle? at hheader
    split at hheader
    · rename_i hkind
      obtain ⟨entry, hentry, _⟩ := Option.map_eq_some_iff.mp hkind
      have htitle : entry.1.toList = title := by simpa using List.find?_some hentry
      exact .inl (List.mem_map.mpr ⟨entry, List.mem_of_find?_eq_some hentry, htitle⟩)
    · split at hheader
      · rename_i hknown
        obtain ⟨known, hmem, htitle⟩ := List.any_eq_true.mp hknown
        exact .inr (List.mem_map.mpr ⟨known, hmem, of_decide_eq_true htitle⟩)
      · cases hheader
  · cases hheader

/-- No title starts with a space, so an indented line is no header. -/
theorem header?_space_cons (line : Line) : header? (' ' :: line) = none := by
  unfold header?
  split
  · cases line with
    | nil => simp_all
    | cons c rest =>
      rw [List.dropLast_cons_of_ne_nil (by simp), headerOfTitle?]
      simp [SectionKind.ofTitle?, SectionKind.titles, unsupportedTitles]
  · rfl

theorem header?_of_mem_indent {body : List Line} {line : Line} (h : line ∈ indent bodyIndent body) :
    header? line = none := by
  rcases mem_indent h with rfl | ⟨inner, _, _, rfl⟩
  · rfl
  · exact header?_space_cons _

/-! ## Sections -/

/-- What a section says, wherever it stands. -/
def Block.shape (b : Block) : SectionKind × Bool × List Line := (b.kind, b.keywordOnly, b.body)

/-- Lines that a section takes go to its end. -/
theorem outlineFrom_append {lines : List Line} (n : Nat) (b : Block) (rest : List Line)
    (h : ∀ line ∈ lines, header? line = none ∧ b.takes line = true) :
    outlineFrom n (some b) (lines ++ rest) =
      outlineFrom (n + lines.length) (some { b with body := b.body ++ lines }) rest := by
  induction lines generalizing n b with
  | nil => simp
  | cons line lines ih =>
    obtain ⟨hheader, htakes⟩ := h line (by simp)
    have hpush := ih (n + 1) (b.push line) fun l hl => h l (by simp [hl])
    rw [List.cons_append, outlineFrom, hheader]
    simp only [htakes, if_true]
    rw [hpush]
    simp [Block.push, Nat.add_assoc, Nat.add_comm 1]

/-- A written section is taken as a whole, whatever follows. -/
theorem outlineFrom_under {kind : SectionKind} {body : List Line} (n : Nat)
    (current : Option Block) (rest : List Line) (hclean : ∀ line ∈ body, IsClean line) :
    outlineFrom n current (sectioning.under kind body ++ rest) =
      let found := outlineFrom (n + 1 + (indent bodyIndent body).length)
        (some ⟨kind, false, n, indent bodyIndent body⟩) rest
      (current.toList ++ found.1, found.2) := by
  have hlines : ∀ line ∈ indent bodyIndent body,
      header? line = none ∧ (Block.mk kind false n []).takes line = true := by
    intro line hl
    refine ⟨header?_of_mem_indent hl, ?_⟩
    rcases deep_of_mem_indent hclean hl with hb | hd
    · simp [Block.takes, hb]
    · have hpos : 0 < indentWidth line := lt_of_lt_of_le (by decide) hd
      simp [Block.takes, hpos]
  change outlineFrom n current (headerLine kind :: (indent bodyIndent body ++ rest)) = _
  cases current <;>
    simp only [outlineFrom, header?_headerLine,
      outlineFrom_append (n + 1) ⟨kind, false, n, []⟩ rest hlines, List.nil_append]

/-- Sections below an open one: the open one is closed, and the others follow in their order. -/
theorem outlineFrom_sections (sections : List (SectionKind × List Line)) (n : Nat) (b : Block)
    (hclean : ∀ s ∈ sections, ∀ line ∈ s.2, IsClean line) (hends : ∀ s ∈ sections, EndsInk s.2) :
    let found := outlineFrom n (some b)
      (sections.flatMap fun s => [] :: sectioning.under s.1 s.2)
    found.1.map (fun b => b.close.shape) =
        b.close.shape :: sections.map (fun s => (s.1, false, indent bodyIndent s.2)) ∧
      found.2 = none := by
  induction sections generalizing n b with
  | nil => exact ⟨rfl, rfl⟩
  | cons s sections ih =>
    have hbody : ∀ line ∈ s.2, IsClean line := hclean s (by simp)
    have hblank : (b.push []).close = b.close := by
      simp [Block.push, Block.close]
    have hclose : (Block.mk s.1 false (n + 1) (indent bodyIndent s.2)).close.shape =
        (s.1, false, indent bodyIndent s.2) := by
      simp [Block.close, Block.shape,
        dropBlankEnd_of_endsInk (endsInk_indent bodyIndent (hends s (by simp)))]
    obtain ⟨hshapes, hstop⟩ := ih (n + 1 + 1 + (indent bodyIndent s.2).length)
      ⟨s.1, false, n + 1, indent bodyIndent s.2⟩
      (fun x hx => hclean x (by simp [hx])) (fun x hx => hends x (by simp [hx]))
    have htakes : b.takes [] = true := by simp [Block.takes, isBlank]
    rw [List.flatMap_cons, List.cons_append, outlineFrom, header?_nil]
    simp only [htakes, if_true, outlineFrom_under (n + 1) (some (b.push [])) _ hbody]
    refine ⟨?_, hstop⟩
    rw [List.map_append, hshapes, hclose]
    simp [hblank]

/-- The sections of a written document, found again. -/
theorem outline_separate {sections : List (SectionKind × List Line)} (n : Nat)
    (hclean : ∀ s ∈ sections, ∀ line ∈ s.2, IsClean line) (hends : ∀ s ∈ sections, EndsInk s.2) :
    let found := outline n (Layout.separate (sections.map fun s => sectioning.under s.1 s.2))
    found.1.map Block.shape = sections.map (fun s => (s.1, false, indent bodyIndent s.2)) ∧
      found.2 = none := by
  cases sections with
  | nil => exact ⟨rfl, rfl⟩
  | cons s sections =>
    have hne : ∀ block ∈ sections.map (fun s => sectioning.under s.1 s.2), block ≠ [] := by
      intro block hblock
      obtain ⟨x, _, rfl⟩ := List.mem_map.mp hblock
      simp [sectioning]
    have hclose : (Block.mk s.1 false n (indent bodyIndent s.2)).close.shape =
        (s.1, false, indent bodyIndent s.2) := by
      simp [Block.close, Block.shape,
        dropBlankEnd_of_endsInk (endsInk_indent bodyIndent (hends s (by simp)))]
    obtain ⟨hshapes, hstop⟩ := outlineFrom_sections sections
      (n + 1 + (indent bodyIndent s.2).length) ⟨s.1, false, n, indent bodyIndent s.2⟩
      (fun x hx => hclean x (by simp [hx])) (fun x hx => hends x (by simp [hx]))
    rw [List.map_cons, Layout.separate_eq_append _ (by simp [sectioning]) hne, List.flatMap_map]
    simp only [outline, outlineFrom_under n none _ (hclean s (by simp)), List.map_map]
    exact ⟨by simpa [hclose, Function.comp_def] using hshapes, hstop⟩

/-! ## Entries -/

/-- Blank and deeper lines belong to the entry above. -/
theorem foldlM_addLine_deep {lines : List Line} (entries : List Entry) (e : Entry)
    (h : ∀ line ∈ lines, isBlank line = true ∨ 0 < indentWidth line) :
    lines.foldlM addLine (entries ++ [e]) =
      .ok (entries ++ [{ e with continuation := e.continuation ++ lines }]) := by
  induction lines generalizing e with
  | nil => simp [pure, Except.pure]
  | cons line lines ih =>
    have hdeep : ¬(!isBlank line && decide (indentWidth line = 0)) = true := by
      rcases h line (by simp) with hb | hd
      · simp [hb]
      · simp only [Bool.and_eq_true, decide_eq_true_eq, not_and]
        omega
    have hline : addLine (entries ++ [e]) line =
        .ok (entries ++ [{ e with continuation := e.continuation ++ [line] }]) := by
      rw [addLine, if_neg hdeep]
      simp
    have hrest := ih { e with continuation := e.continuation ++ [line] }
      fun l hl => h l (by simp [hl])
    rw [List.foldlM_cons, hline]
    refine hrest.trans ?_
    simp

theorem foldlM_addLine_entries {α : Type} {items : List α} (head : α → Line)
    (below : α → List Line) (entries : List Entry)
    (hhead : ∀ item ∈ items, opensWithInk (head item) = true)
    (hbelow : ∀ item ∈ items, ∀ line ∈ below item, isBlank line = true ∨ 0 < indentWidth line) :
    (items.flatMap fun item => head item :: below item).foldlM addLine entries =
      .ok (entries ++ items.map fun item => ⟨head item, below item⟩) := by
  induction items generalizing entries with
  | nil => simp [pure, Except.pure]
  | cons item items ih =>
    have hink := hhead item (by simp)
    have hopens : addLine entries (head item) = .ok (entries ++ [⟨head item, []⟩]) := by
      simp [addLine, not_blank_of_opensWithInk hink, indentWidth_of_opensWithInk hink]
    have hrest := ih (entries ++ [⟨head item, below item⟩])
      (fun x hx => hhead x (by simp [hx])) (fun x hx => hbelow x (by simp [hx]))
    rw [List.flatMap_cons, List.foldlM_append, List.foldlM_cons, hopens]
    change ((below item).foldlM addLine (entries ++ [⟨head item, []⟩]) >>= _) = _
    rw [foldlM_addLine_deep entries _ (hbelow item (by simp))]
    refine hrest.trans ?_
    simp

/-- The entry of a lead and a description. -/
def entryOf (lead text : Text) : Entry :=
  ⟨Layout.beside lead (firstLine text), indent bodyIndent (laterLines text)⟩

/-- Entries that start with ink and go on with deeper lines are found again. -/
theorem entries_flatMap {α : Type} {items : List α} (lead text : α → Text)
    (hlead : ∀ item ∈ items, IsOneLine (lead item))
    (htext : ∀ item ∈ items, IsDescription (text item)) :
    entries (items.flatMap fun item => Layout.wholeEntry (lead item) bodyIndent (text item)) =
      .ok (items.map fun item => entryOf (lead item) (text item)) := by
  have hfold := foldlM_addLine_entries
    (fun item => Layout.beside (lead item) (firstLine (text item)))
    (fun item => indent bodyIndent (laterLines (text item))) []
    (fun item hi => (Layout.isOneLine_beside (hlead item hi) (htext item hi)).opens)
    (by
      intro item hi line hl
      rcases deep_of_mem_indent (htext item hi).clean_laterLines hl with hb | hd
      · exact Or.inl hb
      · exact Or.inr (lt_of_lt_of_le (by decide) hd))
  unfold entries Layout.wholeEntry
  rw [hfold]
  simp only [Except.map, List.nil_append, List.map_map, Except.ok.injEq]
  apply List.map_congr_left
  intro item hi
  have hends := endsInk_indent bodyIndent (htext item hi).endsInk_laterLines
  simp [dropBlankEnd_of_endsInk hends, entryOf]

end Docstring.Google
