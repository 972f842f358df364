-- The sections of a written document are found again by their underlined titles, and the entries
-- of a section by the lines at the first column.
import Docstring.Proofs.Document.Head
import Docstring.Proofs.Numpy.Written

namespace Docstring.Numpy

open Text

/-! ## Headers -/

/-- The dashes below a title. -/
def dashes (kind : SectionKind) : Line := List.replicate (title kind).length '-'

theorem header?_title (kind : SectionKind) :
    header? (title kind) (dashes kind) = some (.opens kind) := by
  cases kind <;> decide

/-! ## Sections -/

/-- What a section says, wherever it stands. -/
def Block.shape (b : Block) : SectionKind × List Line := (b.kind, trimBlankLines b.body)

/-- A line that makes no header with the next one goes to the open section. -/
theorem outlineFrom_cons {line : Line} {rest : List Line} (n : Nat) (b : Block)
    (h : ∀ next ∈ rest.head?, header? line next = none) :
    outlineFrom n (some b) (line :: rest) = outlineFrom (n + 1) (some (b.push line)) rest := by
  cases rest with
  | nil => rfl
  | cons next rest => simp [outlineFrom, h next rfl]

/-- Lines without a header go to the open section, as long as an empty line follows or none. -/
theorem outlineFrom_append {lines rest : List Line} (n : Nat) (b : Block)
    (h : HasNoHeader lines) (hrest : rest.head?.getD [] = []) :
    outlineFrom n (some b) (lines ++ rest) =
      outlineFrom (n + lines.length) (some { b with body := b.body ++ lines }) rest := by
  induction lines generalizing n b with
  | nil => simp
  | cons line lines ih =>
    have hnext : ∀ next ∈ (lines ++ rest).head?, header? line next = none := by
      intro next hn
      cases lines with
      | nil =>
        rw [List.nil_append, Option.mem_def] at hn
        rw [hn] at hrest
        have hempty : next = [] := hrest
        rw [hempty, header?_empty]
      | cons second lines =>
        have hsecond : next = second := by simpa [eq_comm] using hn
        rw [hsecond]
        exact (List.isChain_cons_cons.mp h).1
    have hpush := ih (n + 1) (b.push line) (List.isChain_of_isChain_cons h)
    rw [List.cons_append, outlineFrom_cons n b hnext, hpush]
    simp [Block.push, Nat.add_assoc, Nat.add_comm 1]

/-- A written section is taken as a whole. -/
theorem outlineFrom_under {kind : SectionKind} {body rest : List Line} (n : Nat)
    (current : Option Block) (hbody : HasNoHeader body) (hrest : rest.head?.getD [] = []) :
    outlineFrom n current (sectioning.under kind body ++ rest) =
      let found := outlineFrom (n + 2 + body.length) (some ⟨kind, n, body⟩) rest
      (current.toList ++ found.1, found.2) := by
  have hlines := outlineFrom_append (n + 2) ⟨kind, n, []⟩ hbody hrest
  change outlineFrom n current (title kind :: dashes kind :: (body ++ rest)) = _
  simp only [outlineFrom, header?_title, hlines, List.nil_append]

/-- Sections below an open one: the open one is closed, and the others follow in their order. -/
theorem outlineFrom_sections (sections : List (SectionKind × List Line)) (n : Nat) (b : Block)
    (h : ∀ s ∈ sections, IsBody s.2) :
    let found := outlineFrom n (some b)
      (sections.flatMap fun s => [] :: sectioning.under s.1 s.2)
    found.1.map Block.shape = b.shape :: sections ∧ found.2 = none := by
  induction sections generalizing n b with
  | nil => exact ⟨rfl, rfl⟩
  | cons s sections ih =>
    have hbody : IsBody s.2 := h s (by simp)
    have hblank : (b.push []).shape = b.shape := by
      simp [Block.shape, Block.push]
    have hshape : (Block.mk s.1 (n + 1) s.2).shape = s := by
      rw [Block.shape, hbody.kept]
    obtain ⟨hshapes, hstop⟩ := ih (n + 1 + 2 + s.2.length) ⟨s.1, n + 1, s.2⟩
      fun x hx => h x (by simp [hx])
    have hrest :
        ((sections.flatMap fun s => [] :: sectioning.under s.1 s.2).head?).getD [] = [] := by
      cases sections <;> rfl
    have hgap : outlineFrom n (some b) ([] :: (sectioning.under s.1 s.2 ++
        sections.flatMap fun s => [] :: sectioning.under s.1 s.2)) =
        outlineFrom (n + 1) (some (b.push [])) (sectioning.under s.1 s.2 ++
          sections.flatMap fun s => [] :: sectioning.under s.1 s.2) :=
      outlineFrom_cons n b fun next _ => header?_below_empty next
    rw [List.flatMap_cons, List.cons_append, hgap,
      outlineFrom_under (n + 1) (some (b.push [])) hbody.headerless hrest]
    refine ⟨?_, hstop⟩
    rw [List.map_append, hshapes, hshape]
    simp [hblank]

/-- The sections of a written document, found again. -/
theorem outline_separate {sections : List (SectionKind × List Line)} (n : Nat)
    (h : ∀ s ∈ sections, IsBody s.2) :
    let found := outline n (Layout.separate (sections.map fun s => sectioning.under s.1 s.2))
    found.1.map Block.shape = sections ∧ found.2 = none := by
  cases sections with
  | nil => exact ⟨rfl, rfl⟩
  | cons s sections =>
    have hne : ∀ block ∈ sections.map (fun s => sectioning.under s.1 s.2), block ≠ [] := by
      intro block hblock
      obtain ⟨x, _, rfl⟩ := List.mem_map.mp hblock
      simp [sectioning, headerLines]
    have hbody : IsBody s.2 := h s (by simp)
    have hshape : (Block.mk s.1 n s.2).shape = s := by
      rw [Block.shape, hbody.kept]
    have hrest :
        ((sections.flatMap fun s => [] :: sectioning.under s.1 s.2).head?).getD [] = [] := by
      cases sections <;> rfl
    obtain ⟨hshapes, hstop⟩ := outlineFrom_sections sections
      (n + 2 + s.2.length) ⟨s.1, n, s.2⟩ fun x hx => h x (by simp [hx])
    rw [List.map_cons, Layout.separate_eq_append _ (by simp [sectioning, headerLines]) hne,
      List.flatMap_map]
    simp only [outline, outlineFrom_under n none hbody.headerless hrest]
    rw [hshape] at hshapes
    exact ⟨hshapes, hstop⟩

/-! ## Entries -/

/-- Blank and deeper lines belong to the entry above. -/
theorem foldl_addLine_deep {lines : List Line} (entries : List Entry) (e : Entry)
    (h : ∀ line ∈ lines, isBlank line = true ∨ 0 < indentWidth line) :
    lines.foldl addLine (entries ++ [e]) = entries ++ [{ e with body := e.body ++ lines }] := by
  induction lines generalizing e with
  | nil => simp
  | cons line lines ih =>
    have hdeep : ¬(!isBlank line && decide (indentWidth line = 0)) = true := by
      rcases h line (by simp) with hb | hd
      · simp [hb]
      · simp only [Bool.and_eq_true, decide_eq_true_eq, not_and]
        omega
    have hline : addLine (entries ++ [e]) line =
        entries ++ [{ e with body := e.body ++ [line] }] := by
      rw [addLine, if_neg hdeep]
      simp
    rw [List.foldl_cons, hline, ih _ fun l hl => h l (by simp [hl])]
    simp

theorem deep_of_mem_wholeDescription {t : Text} {line : Line} (ht : IsDescription t)
    (h : line ∈ wholeDescription t) : isBlank line = true ∨ 0 < indentWidth line := by
  unfold wholeDescription at h
  split at h
  · simp at h
  · rcases deep_of_mem_indent ht.clean h with hb | hd
    · exact Or.inl hb
    · exact Or.inr (lt_of_lt_of_le (by decide) hd)

/-- Lines at the first column with descriptions below them are found again. -/
theorem entries_flatMap {α : Type} {items : List α} (head : α → Line) (text : α → Text)
    (hhead : ∀ item ∈ items, opensWithInk (head item) = true)
    (htext : ∀ item ∈ items, IsDescription (text item)) :
    entries (items.flatMap fun item => head item :: wholeDescription (text item)) =
      items.map fun item => ⟨some (head item), wholeDescription (text item)⟩ := by
  have hfold : ∀ found : List Entry,
      (items.flatMap fun item => head item :: wholeDescription (text item)).foldl addLine found =
        found ++ items.map fun item => ⟨some (head item), wholeDescription (text item)⟩ := by
    induction items with
    | nil => simp
    | cons item items ih =>
      intro found
      have hink := hhead item (by simp)
      have hopens : addLine found (head item) = found ++ [⟨some (head item), []⟩] := by
        simp [addLine, not_blank_of_opensWithInk hink, indentWidth_of_opensWithInk hink]
      have hdeep := foldl_addLine_deep found ⟨some (head item), []⟩
        fun line hl => deep_of_mem_wholeDescription (htext item (by simp)) hl
      rw [List.flatMap_cons, List.foldl_append, List.foldl_cons, hopens, hdeep,
        ih (fun x hx => hhead x (by simp [hx])) (fun x hx => htext x (by simp [hx]))]
      simp
  exact (hfold []).trans (List.nil_append _)

/-- A description without a line above it is an entry without a head. -/
theorem entries_description {t : Text} (ht : IsTextBlock t) :
    entries (wholeDescription t) = [⟨none, wholeDescription t⟩] := by
  obtain ⟨first, rest, hs, hfirst⟩ := ht.exists_cons
  have hwhole : wholeDescription t =
      (spaces descriptionIndent ++ first) :: indent descriptionIndent rest := by
    rw [wholeDescription, if_neg (by simp [ht.not_blank]), hs,
      indent_cons_of_ne _ _ (ne_nil_of_opensWithInk hfirst)]
  have hdeep : ∀ line ∈ wholeDescription t, isBlank line = true ∨ 0 < indentWidth line :=
    fun line hl => deep_of_mem_wholeDescription (Or.inr ht) hl
  have hwidth : 0 < indentWidth (spaces descriptionIndent ++ first) := by
    have hclean : IsClean first := ht.clean first (by simp [hs])
    rw [indentWidth_spaces_append _ hclean.tab]
    exact Nat.add_pos_left (by decide) _
  have hopens : addLine [] (spaces descriptionIndent ++ first) =
      [⟨none, [spaces descriptionIndent ++ first]⟩] := by
    rw [addLine, if_neg (by simp; omega)]
    rfl
  rw [hwhole] at hdeep ⊢
  have hrest := foldl_addLine_deep [] ⟨none, [spaces descriptionIndent ++ first]⟩
    fun line hl => hdeep line (List.mem_cons_of_mem _ hl)
  rw [entries, List.foldl_cons, hopens]
  exact hrest

/-- The description of an entry is read back from the lines below it. -/
theorem description?_wholeDescription {t : Text} (head : Option Line) (ht : IsDescription t) :
    (Entry.mk head (wholeDescription t)).description? = t.unlessEmpty := by
  unfold Entry.description? wholeDescription
  rcases ht with rfl | ht
  · rfl
  · rw [if_neg (by simp [ht.not_blank])]
    change joinProse? (dedentBy descriptionIndent (indent descriptionIndent (splitLines t))) = _
    rw [dedentBy_indent _ ht.clean, ht.joinProse?, unlessEmpty_of_ne ht.ne_nil]

end Docstring.Numpy
