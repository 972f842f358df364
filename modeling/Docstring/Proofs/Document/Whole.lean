-- How prose and entries are laid out at a width that none of their lines exceeds: every line
-- stays whole, so the layout is shifting and nothing else.
import Docstring.Proofs.Document.Tidy
import Docstring.Proofs.Normal

namespace Docstring.Layout

open Text

/-! ## Prose -/

theorem wrapLine_of_short {line : Line} {first : Nat} (rest : Nat) (h : line.length ≤ first) :
    wrapLine line first rest = [line] := by
  have hfits : line.length ≤ max first minWrapWidth := le_trans h (le_max_left _ _)
  simp [wrapLine, hfits]

theorem wrapProseLine_of_short {line : Line} {width : Nat} (hclean : IsClean line)
    (h : line.length ≤ width) : wrapProseLine width line = [line] := by
  unfold wrapProseLine
  split
  · rename_i hb
    rw [hclean.blank_iff.mp hb]
  · split
    · rfl
    · exact wrapLine_of_short width h

theorem flatMap_wrapProseLine {lines : List Line} {width : Nat} (hclean : ∀ l ∈ lines, IsClean l)
    (h : ∀ l ∈ lines, l.length ≤ width) : lines.flatMap (wrapProseLine width) = lines := by
  induction lines with
  | nil => rfl
  | cons line lines ih =>
    rw [List.flatMap_cons, wrapProseLine_of_short (hclean line (by simp)) (h line (by simp)),
      ih (fun l hl => hclean l (by simp [hl])) (fun l hl => h l (by simp [hl]))]
    rfl

theorem wrapProse_of_short {t : Text} {width : Nat} (ht : IsTextBlock t)
    (h : ∀ line ∈ splitLines t, line.length ≤ width) : wrapProse width t = splitLines t :=
  flatMap_wrapProseLine ht.clean h

theorem verbatim_of_clean {t : Text} (columns : Nat) (ht : ∀ line ∈ splitLines t, IsClean line) :
    verbatim columns t = indent columns (splitLines t) := by
  have htrim : (splitLines t).map trimEnd = splitLines t := by
    conv => rhs; rw [← List.map_id (splitLines t)]
    apply List.map_congr_left
    intro line hl
    exact (ht line hl).trimmed
  rw [verbatim, htrim]

/-- The inner width is enough for a shifted block if the outer width is enough for its lines. -/
theorem length_le_of_indent {lines : List Line} {columns width : Nat}
    (h : ∀ line ∈ indent columns lines, line.length ≤ width) :
    ∀ line ∈ lines, line.length ≤ width - columns := by
  intro line hl
  by_cases hne : line = []
  · simp [hne]
  · have hlen := h (spaces columns ++ line)
      (List.mem_map.mpr ⟨line, hl, by simp [hne]⟩)
    simp only [List.length_append, spaces, List.length_replicate] at hlen
    omega

theorem indent_wrapProse_of_short {t : Text} {columns width : Nat} (ht : IsTextBlock t)
    (h : ∀ line ∈ indent columns (splitLines t), line.length ≤ width) :
    indent columns (wrapProse (width - columns) t) = indent columns (splitLines t) := by
  rw [wrapProse_of_short ht (length_le_of_indent h)]

/-! ## Entries -/

/-- The first line of an entry: the lead with the start of the description beside it. -/
def beside (lead first : Text) : Line :=
  if first.isEmpty then lead else if lead.isEmpty then first else lead ++ ' ' :: first

/-- An entry of which no line is wrapped. -/
def wholeEntry (lead : Text) (continuation : Nat) (t : Text) : List Line :=
  beside lead (firstLine t) :: indent continuation (laterLines t)

theorem beside_nil_right (lead : Text) : beside lead [] = lead := rfl

theorem beside_nil_left (first : Text) : beside [] first = first := by
  unfold beside
  cases first <;> simp

theorem beside_eq_append {lead first : Text} (hl : lead ≠ []) (hf : first ≠ []) :
    beside lead first = lead ++ ' ' :: first := by
  simp [beside, hl, hf]

theorem hangingFirst_of_short {lead first : Text} {column width continuation : Nat}
    (h : (spaces column ++ beside lead first).length ≤ width) :
    hangingFirst column lead first width continuation = [spaces column ++ beside lead first] := by
  unfold hangingFirst
  by_cases hf : first = []
  · subst hf
    rfl
  · rw [if_neg (by simpa using hf)]
    by_cases hl : lead = []
    · subst hl
      rw [beside_nil_left] at h ⊢
      simp only [List.length_append, spaces, List.length_replicate] at h
      rw [if_pos (by simp), wrapLine_of_short _ (by omega)]
      rfl
    · rw [beside_eq_append hl hf] at h ⊢
      simp only [List.length_append, spaces, List.length_replicate, List.length_cons] at h
      rw [if_neg (by simpa using hl), wrapLine_of_short _ (by omega)]
      simp

/-- An entry that fits is its whole lines, shifted to its column. -/
theorem hanging_of_short {lead t : Text} {column width : Nat} (continuation : Nat)
    (ht : IsDescription t) (hne : lead ≠ [] ∨ t ≠ [])
    (h : ∀ line ∈ indent column (wholeEntry lead continuation t), line.length ≤ width) :
    hanging column lead t width (column + continuation) =
      indent column (wholeEntry lead continuation t) := by
  have hbeside : beside lead (firstLine t) ≠ [] := by
    rcases ht with rfl | ht
    · simpa [firstLine, beside_nil_right] using hne
    · have hfirst : firstLine t ≠ [] := by
        have hopen := ht.opens
        rw [splitLines_eq_cons] at hopen
        exact ne_nil_of_opensWithInk hopen
      unfold beside
      split
      · simp_all
      · split <;> simp [hfirst]
  have hwhole : indent column (wholeEntry lead continuation t) =
      (spaces column ++ beside lead (firstLine t)) ::
        indent (column + continuation) (laterLines t) := by
    rw [wholeEntry, indent_cons_of_ne _ _ hbeside, indent_add]
  rw [hwhole] at h ⊢
  have hrest : (laterLines t).flatMap (wrapProseLine (width - (column + continuation))) =
      laterLines t := by
    apply flatMap_wrapProseLine ht.clean_laterLines
    exact length_le_of_indent fun line hl => h line (by simp [hl])
  unfold hanging
  rw [splitLines_eq_cons]
  dsimp only
  rw [ht.trim_firstLine, hangingFirst_of_short (h _ (by simp)), hrest]
  rfl

/-- The start of a description to the right of a lead. -/
def aside (first : Text) : Text := if first.isEmpty then [] else ' ' :: first

theorem beside_eq_aside {lead : Text} (first : Text) (h : lead ≠ []) :
    beside lead first = lead ++ aside first := by
  by_cases hf : first = []
  · simp [hf, beside_nil_right, aside]
  · simp [beside_eq_append h hf, aside, hf]

theorem trim_aside {first : Text} (h : trim first = first) : trim (aside first) = first := by
  unfold aside
  split
  · simp_all
  · rw [trim_space_cons first isSpace_space, h]

/-- The description of an entry is read back from its first line and the lines below. -/
theorem description?_of_trim {t text : Text} (ht : IsDescription t)
    (htrim : trim text = firstLine t) : description? text (laterLines t) = t.unlessEmpty := by
  rcases ht with rfl | ht
  · simp [description?, htrim, firstLine, laterLines, joinProse?, trimBlankLines, dropBlankStart]
  · have hblock : IsBlock (firstLine t :: laterLines t) := by
      rw [← splitLines_eq_cons]
      exact ht
    rw [description?_block htrim hblock, ← splitLines_eq_cons, joinLines_splitLines,
      unlessEmpty_of_ne ht.ne_nil]

theorem description?_aside {t : Text} (ht : IsDescription t) :
    description? (aside (firstLine t)) (laterLines t) = t.unlessEmpty :=
  description?_of_trim ht (trim_aside ht.trim_firstLine)

/-! ## Entries as blocks -/

/-- A lead starts with ink, ends with ink and has no newline, as one line does. -/
theorem isOneLine_beside {lead t : Text} (hlead : IsOneLine lead) (ht : IsDescription t) :
    IsOneLine (beside lead (firstLine t)) := by
  by_cases hf : firstLine t = []
  · rw [hf, beside_nil_right]
    exact hlead
  · rw [beside_eq_append hlead.nonempty hf, ← List.singleton_append, ← List.append_assoc]
    have hfirst : IsOneLine (firstLine t) :=
      ⟨hf, ht.trim_firstLine,
        newline_notMem_of_mem_splitLines (t := t) (by simp [splitLines_eq_cons])⟩
    apply IsOneLine.append (opensWithInk_append _ hlead.opens) _ hfirst
    simp [hlead.newline]

theorem isBlock_wholeEntry {lead t : Text} (continuation : Nat) (hlead : IsOneLine lead)
    (ht : IsDescription t) : IsBlock (wholeEntry lead continuation t) := by
  have hline := isOneLine_beside hlead ht
  refine ⟨hline.opens, ?_, ?_⟩
  · exact endsInk_cons hline.not_blank (endsInk_indent _ ht.endsInk_laterLines)
  · intro line hl
    rcases List.mem_cons.mp hl with rfl | hl
    · exact hline.isClean
    · exact isClean_of_mem_indent ht.clean_laterLines hl

/-- Blocks one below the other are a block. -/
theorem isBlock_flatMap {α : Type} {items : List α} {f : α → List Line} (hne : items ≠ [])
    (h : ∀ item ∈ items, IsBlock (f item)) : IsBlock (items.flatMap f) := by
  induction items with
  | nil => exact absurd rfl hne
  | cons item items ih =>
    have hitem : IsBlock (f item) := h item (by simp)
    rw [List.flatMap_cons]
    by_cases hrest : items = []
    · simpa [hrest] using hitem
    · have hmore := ih hrest fun x hx => h x (by simp [hx])
      obtain ⟨first, rest, hf, hfirst⟩ := hitem.exists_cons
      refine ⟨by simpa [hf] using hfirst, endsInk_append _ hmore.ends hmore.ne_nil, ?_⟩
      intro line hl
      rcases List.mem_append.mp hl with hl | hl
      · exact hitem.clean line hl
      · exact hmore.clean line hl

/-- A header over a shifted body is a block. -/
theorem isBlock_header {header : Line} {body : List Line} (columns : Nat)
    (hheader : IsOneLine header) (hends : EndsInk body) (hclean : ∀ line ∈ body, IsClean line) :
    IsBlock (header :: indent columns body) := by
  refine ⟨hheader.opens, endsInk_cons hheader.not_blank (endsInk_indent columns hends), ?_⟩
  intro line hl
  rcases List.mem_cons.mp hl with rfl | hl
  · exact hheader.isClean
  · exact isClean_of_mem_indent hclean hl

/-! ## The head -/

/-- The blocks of the summary and the prose, no line of them wrapped. -/
def wholeHead (d : Document) : List (List Line) :=
  splitLines d.summary :: d.extended.toList.map splitLines

theorem headBlocks_of_short {d : Document} {width : Nat} (hd : d.Tidy)
    (h : ∀ block ∈ wholeHead d, ∀ line ∈ block, line.length ≤ width) :
    headBlocks d width = wholeHead d := by
  have hsummary : wrapProse width d.summary = splitLines d.summary :=
    wrapProse_of_short hd.summary_block (h _ (by simp [wholeHead]))
  simp only [headBlocks, hd.summary_block.not_blank, hsummary, wholeHead]
  cases he : d.extended with
  | none => rfl
  | some t =>
    have ht : IsTextBlock t := hd.extended t (by simp [he])
    have hprose : wrapProse width t = splitLines t :=
      wrapProse_of_short ht (h _ (by simp [wholeHead, he]))
    simp [ht.not_blank, hprose]

theorem isBlock_of_mem_wholeHead {d : Document} (hd : d.Tidy) {block : List Line}
    (h : block ∈ wholeHead d) : IsBlock block := by
  rcases List.mem_cons.mp h with rfl | h
  · exact hd.summary_block
  · obtain ⟨t, ht, rfl⟩ := List.mem_map.mp h
    exact hd.extended t (by simpa using ht)

/-- A document that is written with every line whole is in normal form. -/
theorem normalLines_wholeHead_append {d : Document} {blocks : List (List Line)} (hd : d.Tidy)
    (h : ∀ block ∈ blocks, IsBlock block) :
    normalLines (assemble (wholeHead d ++ blocks)) = separate (wholeHead d ++ blocks) := by
  rw [wholeHead, List.cons_append]
  apply normalLines_assemble
  · intro line hl
    exact (hd.summary line hl).1
  · intro block hb
    rw [← List.cons_append] at hb
    rcases List.mem_append.mp hb with hb | hb
    · exact isBlock_of_mem_wholeHead hd hb
    · exact h block hb

theorem normalText_wholeHead_append {d : Document} {blocks : List (List Line)} (hd : d.Tidy)
    (h : ∀ block ∈ blocks, IsBlock block) :
    normalText (assemble (wholeHead d ++ blocks)) = assemble (wholeHead d ++ blocks) := by
  rw [normalText, normalLines_wholeHead_append hd h, assemble]

/-! ## Widths -/

/-- No line of some blocks exceeds a width. -/
def Fits (blocks : List (List Line)) (width : Nat) : Prop :=
  ∀ block ∈ blocks, ∀ line ∈ block, line.length ≤ width

instance (blocks : List (List Line)) (width : Nat) : Decidable (Fits blocks width) :=
  inferInstanceAs (Decidable (∀ block ∈ blocks, ∀ line ∈ block, line.length ≤ width))

theorem Fits.mono {blocks : List (List Line)} {width wider : Nat} (h : Fits blocks width)
    (hle : width ≤ wider) : Fits blocks wider :=
  fun block hb line hl => le_trans (h block hb line hl) hle

/-- A width beyond every line of some blocks. -/
theorem exists_fits (blocks : List (List Line)) : ∃ width, Fits blocks width := by
  refine ⟨blocks.flatten.flatten.length, fun block hb line hl => ?_⟩
  have hmem : line ∈ blocks.flatten := List.mem_flatten.mpr ⟨block, hb, hl⟩
  exact (List.sublist_flatten_of_mem hmem).length_le

end Docstring.Layout

namespace Docstring.Style

variable (style : Style) {d : Document} {blocks : List (List Line)} {whole : Text} {width : Nat}

/-- Where every line fits, nothing is wrapped. -/
theorem unwrapped_of_fits (hrender : ∀ w, Layout.Fits blocks w → style.render d w = whole)
    (h : Layout.Fits blocks width) : style.Unwrapped d width := by
  intro wider hwider
  rw [hrender wider (h.mono hwider), hrender width h]

/-- Where nothing is wrapped, every line is whole, as it is at a width beyond all of them. -/
theorem render_of_unwrapped (hrender : ∀ w, Layout.Fits blocks w → style.render d w = whole)
    (h : style.Unwrapped d width) : style.render d width = whole := by
  obtain ⟨enough, hfits⟩ := Layout.exists_fits blocks
  rw [← h (max width enough) (le_max_left _ _)]
  exact hrender _ (hfits.mono (le_max_right _ _))

end Docstring.Style
