-- The summary and the prose of a document are found again above the sections that follow them.
import Docstring.Document.Head
import Docstring.Proofs.Document.Whole

namespace Docstring

open Text

namespace Head

/-- Everything up to the first mark is cut off. -/
theorem spanUntil_append {mark : List Line → Bool} {before after : List Line}
    (h : ∀ tail, tail <:+ before → tail ≠ [] → mark (tail ++ after) = false)
    (hafter : after = [] ∨ mark after = true) :
    spanUntil mark (before ++ after) = (before, after) := by
  induction before with
  | nil =>
    rcases hafter with rfl | hmark
    · rfl
    · cases after with
      | nil => rfl
      | cons line rest => simp [spanUntil, hmark]
  | cons line before ih =>
    have hline : mark (line :: (before ++ after)) = false :=
      h (line :: before) (List.suffix_refl _) (by simp)
    have hrest : spanUntil mark (before ++ after) = (before, after) :=
      ih fun tail ht hne => h tail (ht.trans (List.suffix_cons _ _)) hne
    rw [List.cons_append, spanUntil, hline, hrest]
    rfl

/-- Where only the line itself tells whether it is a mark, lines above a mark are cut as they are
without it. -/
theorem spanUntil_append_mark {mark : List Line → Bool} {below : List Line}
    (hfirst : ∀ line rest rest', mark (line :: rest) = mark (line :: rest'))
    (hbelow : mark below = true) (hne : below ≠ []) (above : List Line) :
    spanUntil mark (above ++ below) =
      ((spanUntil mark above).1, (spanUntil mark above).2 ++ below) := by
  induction above with
  | nil =>
    obtain ⟨line, rest, rfl⟩ := List.exists_cons_of_ne_nil hne
    simp [spanUntil, hbelow]
  | cons line above ih =>
    rw [List.cons_append, spanUntil, spanUntil, hfirst line (above ++ below) above, ih]
    split <;> rfl

theorem cut_append_mark (endsSummary endsProse : List Line → Bool) {below : List Line}
    (hsummary : ∀ line rest rest', endsSummary (line :: rest) = endsSummary (line :: rest'))
    (hprose : ∀ line rest rest', endsProse (line :: rest) = endsProse (line :: rest'))
    (hends : endsSummary below = true) (hbelow : endsProse below = true) (hne : below ≠ [])
    (above : List Line) :
    cut endsSummary endsProse (above ++ below) =
      { cut endsSummary endsProse above with
        rest := (cut endsSummary endsProse above).rest ++ below } := by
  have hfirst := @spanUntil_append_mark
    (fun tail => ((tail.head?.map isBlank).getD false) || endsSummary tail) below
    (fun line rest rest' => congrArg (isBlank line || ·) (hsummary line rest rest'))
    (by simp [hends]) hne above
  simp only [cut, hfirst, spanUntil_append_mark hprose hbelow hne]

end Head

namespace Layout

/-! ## Lines below the summary -/

/-- The prose below the summary, with the empty line above it. -/
def proseLines (d : Document) : List Line := d.extended.toList.flatMap fun t => [] :: splitLines t

/-- The empty line above the first section, if there is one. -/
def gap (blocks : List (List Line)) : List Line := if blocks.isEmpty then [] else [[]]

theorem separate_wholeHead_append {d : Document} {blocks : List (List Line)} (hd : d.Tidy)
    (h : ∀ b ∈ blocks, IsBlock b) :
    separate (wholeHead d ++ blocks) =
      splitLines d.summary ++ (proseLines d ++ gap blocks ++ separate blocks) := by
  have hne : ∀ b ∈ d.extended.toList.map splitLines ++ blocks, b ≠ [] := by
    intro b hb
    rcases List.mem_append.mp hb with hb | hb
    · exact (isBlock_of_mem_wholeHead hd (by simp [wholeHead, hb])).ne_nil
    · exact (h b hb).ne_nil
  have hblocks : gap blocks ++ separate blocks = blocks.flatMap fun b => [] :: b := by
    cases blocks with
    | nil => rfl
    | cons b more =>
      rw [separate_eq_append b (h b (by simp)).ne_nil fun x hx => (h x (by simp [hx])).ne_nil]
      rfl
  rw [wholeHead, List.cons_append, separate_eq_append _ (splitLines_ne_nil _) hne,
    List.flatMap_append, List.append_assoc, hblocks, List.flatMap_map]
  rfl

/-- The prose is read back from the lines between the summary and the first section. -/
theorem joinProse?_proseLines {d : Document} (blocks : List (List Line)) (hd : d.Tidy) :
    joinProse? (proseLines d ++ gap blocks) = d.extended := by
  unfold proseLines gap
  cases he : d.extended with
  | none => split <;> rfl
  | some t =>
    have ht : IsTextBlock t := hd.extended t (by simp [he])
    have hkept : trimBlankLines (splitLines t ++ if blocks.isEmpty then [] else [[]]) =
        splitLines t := by
      split
      · rw [List.append_nil, ht.trimBlankLines]
      · rw [trimBlankLines_concat_blank _ rfl, ht.trimBlankLines]
    have hjoin : joinProse? (splitLines t) = some t := ht.joinProse?
    rw [Text.joinProse?, ht.trimBlankLines] at hjoin
    simp only [Option.toList_some, List.flatMap_cons, List.flatMap_nil, List.append_nil,
      List.cons_append]
    rw [Text.joinProse?, trimBlankLines_blank_cons _ rfl, hkept]
    exact hjoin

/-! ## Cutting off the head -/

theorem tail_of_suffix_proseLines {d : Document} {blocks : List (List Line)} {tail : List Line}
    (h : tail <:+ proseLines d ++ gap blocks) (hne : tail ≠ []) :
    (∃ rest, tail = [] :: rest) ∨
      ∃ t ∈ d.extended, ∃ inner, inner <:+ splitLines t ∧ inner ≠ [] ∧
        tail = inner ++ gap blocks := by
  have hgap : ∀ tail, tail <:+ gap blocks → tail ≠ [] → ∃ rest, tail = [] :: rest := by
    intro tail ht hne
    unfold gap at ht
    split at ht
    · exact absurd (List.suffix_nil.mp ht) hne
    · rcases List.suffix_cons_iff.mp ht with rfl | ht
      · exact ⟨[], rfl⟩
      · exact absurd (List.suffix_nil.mp ht) hne
  unfold proseLines at h
  cases he : d.extended with
  | none =>
    simp only [he, Option.toList_none, List.flatMap_nil, List.nil_append] at h
    exact Or.inl (hgap tail h hne)
  | some t =>
    simp only [he, Option.toList_some, List.flatMap_cons, List.flatMap_nil, List.append_nil,
      List.cons_append] at h
    rcases List.suffix_cons_iff.mp h with rfl | h
    · exact Or.inl ⟨_, rfl⟩
    · rcases List.suffix_or_suffix_of_suffix h (List.suffix_append _ _) with h' | ⟨inner, rfl⟩
      · exact Or.inl (hgap tail h' hne)
      · have hinner : inner <:+ splitLines t := List.suffix_append_self_iff.mp h
        by_cases hi : inner = []
        · subst hi
          exact Or.inl (hgap _ (by simp) (by simpa using hne))
        · exact Or.inr ⟨t, rfl, inner, hinner, hi, rfl⟩

/-- The head of a written document: summary and prose are those of the document if no line of
them is taken for a mark, and the sections start at the first mark. -/
theorem cut_separate {d : Document} {blocks : List (List Line)}
    (endsSummary endsProse : List Line → Bool)
    (hd : d.Tidy) (h : ∀ b ∈ blocks, IsBlock b)
    (hsummary : ∀ tail below, tail <:+ splitLines d.summary → tail ≠ [] →
      below.head?.getD [] = [] → endsSummary (tail ++ below) = false)
    (hprose : ∀ t ∈ d.extended, ∀ tail below, tail <:+ splitLines t → tail ≠ [] →
      below.head?.getD [] = [] → endsProse (tail ++ below) = false)
    (hempty : ∀ below, endsProse ([] :: below) = false)
    (hmark : blocks ≠ [] → endsProse (separate blocks) = true) :
    ∃ n, Head.cut endsSummary endsProse (separate (wholeHead d ++ blocks)) =
      ⟨d.summary, d.extended, n, separate blocks⟩ := by
  have hafter : (proseLines d ++ gap blocks ++ separate blocks).head?.getD [] = [] := by
    unfold proseLines gap
    cases d.extended with
    | none =>
      cases blocks with
      | nil => rfl
      | cons b more => rfl
    | some t => rfl
  have hspan : Head.spanUntil
      (fun tail => ((tail.head?.map isBlank).getD false) || endsSummary tail)
      (splitLines d.summary ++ (proseLines d ++ gap blocks ++ separate blocks)) =
      (splitLines d.summary, proseLines d ++ gap blocks ++ separate blocks) := by
    apply Head.spanUntil_append
    · intro tail ht hne
      obtain ⟨line, rest, rfl⟩ := List.exists_cons_of_ne_nil hne
      have hink := (hd.summary line (ht.subset (by simp))).1
      simp only [hsummary _ _ ht hne hafter, Bool.or_false]
      simp [not_blank_of_opensWithInk hink]
    · cases hl : proseLines d ++ gap blocks ++ separate blocks with
      | nil => exact Or.inl rfl
      | cons line rest =>
        rw [hl] at hafter
        have hline : line = [] := hafter
        exact Or.inr (by simp [hline, isBlank])
  have hrest : Head.spanUntil endsProse (proseLines d ++ gap blocks ++ separate blocks) =
      (proseLines d ++ gap blocks, separate blocks) := by
    apply Head.spanUntil_append
    · intro tail ht hne
      rcases tail_of_suffix_proseLines ht hne with ⟨rest, rfl⟩ | ⟨t, hmem, inner, hi, hine, rfl⟩
      · exact hempty _
      · rw [List.append_assoc]
        apply hprose t hmem inner _ hi hine
        cases blocks with
        | nil => rfl
        | cons b more => rfl
    · cases blocks with
      | nil => exact Or.inl rfl
      | cons b more => exact Or.inr (hmark (by simp))
  refine ⟨(splitLines d.summary).length + (proseLines d ++ gap blocks).length, ?_⟩
  rw [separate_wholeHead_append hd h]
  simp only [Head.cut, hspan, hrest, joinLines_splitLines, joinProse?_proseLines blocks hd]

end Layout

end Docstring
