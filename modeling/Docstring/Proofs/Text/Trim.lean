-- Trimming leaves alone what has no white space at its ends. The same holds for blank lines at
-- the ends of a list of lines.
import Docstring.Document.Entry
import Mathlib.Data.List.DropRight

namespace Docstring.Text

/-- Nothing is dropped from the end up to what has to stay. -/
theorem rdropWhile_append_cons {α : Type} {p : α → Bool} (above : List α) {x : α}
    (below : List α) (h : ¬p x = true) :
    (above ++ x :: below).rdropWhile p = above ++ x :: below.rdropWhile p := by
  induction below using List.reverseRecOn with
  | nil => simpa using List.rdropWhile_concat_neg p above x h
  | append_singleton below last ih =>
    rw [← List.cons_append, ← List.append_assoc]
    by_cases hlast : p last = true
    · rw [List.rdropWhile_concat_pos _ _ _ hlast, List.rdropWhile_concat_pos _ _ _ hlast, ih]
    · rw [List.rdropWhile_concat_neg _ _ _ hlast, List.rdropWhile_concat_neg _ _ _ hlast,
        List.append_assoc, List.cons_append]

/-! ## White space at the ends of a text -/

/-- A text that starts with a character other than white space. -/
def opensWithInk : Text → Bool
  | [] => false
  | c :: _ => !isSpace c

/-- A text that ends with a character other than white space. -/
def closesWithInk (t : Text) : Bool := opensWithInk t.reverse

theorem exists_of_opensWithInk {t : Text} (h : opensWithInk t = true) :
    ∃ c rest, t = c :: rest ∧ isSpace c = false := by
  cases t with
  | nil => simp [opensWithInk] at h
  | cons c rest => exact ⟨c, rest, rfl, by simpa [opensWithInk] using h⟩

theorem opensWithInk_append {s : Text} (t : Text) (h : opensWithInk s = true) :
    opensWithInk (s ++ t) = true := by
  obtain ⟨c, rest, rfl, hc⟩ := exists_of_opensWithInk h
  simp [opensWithInk, hc]

theorem ne_nil_of_opensWithInk {t : Text} (h : opensWithInk t = true) : t ≠ [] := by
  rintro rfl
  simp [opensWithInk] at h

theorem not_blank_of_opensWithInk {t : Text} (h : opensWithInk t = true) : isBlank t = false := by
  obtain ⟨c, rest, rfl, hc⟩ := exists_of_opensWithInk h
  simp [isBlank, hc]

/-! ## Trimming a text -/

theorem trimStart_of_opensWithInk {t : Text} (h : opensWithInk t = true) : trimStart t = t := by
  obtain ⟨c, rest, rfl, hc⟩ := exists_of_opensWithInk h
  simp [trimStart, hc]

theorem trimEnd_of_closesWithInk {t : Text} (h : closesWithInk t = true) : trimEnd t = t := by
  have hrev : trimStart t.reverse = t.reverse := trimStart_of_opensWithInk h
  unfold trimStart at hrev
  rw [trimEnd, hrev, List.reverse_reverse]

theorem closesWithInk_of_trimEnd {t : Text} (h : trimEnd t = t) (hne : t ≠ []) :
    closesWithInk t = true := by
  have hlast := List.rdropWhile_eq_self_iff.mp h hne
  unfold closesWithInk
  cases hr : t.reverse with
  | nil => exact absurd (List.reverse_eq_nil_iff.mp hr) hne
  | cons c rest =>
    have ht : t = rest.reverse ++ [c] := by rw [← List.reverse_cons, ← hr, List.reverse_reverse]
    subst ht
    simpa [opensWithInk] using hlast

theorem trimEnd_append {t : Text} (s : Text) (h : trimEnd t = t) (hne : t ≠ []) :
    trimEnd (s ++ t) = s ++ t := by
  apply trimEnd_of_closesWithInk
  unfold closesWithInk
  rw [List.reverse_append]
  exact opensWithInk_append _ (closesWithInk_of_trimEnd h hne)

theorem trimEnd_append_ink {c : Char} (before after : Text) (hc : isSpace c = false) :
    trimEnd (before ++ c :: after) = before ++ c :: trimEnd after :=
  rdropWhile_append_cons before after (by simp [hc])

theorem eq_nil_of_blank {t : Text} (h : trimEnd t = t) (hb : isBlank t = true) : t = [] := by
  by_contra hne
  have hlast := List.rdropWhile_eq_self_iff.mp h hne
  exact hlast (List.all_eq_true.mp hb _ (List.getLast_mem hne))

theorem blank_iff_of_trimEnd {t : Text} (h : trimEnd t = t) : isBlank t = true ↔ t = [] := by
  constructor
  · exact eq_nil_of_blank h
  · rintro rfl
    rfl

/-- A trimmed text that is not empty has ink at both ends. -/
theorem ink_of_trim {t : Text} (h : trim t = t) (hne : t ≠ []) :
    opensWithInk t = true ∧ trimEnd t = t := by
  have hstart : trimStart t = t := by
    have hsuffix : trimStart t <:+ t := List.dropWhile_suffix _
    have hprefix : trim t <+: trimStart t := List.rdropWhile_prefix _ _
    apply hsuffix.eq_of_length_le
    calc t.length = (trim t).length := by rw [h]
      _ ≤ (trimStart t).length := hprefix.length_le
  refine ⟨?_, by rw [trim, hstart] at h; exact h⟩
  cases t with
  | nil => exact absurd rfl hne
  | cons c rest =>
    have hc := List.dropWhile_eq_self_iff.mp hstart (by simp)
    simpa [opensWithInk] using hc

theorem trim_of_ink {t : Text} (hs : opensWithInk t = true) (he : trimEnd t = t) :
    trim t = t := by
  rw [trim, trimStart_of_opensWithInk hs, he]

theorem trim_space_cons {c : Char} (t : Text) (hc : isSpace c = true) : trim (c :: t) = trim t := by
  simp [trim, trimStart, hc]

theorem trim_append_space {t : Text} {c : Char} (hs : opensWithInk t = true) (he : trimEnd t = t)
    (hc : isSpace c = true) : trim (t ++ [c]) = t := by
  rw [trim, trimStart_of_opensWithInk (opensWithInk_append [c] hs)]
  have hdrop : trimEnd (t ++ [c]) = trimEnd t := List.rdropWhile_concat_pos _ _ _ hc
  rw [hdrop, he]

theorem mem_of_mem_trim {t : Text} {c : Char} (h : c ∈ trim t) : c ∈ t := by
  have hshort : trim t <+: trimStart t := List.rdropWhile_prefix _ _
  exact (List.dropWhile_suffix _).subset (hshort.subset h)

theorem trim_trim (t : Text) : trim (trim t) = trim t := by
  have hend : trimEnd (trim t) = trim t := List.rdropWhile_idempotent _ _
  have hshort : trim t <+: trimStart t := List.rdropWhile_prefix _ _
  cases htrim : trim t with
  | nil => rfl
  | cons c rest =>
    rw [htrim] at hend hshort
    obtain ⟨more, hstart⟩ := hshort
    have hopen : opensWithInk (trimStart t) = true := by
      cases hs : trimStart t with
      | nil => simp [hs] at hstart
      | cons d tail =>
        have hd := List.head?_dropWhile_not isSpace t
        rw [← trimStart, hs] at hd
        simpa [opensWithInk] using hd
    rw [← hstart] at hopen
    exact trim_of_ink hopen hend

theorem isBlank_trim (t : Text) : isBlank (trim t) = isBlank t := by
  rw [Bool.eq_iff_iff]
  constructor
  · intro h
    have hend : trimEnd (trim t) = trim t := List.rdropWhile_idempotent _ _
    have hnil : trimEnd (trimStart t) = [] := eq_nil_of_blank hend h
    have hall : ∀ c ∈ trimStart t, isSpace c = true := List.rdropWhile_eq_nil_iff.mp hnil
    rw [isBlank, List.all_eq_true]
    intro c hc
    rw [← List.takeWhile_append_dropWhile (p := isSpace) (l := t), List.mem_append] at hc
    rcases hc with hc | hc
    · exact List.mem_takeWhile_imp hc
    · exact hall c hc
  · intro h
    rw [isBlank, List.all_eq_true] at h ⊢
    exact fun c hc => h c (mem_of_mem_trim hc)

/-! ## Blank lines at the ends -/

@[simp] theorem dropBlankEnd_nil : dropBlankEnd [] = [] := rfl

theorem dropBlankEnd_concat_blank {line : Line} (lines : List Line) (h : isBlank line = true) :
    dropBlankEnd (lines ++ [line]) = dropBlankEnd lines :=
  List.rdropWhile_concat_pos _ _ _ h

@[simp] theorem dropBlankEnd_concat_empty (lines : List Line) :
    dropBlankEnd (lines ++ [[]]) = dropBlankEnd lines :=
  dropBlankEnd_concat_blank lines rfl

theorem dropBlankEnd_concat {line : Line} (lines : List Line) (h : isBlank line = false) :
    dropBlankEnd (lines ++ [line]) = lines ++ [line] :=
  List.rdropWhile_concat_neg _ _ _ (by simp [h])

/-- Lines that end in one that is not blank; no lines at all are such lines, too. -/
def EndsInk (lines : List Line) : Prop := ∀ line ∈ lines.getLast?, isBlank line = false

instance (lines : List Line) : Decidable (EndsInk lines) :=
  inferInstanceAs (Decidable (∀ line ∈ lines.getLast?, isBlank line = false))

theorem dropBlankEnd_of_endsInk {lines : List Line} (h : EndsInk lines) :
    dropBlankEnd lines = lines := by
  rcases List.eq_nil_or_concat' lines with rfl | ⟨init, last, rfl⟩
  · rfl
  · exact dropBlankEnd_concat init (h last (by simp))

theorem endsInk_dropBlankEnd (lines : List Line) : EndsInk (dropBlankEnd lines) := by
  intro line hlast
  obtain ⟨hne, rfl⟩ := List.mem_getLast?_eq_getLast hlast
  exact Bool.eq_false_iff.mpr (List.rdropWhile_last_not isBlank lines hne)

theorem endsInk_append {more : List Line} (lines : List Line) (h : EndsInk more)
    (hne : more ≠ []) : EndsInk (lines ++ more) := by
  intro line hl
  rw [List.getLast?_append_of_ne_nil _ hne] at hl
  exact h line hl

theorem endsInk_cons {line : Line} {lines : List Line} (hline : isBlank line = false)
    (h : EndsInk lines) : EndsInk (line :: lines) := by
  by_cases hne : lines = []
  · subst hne
    intro last hl
    simp only [List.getLast?_singleton, Option.mem_some_iff] at hl
    rw [← hl, hline]
  · exact endsInk_append [line] h hne

theorem trimBlankLines_of_ink {line : Line} {lines : List Line} (hfirst : isBlank line = false)
    (hlast : EndsInk (line :: lines)) : trimBlankLines (line :: lines) = line :: lines := by
  have hstart : dropBlankStart (line :: lines) = line :: lines := by
    simp [dropBlankStart, hfirst]
  rw [trimBlankLines, hstart, dropBlankEnd_of_endsInk hlast]

theorem trimBlankLines_blank_cons {line : Line} (lines : List Line) (h : isBlank line = true) :
    trimBlankLines (line :: lines) = trimBlankLines lines := by
  simp [trimBlankLines, dropBlankStart, h]

theorem trimBlankLines_concat_blank {last : Line} (lines : List Line) (h : isBlank last = true) :
    trimBlankLines (lines ++ [last]) = trimBlankLines lines := by
  induction lines with
  | nil => simp [trimBlankLines, dropBlankStart, h]
  | cons line lines ih =>
    cases hb : isBlank line with
    | true => rw [List.cons_append, trimBlankLines_blank_cons _ hb, ih,
        trimBlankLines_blank_cons _ hb]
    | false =>
      have hstart : ∀ more, dropBlankStart (line :: more) = line :: more := by
        simp [dropBlankStart, hb]
      rw [trimBlankLines, trimBlankLines, List.cons_append, hstart, hstart, ← List.cons_append,
        dropBlankEnd_concat_blank _ h]

theorem trimBlankLines_dropBlankEnd (lines : List Line) :
    trimBlankLines (dropBlankEnd lines) = trimBlankLines lines := by
  induction lines using List.reverseRecOn with
  | nil => rfl
  | append_singleton lines last ih =>
    cases hlast : isBlank last with
    | true => rw [dropBlankEnd_concat_blank lines hlast, ih, trimBlankLines_concat_blank lines hlast]
    | false => rw [dropBlankEnd_concat lines hlast]

@[simp] theorem trimBlankLines_concat_empty (lines : List Line) :
    trimBlankLines (lines ++ [[]]) = trimBlankLines lines :=
  trimBlankLines_concat_blank lines rfl

end Docstring.Text
