-- The words of a text: they stay the same when white space is added, taken away or replaced by
-- other white space, and they hold every other character.
import Docstring.Proofs.Text.Margin

namespace Docstring.Text

/-! ## Words -/

theorem mem_words {t word : Text} (h : word ∈ words t) :
    word ≠ [] ∧ ∀ c ∈ word, isSpace c = false := by
  induction t generalizing word with
  | nil => simp [words] at h
  | cons c rest ih =>
    unfold words at h
    split at h
    · exact ih h
    · rename_i hc
      have hone : ([c] : Text) ≠ [] ∧ ∀ x ∈ [c], isSpace x = false := by simpa using hc
      split at h
      · rw [List.mem_singleton.mp h]
        exact hone
      · split at h
        · rcases List.mem_cons.mp h with rfl | h
          · exact hone
          · exact ih h
        · split at h
          · rw [List.mem_singleton.mp h]
            exact hone
          · rename_i first more hwords
            rcases List.mem_cons.mp h with rfl | h
            · refine ⟨by simp, ?_⟩
              intro x hx
              rcases List.mem_cons.mp hx with rfl | hx
              · simpa using hc
              · exact (ih (by simp [hwords])).2 x hx
            · exact ih (by simp [hwords, h])

theorem words_space_cons {c : Char} (t : Text) (hc : isSpace c = true) :
    words (c :: t) = words t := by
  rw [words.eq_def]
  simp [hc]

theorem words_append_of_blank {lead : Text} (t : Text) (h : ∀ c ∈ lead, isSpace c = true) :
    words (lead ++ t) = words t := by
  induction lead with
  | nil => rfl
  | cons c lead ih =>
    rw [List.cons_append, words_space_cons _ (h c (by simp)), ih fun x hx => h x (by simp [hx])]

/-- A text without white space is one word. -/
theorem words_of_ink {t : Text} (hne : t ≠ []) (h : ∀ c ∈ t, isSpace c = false) :
    words t = [t] := by
  induction t with
  | nil => exact absurd rfl hne
  | cons c t ih =>
    cases t with
    | nil => simp [words, h c (by simp)]
    | cons d t =>
      have hrest := ih (by simp) fun x hx => h x (List.mem_cons_of_mem _ hx)
      rw [words, hrest]
      simp [h c (by simp), h d (by simp)]

theorem words_ne_nil {t : Text} (h : isBlank t = false) : words t ≠ [] := by
  induction t with
  | nil => simp [isBlank] at h
  | cons c t ih =>
    unfold words
    split
    · rename_i hc
      apply ih
      simpa [isBlank, hc] using h
    · split
      · simp
      · split
        · simp
        · split <;> simp

/-- A word stands on one line. -/
theorem isOneLine_of_ink {word : Text} (hne : word ≠ []) (h : ∀ c ∈ word, isSpace c = false) :
    IsOneLine word := by
  have hopen : opensWithInk word = true := by
    cases word with
    | nil => exact absurd rfl hne
    | cons c word => simp [opensWithInk, h c (by simp)]
  have hclose : closesWithInk word = true := by
    unfold closesWithInk
    cases hr : word.reverse with
    | nil => exact absurd (List.reverse_eq_nil_iff.mp hr) hne
    | cons c rest =>
      have hc : c ∈ word := List.mem_reverse.mp (by simp [hr])
      simp [opensWithInk, h c hc]
  refine ⟨hne, trim_of_ink hopen (trimEnd_of_closesWithInk hclose), ?_⟩
  intro hmem
  have hspace := h '\n' hmem
  revert hspace
  decide

/-! ## Pieces -/

/-- A character that is no white space is a word of its own before a space or the end, and goes
on with the next word before another such character. -/
theorem words_ink_cons {c : Char} (t : Text) (hc : isSpace c = false) :
    (opensWithInk t = false ∧ words (c :: t) = [c] :: words t) ∨
      opensWithInk t = true ∧
        ∃ word more, words t = word :: more ∧ words (c :: t) = (c :: word) :: more := by
  rw [words.eq_def]
  simp only [hc, Bool.false_eq_true, if_false]
  cases t with
  | nil => exact Or.inl ⟨rfl, rfl⟩
  | cons d t =>
    cases hd : isSpace d with
    | true => exact Or.inl ⟨by simp [opensWithInk, hd], by simp [hd]⟩
    | false =>
      have hne : words (d :: t) ≠ [] := words_ne_nil (by simp [isBlank, hd])
      obtain ⟨word, more, hwords⟩ := List.exists_cons_of_ne_nil hne
      exact Or.inr ⟨by simp [opensWithInk, hd], word, more, hwords, by simp [hd, hwords]⟩

theorem words_append_space {c : Char} (s t : Text) (hc : isSpace c = true) :
    words (s ++ c :: t) = words s ++ words t := by
  induction s with
  | nil => exact words_space_cons t hc
  | cons x s ih =>
    cases hx : isSpace x with
    | true => rw [List.cons_append, words_space_cons _ hx, words_space_cons _ hx, ih]
    | false =>
      cases s with
      | nil => simp [words.eq_def (x :: c :: t), words, hx, hc]
      | cons d s =>
        have hboth := words.eq_def (x :: d :: s)
        have hwhole := words.eq_def (x :: d :: (s ++ c :: t))
        simp only [List.cons_append] at ih ⊢
        cases hd : isSpace d with
        | true => simp_all
        | false =>
          obtain ⟨word, more, hwords⟩ :=
            List.exists_cons_of_ne_nil (words_ne_nil (t := d :: s) (by simp [isBlank, hd]))
          simp_all

/-- White space at the end of a text is in no word. -/
theorem words_append_blank {tail : Text} (t : Text) (h : isBlank tail = true) :
    words (t ++ tail) = words t := by
  induction tail generalizing t with
  | nil => rw [List.append_nil]
  | cons c tail ih =>
    simp only [isBlank, List.all_cons, Bool.and_eq_true] at h
    have hnone := ih [] h.2
    rw [words_append_space _ _ h.1, show words tail = [] from hnone, List.append_nil]

theorem words_of_blank {t : Text} (h : isBlank t = true) : words t = [] :=
  words_append_blank [] h

theorem words_eq_nil_iff {t : Text} : words t = [] ↔ isBlank t = true := by
  refine ⟨fun h => ?_, words_of_blank⟩
  by_contra hb
  exact words_ne_nil (by simpa using hb) h

theorem words_trimStart (t : Text) : words (trimStart t) = words t := by
  induction t with
  | nil => rfl
  | cons c t ih =>
    unfold trimStart at ih ⊢
    by_cases hc : isSpace c = true
    · rw [List.dropWhile_cons_of_pos hc, ih, words_space_cons _ hc]
    · rw [List.dropWhile_cons_of_neg hc]

theorem words_trimEnd (t : Text) : words (trimEnd t) = words t := by
  have hsplit : t = trimEnd t ++ (t.reverse.takeWhile isSpace).reverse := by
    rw [trimEnd, ← List.reverse_append, List.takeWhile_append_dropWhile, List.reverse_reverse]
  have hblank : isBlank (t.reverse.takeWhile isSpace).reverse = true := by
    simp only [isBlank, List.all_reverse, List.all_eq_true]
    intro c hc
    exact List.mem_takeWhile_imp hc
  conv_rhs => rw [hsplit]
  rw [words_append_blank _ hblank]

@[simp] theorem words_trim (t : Text) : words (trim t) = words t := by
  rw [trim, words_trimEnd, words_trimStart]

theorem words_stripColumns (columns : Nat) (line : Line) :
    words (stripColumns columns line) = words line := by
  rw [← words_trim, trim_stripColumns, words_trim]

/-- The words of lines are those of the joined text. -/
theorem words_joinLines (lines : List Line) : words (joinLines lines) = lines.flatMap words := by
  induction lines with
  | nil => rfl
  | cons line lines ih =>
    cases lines with
    | nil => simp
    | cons next lines =>
      rw [joinLines_cons line (by simp), words_append_space _ _ (by decide), ih]
      rfl

theorem flatMap_words_splitLines (t : Text) : (splitLines t).flatMap words = words t := by
  rw [← words_joinLines, joinLines_splitLines]

theorem flatMap_words_dropBlankEnd (lines : List Line) :
    (dropBlankEnd lines).flatMap words = lines.flatMap words := by
  induction lines using List.reverseRecOn with
  | nil => rfl
  | append_singleton lines line ih =>
    cases hb : isBlank line with
    | true =>
      rw [dropBlankEnd_concat_blank lines hb, ih, List.flatMap_append]
      simp [words_of_blank hb]
    | false => rw [dropBlankEnd_concat lines hb]

theorem flatMap_words_trimBlankLines (lines : List Line) :
    (trimBlankLines lines).flatMap words = lines.flatMap words := by
  have hstart : (dropBlankStart lines).flatMap words = lines.flatMap words := by
    conv => rhs; rw [← List.takeWhile_append_dropWhile (p := isBlank) (l := lines)]
    have hblank : (lines.takeWhile isBlank).flatMap words = [] :=
      List.flatMap_eq_nil_iff.mpr fun line hl => words_of_blank (List.mem_takeWhile_imp hl)
    rw [List.flatMap_append, hblank, List.nil_append]
    rfl
  rw [trimBlankLines, flatMap_words_dropBlankEnd, hstart]

/-! ## Counting -/

/-- No words are lost where text is put in front of others. -/
theorem length_words_append_le (s t : Text) : (words t).length ≤ (words (s ++ t)).length := by
  induction s with
  | nil => exact Nat.le_refl _
  | cons c s ih =>
    cases hc : isSpace c with
    | true => rwa [List.cons_append, words_space_cons _ hc]
    | false =>
      rcases words_ink_cons (s ++ t) hc with ⟨-, hone⟩ | ⟨-, word, more, hrest, hjoined⟩
      · rw [List.cons_append, hone, List.length_cons]
        exact Nat.le_succ_of_le ih
      · rwa [List.cons_append, hjoined, List.length_cons, ← List.length_cons (a := word), ← hrest]

/-- The number of words in some lines. -/
def wordCount (lines : List Line) : Nat := (lines.flatMap words).length

@[simp] theorem wordCount_nil : wordCount [] = 0 := rfl

@[simp] theorem wordCount_cons (line : Line) (lines : List Line) :
    wordCount (line :: lines) = (words line).length + wordCount lines := by
  rw [wordCount, List.flatMap_cons, List.length_append, wordCount]

@[simp] theorem wordCount_append (above below : List Line) :
    wordCount (above ++ below) = wordCount above + wordCount below := by
  rw [wordCount, List.flatMap_append, List.length_append, wordCount, wordCount]

/-- Up to a later line, there are no fewer words. -/
theorem wordCount_take_le (lines : List Line) {n m : Nat} (h : n ≤ m) :
    wordCount (lines.take n) ≤ wordCount (lines.take m) := by
  obtain ⟨k, rfl⟩ := Nat.exists_eq_add_of_le h
  rw [List.take_add, wordCount_append]
  exact Nat.le_add_right _ _

theorem wordCount_of_blank {lines : List Line} (h : ∀ line ∈ lines, isBlank line = true) :
    wordCount lines = 0 :=
  List.length_eq_zero_iff.mpr (List.flatMap_eq_nil_iff.mpr fun line hline =>
    words_of_blank (h line hline))

theorem wordCount_trimBlankLines (lines : List Line) :
    wordCount (trimBlankLines lines) = wordCount lines :=
  congrArg List.length (flatMap_words_trimBlankLines lines)

/-! ## Characters -/

/-- The words hold all that is no white space. -/
theorem flatten_words (t : Text) : (words t).flatten = t.filter fun c => !isSpace c := by
  induction t with
  | nil => rfl
  | cons c t ih =>
    cases hc : isSpace c with
    | true => rw [words_space_cons t hc, ih, List.filter_cons_of_neg (by simp [hc])]
    | false =>
      rw [List.filter_cons_of_pos (by simp [hc]), ← ih]
      rcases words_ink_cons t hc with ⟨-, hone⟩ | ⟨-, word, more, hrest, hjoined⟩
      · rw [hone, List.flatten_cons, List.singleton_append]
      · rw [hjoined, hrest, List.flatten_cons, List.flatten_cons, List.cons_append]

theorem exists_word_of_mem {t : Text} {c : Char} (h : c ∈ t) (hc : isSpace c = false) :
    ∃ word ∈ words t, c ∈ word := by
  have hmem : c ∈ (words t).flatten := by
    rw [flatten_words]
    exact List.mem_filter.mpr ⟨h, by simp [hc]⟩
  exact List.mem_flatten.mp hmem

theorem mem_of_mem_word {t word : Text} {c : Char} (h : word ∈ words t) (hc : c ∈ word) :
    c ∈ t := by
  have hmem : c ∈ (words t).flatten := List.mem_flatten.mpr ⟨word, h, hc⟩
  rw [flatten_words] at hmem
  exact (List.mem_filter.mp hmem).1

/-- A text that starts with ink starts with its first word. -/
theorem exists_first_word {c : Char} (t : Text) (hc : isSpace c = false) :
    ∃ word more, words (c :: t) = (c :: word) :: more := by
  rcases words_ink_cons t hc with ⟨-, hone⟩ | ⟨-, word, more, -, hjoined⟩
  · exact ⟨[], words t, hone⟩
  · exact ⟨word, more, hjoined⟩

/-- A text that ends with ink ends with its last word. -/
theorem exists_last_word {c : Char} (t : Text) (hc : isSpace c = false) :
    ∃ earlier word, words (t ++ [c]) = earlier ++ [word ++ [c]] := by
  induction t with
  | nil => exact ⟨[], [], by simp [words, hc]⟩
  | cons x t ih =>
    obtain ⟨earlier, word, hwords⟩ := ih
    rw [List.cons_append]
    cases hx : isSpace x with
    | true => exact ⟨earlier, word, by rw [words_space_cons _ hx, hwords]⟩
    | false =>
      rcases words_ink_cons (t ++ [c]) hx with ⟨-, hone⟩ | ⟨-, first, more, hrest, hjoined⟩
      · exact ⟨[x] :: earlier, word, by rw [hone, hwords, List.cons_append]⟩
      · cases earlier with
        | nil =>
          rw [hwords, List.nil_append, List.cons.injEq] at hrest
          exact ⟨[], x :: word, by rw [hjoined, ← hrest.1, ← hrest.2]; rfl⟩
        | cons w earlier =>
          rw [hwords, List.cons_append, List.cons.injEq] at hrest
          exact ⟨(x :: first) :: earlier, word, by rw [hjoined, ← hrest.2, List.cons_append]⟩

/-! ## Runs of white space -/

/-- A text with every run of white space made one space. -/
def collapse : Text → Text
  | [] => []
  | c :: t =>
    if isSpace c then
      if (t.head?.map isSpace).getD false then collapse t else ' ' :: collapse t
    else c :: collapse t

/-- A text that ends in ink collapses to its words, behind a space if it starts with white
space. -/
theorem collapse_eq {t : Text} (h : trimEnd t = t) :
    collapse t =
      (if (t.head?.map isSpace).getD false then [' '] else []) ++ joinWords (words t) := by
  induction t with
  | nil => rfl
  | cons c t ih =>
    have hrest := ih (trimEnd_of_suffix h (List.suffix_cons c t))
    cases hc : isSpace c with
    | true =>
      simp only [collapse, hc, if_true, List.head?_cons, Option.map_some, Option.getD_some,
        words_space_cons t hc]
      rw [hrest]
      split <;> rfl
    | false =>
      simp only [collapse, hc, Bool.false_eq_true, if_false, List.head?_cons, Option.map_some,
        Option.getD_some, List.nil_append]
      rw [hrest]
      rcases words_ink_cons t hc with ⟨hspace, hone⟩ | ⟨hink, word, more, hwords, hjoined⟩
      · rw [hone]
        cases t with
        | nil => rfl
        | cons d t =>
          have hd : isSpace d = true := by simpa [opensWithInk] using hspace
          have hne : words (d :: t) ≠ [] := by
            intro hnone
            have hnil := eq_nil_of_blank (trimEnd_of_suffix h (List.suffix_cons c (d :: t)))
              (words_eq_nil_iff.mp hnone)
            exact List.cons_ne_nil _ _ hnil
          obtain ⟨word, more, hwords⟩ := List.exists_cons_of_ne_nil hne
          simp [hd, hwords, joinWords]
      · obtain ⟨d, t, rfl, hd⟩ := exists_of_opensWithInk hink
        rw [hjoined, hwords]
        cases more <;> simp [hd, joinWords]

/-- Texts of the same words differ in their white space only. -/
theorem collapse_congr {s t : Text} (hs : trim s = s) (ht : trim t = t)
    (h : words s = words t) : collapse s = collapse t := by
  have hwords : ∀ {x : Text}, trim x = x → collapse x = joinWords (words x) := by
    intro x hx
    cases x with
    | nil => rfl
    | cons c x =>
      obtain ⟨hopen, hend⟩ := ink_of_trim hx (by simp)
      have hc : isSpace c = false := by simpa [opensWithInk] using hopen
      simpa [hc] using collapse_eq hend
  rw [hwords hs, hwords ht, h]

end Docstring.Text
