-- Where a string literal ends: at the first quotes that no backslash escapes. Text is scanned from
-- left to right, and of what was scanned only the last character counts, and whether it escapes the
-- next one. So a literal can be judged line by line.
import Docstring.Literal
import Docstring.Proofs.Text.Search

namespace Docstring

open Text

/-! ## Escapes -/

/-- Whether the character after a text is escaped, when `escaped` says so of the first one. -/
def escapesNext (escaped : Bool) (t : Text) : Bool :=
  t.foldl (fun escaped c => !escaped && c = '\\') escaped

@[simp] theorem escapesNext_nil (escaped : Bool) : escapesNext escaped [] = escaped := rfl

@[simp] theorem escapesNext_cons (escaped : Bool) (c : Char) (t : Text) :
    escapesNext escaped (c :: t) = escapesNext (!escaped && c = '\\') t := rfl

theorem escapesNext_append (escaped : Bool) (s t : Text) :
    escapesNext escaped (s ++ t) = escapesNext (escapesNext escaped s) t :=
  List.foldl_append

/-- Only a backslash at the end escapes what follows. -/
theorem getLast?_of_escapesNext {t : Text} (h : escapesNext false t = true) :
    t.getLast? = some '\\' := by
  induction t using List.reverseRecOn with
  | nil => simp at h
  | append_singleton t c _ =>
    rw [escapesNext_append] at h
    simp only [escapesNext_cons, escapesNext_nil, Bool.and_eq_true, decide_eq_true_eq] at h
    simp [h.2]

theorem escapesNext_of_notMem {t : Text} (h : '\\' ∉ t) : escapesNext false t = false := by
  by_contra hescapes
  rw [Bool.not_eq_false] at hescapes
  exact h (List.mem_of_getLast? (getLast?_of_escapesNext hescapes))

namespace Quote

variable {q : Quote} {escaped : Bool} {s t : Text} {line : Line}

/-! ## Quotes -/

theorem mem_text {c : Char} (h : c ∈ q.text) : c = q.char :=
  List.eq_of_mem_replicate h

theorem text_ne_nil (q : Quote) : q.text ≠ [] := by
  cases q <;> decide

theorem char_ne_backslash (q : Quote) : q.char ≠ '\\' := by
  cases q <;> decide

theorem char_ne_newline (q : Quote) : q.char ≠ '\n' := by
  cases q <;> decide

theorem startsWith_cons_of_ne {c : Char} (h : c ≠ q.char) :
    startsWith (c :: t) q.text = false := by
  by_contra hfound
  rw [Bool.not_eq_false, startsWith_iff] at hfound
  obtain ⟨d, more, hd⟩ := List.exists_cons_of_ne_nil q.text_ne_nil
  rw [hd] at hfound
  have hchar : d = q.char := mem_text (by simp [hd])
  exact h ((List.cons_prefix_cons.mp hfound).1.symm.trans hchar)

/-- Quotes that a line break follows are within the line. -/
theorem startsWith_append_newline (s t : Text) :
    startsWith (s ++ '\n' :: t) q.text = startsWith s q.text := by
  cases hstart : startsWith s q.text with
  | true =>
    have hs := startsWith_iff.mp hstart
    exact startsWith_iff.mpr (hs.trans (List.prefix_append _ _))
  | false =>
    have hnone : dropPrefix? s q.text = none := by simpa [startsWith] using hstart
    have hnewline : '\n' ∉ q.text := fun h => q.char_ne_newline (mem_text h).symm
    rw [startsWith, dropPrefix?_append_of_notMem t hnone hnewline]
    rfl

/-- Quotes that run into those at the end of a text have nothing before them but their own
character. -/
theorem startsWith_append_text (h : startsWith (s ++ q.text) q.text = true) :
    startsWith s q.text = true ∨ ∀ c ∈ s, c = q.char := by
  rw [startsWith_iff] at h
  rw [startsWith_iff]
  rcases List.prefix_or_prefix_of_prefix h (List.prefix_append s q.text) with hs | hs
  · exact .inl hs
  · exact .inr fun c hc => mem_text (hs.subset hc)

/-! ## The scan -/

/-- Do the quotes that end a literal come first at the very end of a text? What a backslash
escapes is skipped, and only triple quotes let a line break stand. -/
def closes (q : Quote) : Bool → Text → Bool
  | _, [] => false
  | true, _ :: t => q.closes false t
  | false, c :: t =>
    if startsWith (c :: t) q.text then t.length + 1 = q.text.length
    else (q.isTriple || c ≠ '\n') && q.closes (c = '\\') t

/-- Does a line hold no quotes that would end the literal? -/
def isFree (q : Quote) : Bool → Line → Bool
  | _, [] => true
  | true, _ :: t => q.isFree false t
  | false, c :: t => !startsWith (c :: t) q.text && q.isFree (c = '\\') t

/-- Would quotes right behind a line be escaped, or begin one character too early? -/
def endsOpen (q : Quote) (escaped : Bool) (line : Line) : Bool :=
  escapesNext escaped line ||
    (line.getLast? = some q.char && !escapesNext escaped line.dropLast)

@[simp] theorem endsOpen_nil (q : Quote) (escaped : Bool) : q.endsOpen escaped [] = escaped := by
  simp [endsOpen]

theorem endsOpen_cons (q : Quote) (c : Char) (hline : line ≠ []) :
    q.endsOpen escaped (c :: line) = q.endsOpen (!escaped && c = '\\') line := by
  simp [endsOpen, List.getLast?_cons_of_ne_nil, List.dropLast_cons_of_ne_nil, hline]

theorem endsOpen_of_escapesNext (h : escapesNext escaped line = true) :
    q.endsOpen escaped line = true := by
  simp [endsOpen, h]

theorem endsOpen_of_forall (hne : s ≠ []) (h : ∀ c ∈ s, c = q.char) :
    q.endsOpen false s = true := by
  have hback : '\\' ∉ s.dropLast := fun hmem =>
    q.char_ne_backslash (h _ (List.mem_of_mem_dropLast hmem)).symm
  have hlast : s.getLast? = some q.char := by
    rw [List.getLast?_eq_some_getLast hne, h _ (List.getLast_mem hne)]
  simp [endsOpen, hlast, escapesNext_of_notMem hback]

/-- A line ends the literal when it holds no quotes and stays apart from those behind it. -/
theorem closes_append_text (hline : '\n' ∉ line) :
    q.closes escaped (line ++ q.text) = (q.isFree escaped line && !q.endsOpen escaped line) := by
  induction line generalizing escaped with
  | nil => cases q <;> cases escaped <;> decide
  | cons c line ih =>
    have hc : c ≠ '\n' := fun h => hline (by simp [h])
    have hrest : '\n' ∉ line := fun h => hline (by simp [h])
    cases escaped with
    | true =>
      have hopen : q.endsOpen true (c :: line) = q.endsOpen false line := by
        cases line with
        | nil => simp [endsOpen]
        | cons d line => exact endsOpen_cons q c (by simp)
      rw [List.cons_append, closes, isFree, hopen]
      exact ih hrest
    | false =>
      rw [List.cons_append, closes, isFree]
      cases hstart : startsWith (c :: (line ++ q.text)) q.text with
      | false =>
        have hline : startsWith (c :: line) q.text = false := by
          by_contra hfound
          rw [Bool.not_eq_false, startsWith_iff] at hfound
          have hmore := startsWith_iff.mpr (hfound.trans (List.prefix_append _ q.text))
          exact Bool.false_ne_true (hstart.symm.trans hmore)
        have hopen : q.endsOpen false (c :: line) = q.endsOpen (c = '\\') line := by
          cases line with
          | nil =>
            have hchar : c ≠ q.char := by
              rintro rfl
              exact absurd hstart (by cases q <;> decide)
            simp [endsOpen, hchar]
          | cons d line => exact endsOpen_cons q c (by simp)
        rw [hline, hopen]
        simpa [hc] using @ih (c = '\\') hrest
      | true =>
        have hlength : (line ++ q.text).length + 1 ≠ q.text.length := by
          rw [List.length_append]
          omega
        rw [if_pos rfl, decide_eq_false hlength]
        rcases startsWith_append_text (s := c :: line) hstart with hfound | hchars
        · simp [hfound]
        · simp [endsOpen_of_forall (by simp) hchars]

/-- A line break is escaped by its line, or stands between triple quotes. -/
theorem closes_append_newline (hline : '\n' ∉ line) :
    q.closes escaped (line ++ '\n' :: t) =
      (q.isFree escaped line && (q.isTriple || escapesNext escaped line) && q.closes false t) := by
  induction line generalizing escaped with
  | nil =>
    cases escaped with
    | true => simp [closes, isFree]
    | false =>
      have hstart := q.startsWith_append_newline [] t
      have hnil : startsWith [] q.text = false := by cases q <;> decide
      rw [hnil, List.nil_append] at hstart
      simp [closes, isFree, hstart]
  | cons c line ih =>
    have hc : c ≠ '\n' := fun h => hline (by simp [h])
    have hrest : '\n' ∉ line := fun h => hline (by simp [h])
    cases escaped with
    | true =>
      rw [List.cons_append, closes, isFree, escapesNext_cons]
      exact ih hrest
    | false =>
      have hstart := q.startsWith_append_newline (c :: line) t
      rw [List.cons_append] at hstart
      rw [List.cons_append, closes, isFree, hstart, escapesNext_cons]
      cases hfound : startsWith (c :: line) q.text with
      | false => simpa [hc] using @ih (c = '\\') hrest
      | true =>
        have hshort := (startsWith_iff.mp hfound).length_le
        rw [List.length_cons] at hshort
        have hlength : (line ++ '\n' :: t).length + 1 ≠ q.text.length := by
          rw [List.length_append, List.length_cons]
          omega
        simp only [if_true, decide_eq_false hlength, Bool.not_true, Bool.false_and]

/-! ## Lines -/

/-- Lines that one literal can hold, each judged on its own. -/
structure Holds (q : Quote) (lines : List Line) : Prop where
  free : ∀ line ∈ lines, q.isFree false line = true
  continued : ∀ line ∈ lines.dropLast, q.isTriple = true ∨ escapesNext false line = true
  ends : ∀ line ∈ lines.getLast?, q.endsOpen false line = false

theorem holds_concat_iff {init : List Line} :
    q.Holds (init ++ [line]) ↔ (∀ x ∈ init, q.isFree false x = true ∧
      (q.isTriple = true ∨ escapesNext false x = true)) ∧
      q.isFree false line = true ∧ q.endsOpen false line = false := by
  constructor
  · intro h
    exact ⟨fun x hx => ⟨h.free x (by simp [hx]), h.continued x (by simpa using hx)⟩,
      h.free line (by simp), h.ends line (by simp)⟩
  · rintro ⟨hinit, hfree, hends⟩
    refine ⟨?_, by simpa using fun x hx => (hinit x hx).2, by simpa using hends⟩
    intro x hx
    rcases List.mem_append.mp hx with hx | hx
    · exact (hinit x hx).1
    · exact List.mem_singleton.mp hx ▸ hfree

theorem holds_singleton_iff :
    q.Holds [line] ↔ q.isFree false line = true ∧ q.endsOpen false line = false := by
  have h : q.Holds ([] ++ [line]) ↔ _ := holds_concat_iff
  simpa using h

theorem holds_cons_iff {lines : List Line} (hne : lines ≠ []) :
    q.Holds (line :: lines) ↔ (q.isFree false line = true ∧
      (q.isTriple = true ∨ escapesNext false line = true)) ∧ q.Holds lines := by
  have hdrop : (line :: lines).dropLast = line :: lines.dropLast :=
    List.dropLast_cons_of_ne_nil hne
  have hlast : (line :: lines).getLast? = lines.getLast? := List.getLast?_cons_of_ne_nil hne
  constructor
  · intro h
    refine ⟨⟨h.free line (by simp), h.continued line (by simp [hdrop])⟩, ?_, ?_, ?_⟩
    · exact fun l hl => h.free l (by simp [hl])
    · exact fun l hl => h.continued l (by simp [hdrop, hl])
    · exact fun l hl => h.ends l (by rwa [hlast])
  · rintro ⟨⟨hfree, hcontinued⟩, h⟩
    refine ⟨?_, ?_, ?_⟩
    · simpa [hfree] using h.free
    · simpa [hdrop, hcontinued] using h.continued
    · simpa [hlast] using h.ends

/-- A literal ends where it should when its lines can stand between the quotes. -/
theorem closes_joinLines_iff {lines : List Line} (h : ∀ line ∈ lines, '\n' ∉ line) :
    q.closes false (joinLines lines ++ q.text) = true ↔ q.Holds lines := by
  induction lines with
  | nil =>
    have hquotes : q.closes false q.text = true := by cases q <;> decide
    exact ⟨fun _ => ⟨by simp, by simp, by simp⟩, fun _ => hquotes⟩
  | cons line lines ih =>
    have hline : '\n' ∉ line := h line (by simp)
    by_cases hne : lines = []
    · subst hne
      rw [joinLines_singleton, closes_append_text hline, holds_singleton_iff]
      simp
    · rw [joinLines_cons line hne, List.append_assoc, List.cons_append,
        closes_append_newline hline, holds_cons_iff hne,
        ← ih fun l hl => h l (by simp [hl])]
      simp [Bool.and_eq_true, Bool.or_eq_true]

/-! ## Lines without quotes -/

/-- What cannot change where a literal ends: no backslash, no quotes and no line break. -/
structure IsInert (q : Quote) (t : Text) : Prop where
  backslash : '\\' ∉ t
  quote : q.char ∉ t
  newline : '\n' ∉ t

theorem isInert_nil (q : Quote) : q.IsInert [] := ⟨by simp, by simp, by simp⟩

theorem isFree_of_contains (h : contains t q.text = false) : q.isFree escaped t = true := by
  induction t generalizing escaped with
  | nil => cases escaped <;> rfl
  | cons c t ih =>
    rw [contains, Bool.or_eq_false_iff] at h
    cases escaped with
    | true => exact ih h.2
    | false => simp [isFree, h.1, ih h.2]

theorem contains_of_notMem (h : q.char ∉ t) : contains t q.text = false := by
  by_contra hfound
  rw [Bool.not_eq_false, contains_iff] at hfound
  obtain ⟨c, hc⟩ := List.exists_mem_of_ne_nil _ q.text_ne_nil
  exact h (mem_text hc ▸ hfound.subset hc)

theorem isFree_append_of_isInert (hs : q.IsInert s) :
    q.isFree false (s ++ t) = q.isFree false t := by
  induction s with
  | nil => rfl
  | cons c s ih =>
    have hquote : c ≠ q.char := fun h => hs.quote (by simp [h])
    have hback : c ≠ '\\' := fun h => hs.backslash (by simp [h])
    have hrest := ih ⟨fun h => hs.backslash (by simp [h]), fun h => hs.quote (by simp [h]),
      fun h => hs.newline (by simp [h])⟩
    rw [List.cons_append, isFree, startsWith_cons_of_ne hquote, decide_eq_false hback, hrest]
    rfl

theorem escapesNext_append_of_isInert (hs : q.IsInert s) :
    escapesNext false (s ++ t) = escapesNext false t := by
  rw [escapesNext_append, escapesNext_of_notMem hs.backslash]

theorem endsOpen_append_of_isInert (hs : q.IsInert s) :
    q.endsOpen false (s ++ t) = q.endsOpen false t := by
  by_cases hne : t = []
  · subst hne
    have hback : escapesNext false s = false := escapesNext_of_notMem hs.backslash
    have hquote : s.getLast? ≠ some q.char := fun h => hs.quote (List.mem_of_getLast? h)
    simp [endsOpen, hback, hquote]
  · have hlast : (s ++ t).getLast? = t.getLast? := List.getLast?_append_of_ne_nil s hne
    have hinit : (s ++ t).dropLast = s ++ t.dropLast := List.dropLast_append_of_ne_nil hne
    rw [endsOpen, hlast, hinit, escapesNext_append_of_isInert hs,
      escapesNext_append_of_isInert hs, endsOpen]

theorem IsInert.isFree (h : q.IsInert t) : q.isFree false t = true :=
  isFree_of_contains (contains_of_notMem h.quote)

theorem IsInert.endsOpen (h : q.IsInert t) : q.endsOpen false t = false := by
  simpa using endsOpen_append_of_isInert (t := []) h

theorem isInert_of_isBlank (h : isBlank t = true) (hn : '\n' ∉ t) : q.IsInert t := by
  have hspace : ∀ c ∈ t, isSpace c = true := List.all_eq_true.mp h
  refine ⟨fun hmem => ?_, fun hmem => ?_, hn⟩
  · exact absurd (hspace _ hmem) (by decide)
  · exact absurd (hspace _ hmem) (by cases q <;> decide)

/-- A line without quotes that ends in neither a backslash nor a quote. -/
theorem endsOpen_of_getLast? (hback : t.getLast? ≠ some '\\') (hquote : t.getLast? ≠ some q.char) :
    q.endsOpen false t = false := by
  have hescapes : escapesNext false t = false := by
    by_contra h
    exact hback (getLast?_of_escapesNext (by simpa using h))
  simp [endsOpen, hescapes, hquote]

end Quote

end Docstring
