-- Where the fields of a field list stand: each one at its marker line, its lines below, and the
-- next one below these, so that every line that is not blank is in a field.
import Docstring.Proofs.Document.Kept
import Docstring.Proofs.Rest.Outline
import Docstring.Rest.Parser

namespace Docstring.Rest

open Text

/-! ## Marker lines -/

/-- A line that starts with white space is no marker line. -/
theorem classify_of_isSpace {c : Char} (rest : Line) (h : isSpace c = true) :
    classify (c :: rest) = none := by
  have hcolon : c ≠ ':' := by
    rintro rfl
    exact absurd h (by decide)
  have hdot : c ≠ '.' := by
    rintro rfl
    exact absurd h (by decide)
  have hfield : field? (c :: rest) = none := field?_of_head (by simp [hcolon])
  have hdirective : directive? (c :: rest) = none := by
    unfold directive?
    split
    · simp_all
    · rfl
  simp [classify, hfield, hdirective]

theorem classify_of_isBlank {line : Line} (h : isBlank line = true) : classify line = none := by
  cases line with
  | nil => rfl
  | cons c rest => exact classify_of_isSpace rest (List.all_eq_true.mp h c (by simp))

theorem classify_of_indentWidth {line : Line} (h : 0 < indentWidth line) :
    classify line = none := by
  cases line with
  | nil => rfl
  | cons c rest =>
    apply classify_of_isSpace
    by_contra hc
    have hindent : isIndent c = false := by
      by_contra hindent
      exact hc (isSpace_of_isIndent (by simpa using hindent))
    simp [indentWidth, indentOf, hindent] at h

theorem field?_of_classify {line : Line} (h : classify line = none) : field? line = none := by
  unfold classify at h
  split at h
  · cases h
  · assumption

/-- A line that belongs to a field is no marker line, directives in an example apart. -/
theorem Field.classify_of_takes {f : Field} {line : Line} (h : f.takes line = true) :
    field? line = none ∧ (f.marker ≠ .block .examples → classify line = none) := by
  unfold takes at h
  split at h
  · rename_i hexamples
    exact ⟨Option.isNone_iff_eq_none.mp h, fun hne => absurd hexamples hne⟩
  · have hnone : classify line = none := by
      rw [Bool.or_eq_true, decide_eq_true_eq] at h
      exact h.elim classify_of_isBlank classify_of_indentWidth
    exact ⟨field?_of_classify hnone, fun _ => hnone⟩

theorem Field.takes_of_isBlank (f : Field) {line : Line} (h : isBlank line = true) :
    f.takes line = true := by
  unfold takes
  split
  · simp [field?_of_classify (classify_of_isBlank h)]
  · simp [h]

/-! ## Fields -/

/-- A field that stands in a text: its marker line, and the lines below that belong to it. -/
structure Field.At (lines : List Line) (f : Field) : Prop where
  marker : lines[f.first]?.bind classify = some (f.marker, f.text)
  body : StandsAt lines (f.first + 1) f.body
  taken : ∀ l ∈ f.body, f.takes l = true

theorem Field.At.push {lines rest : List Line} {line : Line} {f : Field} {n : Nat}
    (h : f.At lines) (hlast : f.last = n) (hline : lines.drop n = line :: rest)
    (htakes : f.takes line = true) : (f.push line).At lines where
  marker := h.marker
  body := h.body.concat (by rw [← hline, ← hlast]; rfl)
  taken l hl := by
    rcases List.mem_append.mp hl with hl | hl
    · exact h.taken l hl
    · rw [List.mem_singleton.mp hl]
      exact htakes

theorem Field.At.close {lines : List Line} {f : Field} (h : f.At lines) : f.close.At lines where
  marker := h.marker
  body := h.body.of_part (List.rdropWhile_prefix _ _)
  taken l hl := h.taken l ((List.rdropWhile_prefix _ _).subset hl)

@[simp] theorem Field.last_push (f : Field) (line : Line) : (f.push line).last = f.last + 1 := by
  simp [last, push, Nat.add_assoc]

theorem Field.last_close_le (f : Field) : f.close.last ≤ f.last :=
  Nat.add_le_add_left (List.rdropWhile_prefix _ f.body).length_le _

theorem Field.first_lt_last (f : Field) : f.first < f.last := by
  unfold last
  omega

/-- The fields of a text from line `lo` on: they stand in the text, one below the other, and every
line that is not blank is in one of them. -/
structure Laid (lines : List Line) (lo : Nat) (fields : List Field) : Prop where
  stands : ∀ f ∈ fields, f.At lines
  first : ∀ f ∈ fields, lo ≤ f.first
  sorted : fields.Pairwise fun f g => f.last ≤ g.first
  covers : ∀ i line, lo ≤ i → lines[i]? = some line → isBlank line = false →
    ∃ f ∈ fields, f.first ≤ i ∧ i < f.last

/-- The field that is open at line `n`; nothing else but blank lines has been read from line `lo`
on. -/
structure Opened (lines : List Line) (lo n : Nat) (current : Option Field) : Prop where
  le : lo ≤ n
  stands : ∀ f ∈ current, f.At lines
  first : ∀ f ∈ current, lo ≤ f.first
  last : ∀ f ∈ current, f.last = n
  covers : ∀ i line, lo ≤ i → i < n → lines[i]? = some line → isBlank line = false →
    ∃ f ∈ current, f.first ≤ i ∧ i < f.last

theorem opened_none (lines : List Line) (n : Nat) : Opened lines n n none where
  le := Nat.le_refl n
  stands := by simp
  first := by simp
  last := by simp
  covers := by omega

theorem opened_marker {lines rest : List Line} {line : Line} {n : Nat} {marker : Marker}
    {text : Text} (hline : lines.drop n = line :: rest)
    (hmarker : classify line = some (marker, text)) :
    Opened lines n (n + 1) (some ⟨marker, text, n, []⟩) := by
  have hget : lines[n]? = some line := by
    rw [← List.head?_drop, hline, List.head?_cons]
  refine ⟨Nat.le_succ n, ?_, ?_, ?_, ?_⟩
  · rintro f ⟨⟩
    exact ⟨by simp [hget, hmarker], List.nil_prefix, by simp⟩
  · rintro f ⟨⟩
    exact Nat.le_refl n
  · rintro f ⟨⟩
    rfl
  · intro i _ hle hlt _ _
    exact ⟨_, rfl, hle, hlt⟩

theorem Opened.push {lines rest : List Line} {line : Line} {lo n : Nat} {f : Field}
    (h : Opened lines lo n (some f)) (hline : lines.drop n = line :: rest)
    (htakes : f.takes line = true) : Opened lines lo (n + 1) (some (f.push line)) := by
  have hlast := h.last f rfl
  refine ⟨h.le.trans (Nat.le_succ n), ?_, ?_, ?_, ?_⟩
  · rintro g ⟨⟩
    exact (h.stands f rfl).push hlast hline htakes
  · rintro g ⟨⟩
    exact h.first f rfl
  · rintro g ⟨⟩
    rw [Field.last_push, hlast]
  · intro i l hle hlt hl hink
    refine ⟨_, rfl, ?_, by rwa [Field.last_push, hlast]⟩
    rcases Nat.lt_succ_iff_lt_or_eq.mp hlt with hlt | rfl
    · obtain ⟨g, ⟨⟩, hfirst, _⟩ := h.covers i l hle hlt hl hink
      exact hfirst
    · have hfirst := f.first_lt_last
      change f.first ≤ i
      omega

theorem Opened.blank {lines rest : List Line} {line : Line} {lo n : Nat}
    (h : Opened lines lo n none) (hline : lines.drop n = line :: rest)
    (hblank : isBlank line = true) : Opened lines lo (n + 1) none := by
  refine ⟨h.le.trans (Nat.le_succ n), by simp, by simp, by simp, ?_⟩
  intro i l hle hlt hl hink
  rcases Nat.lt_succ_iff_lt_or_eq.mp hlt with hlt | rfl
  · exact h.covers i l hle hlt hl hink
  · rw [← List.head?_drop, hline, List.head?_cons, Option.some.injEq] at hl
    rw [← hl, hblank] at hink
    cases hink

/-- The open field with the fields below it. -/
theorem Opened.append {lines : List Line} {lo n : Nat} {current : Option Field}
    {fields : List Field} (h : Opened lines lo n current) (hfields : Laid lines n fields) :
    Laid lines lo (current.toList ++ fields) where
  stands f hf := by
    rcases List.mem_append.mp hf with hf | hf
    · exact h.stands f (Option.mem_toList.mp hf)
    · exact hfields.stands f hf
  first f hf := by
    rcases List.mem_append.mp hf with hf | hf
    · exact h.first f (Option.mem_toList.mp hf)
    · exact h.le.trans (hfields.first f hf)
  sorted := by
    refine List.pairwise_append.mpr ⟨by cases current <;> simp, hfields.sorted, ?_⟩
    intro f hf g hg
    rw [h.last f (Option.mem_toList.mp hf)]
    exact hfields.first g hg
  covers i line hle hline hink := by
    rcases Nat.lt_or_ge i n with hlt | hge
    · obtain ⟨f, hf, hi⟩ := h.covers i line hle hlt hline hink
      exact ⟨f, by simp [Option.mem_def.mp hf], hi⟩
    · obtain ⟨f, hf, hi⟩ := hfields.covers i line hge hline hink
      exact ⟨f, by simp [hf], hi⟩

theorem laid_outlineFrom {lines rest : List Line} {lo n : Nat} {current : Option Field}
    (hrest : lines.drop n = rest) (hcurrent : Opened lines lo n current)
    (hstop : (outlineFrom n current rest).2 = none) :
    Laid lines lo (outlineFrom n current rest).1 := by
  fun_induction outlineFrom n current rest generalizing lo with
  | case1 n current =>
    have hend : Laid lines n [] := by
      refine ⟨by simp, by simp, by simp, ?_⟩
      intro i line hle hline _
      have hlt := (List.getElem?_eq_some_iff.mp hline).1
      rw [List.drop_eq_nil_iff] at hrest
      omega
    simpa using hcurrent.append hend
  | case2 n current line rest htakes ih =>
    cases current with
    | none => cases htakes
    | some f => exact ih (drop_succ_of_drop hrest) (hcurrent.push hrest htakes) hstop
  | case3 n current line rest htakes hblank ih =>
    cases current with
    | none => exact ih (drop_succ_of_drop hrest) (hcurrent.blank hrest hblank) hstop
    | some f => exact absurd (f.takes_of_isBlank hblank) (by simpa using htakes)
  | case4 n current line rest _ _ marker text hmarker fields stop hfound ih =>
    rw [hfound] at ih
    exact hcurrent.append (ih (drop_succ_of_drop hrest) (opened_marker hrest hmarker) hstop)
  | case5 => cases hstop

/-- Closing fields drops blank lines only. -/
theorem Laid.close {lines : List Line} {lo : Nat} {fields : List Field} (h : Laid lines lo fields) :
    Laid lines lo (fields.map Field.close) where
  stands f hf := by
    obtain ⟨g, hg, rfl⟩ := List.mem_map.mp hf
    exact (h.stands g hg).close
  first f hf := by
    obtain ⟨g, hg, rfl⟩ := List.mem_map.mp hf
    exact h.first g hg
  sorted := List.pairwise_map.mpr (h.sorted.imp fun {f g} hle => f.last_close_le.trans hle)
  covers i line hle hline hink := by
    obtain ⟨f, hf, hfirst, hlast⟩ := h.covers i line hle hline hink
    refine ⟨f.close, List.mem_map_of_mem hf, hfirst, ?_⟩
    rcases Nat.eq_or_lt_of_le hfirst with rfl | hlt
    · exact f.close.first_lt_last
    · obtain ⟨below, hbody, hlength⟩ := (h.stands f hf).body.split hlt hlast hline
      have hclose : f.close.body.length = i - (f.first + 1) + 1 + (dropBlankEnd below).length := by
        change (dropBlankEnd f.body).length = _
        rw [hbody, dropBlankEnd_append_ink _ _ hink, List.length_append, List.length_cons, hlength]
        omega
      unfold Field.last
      change i < f.first + 1 + f.close.body.length
      omega

theorem laid_outline {lines : List Line} {n : Nat} (h : (outline n (lines.drop n)).2 = none) :
    Laid lines n (outline n (lines.drop n)).1 :=
  (laid_outlineFrom rfl (opened_none lines n) h).close

end Docstring.Rest
