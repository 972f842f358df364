-- Texts of whole lines. A text that follows one starts on a line of its own, so that the lines of
-- both stand one after the other; and the line bounds around a byte offset are where such texts
-- end.
import Docstring.Proofs.Text.Lines
import Docstring.Proofs.Text.Offset
import Mathlib.Data.List.DropRight

namespace Docstring.Text

/-! ## Whole lines -/

/-- Nothing, or lines of which the last one is ended, too. -/
def IsWhole (t : Text) : Prop := ∀ c ∈ t.getLast?, c = '\n'

instance : DecidablePred IsWhole := fun t =>
  decidable_of_iff (t.getLast?.all (· == '\n') = true) (by simp [IsWhole, Option.all_eq_true])

theorem isWhole_nil : IsWhole [] := by decide

theorem isWhole_append_newline (t : Text) : IsWhole (t ++ ['\n']) := by
  simp [IsWhole]

theorem IsWhole.cases {t : Text} (h : IsWhole t) : t = [] ∨ ∃ s, t = s ++ ['\n'] := by
  rcases List.eq_nil_or_concat' t with rfl | ⟨s, c, rfl⟩
  · exact Or.inl rfl
  · exact Or.inr ⟨s, by rw [h c (by simp)]⟩

theorem isWhole_append_iff {t : Text} (s : Text) (hne : t ≠ []) : IsWhole (s ++ t) ↔ IsWhole t := by
  rw [IsWhole, IsWhole, List.getLast?_append_of_ne_nil s hne]

theorem IsWhole.append {s t : Text} (hs : IsWhole s) (ht : IsWhole t) : IsWhole (s ++ t) := by
  by_cases hne : t = []
  · simpa [hne] using hs
  · exact (isWhole_append_iff s hne).mpr ht

/-- What is left of whole lines below some text. -/
theorem IsWhole.of_append {s t : Text} (h : IsWhole (s ++ t)) : IsWhole t := by
  by_cases hne : t = []
  · simp [hne, isWhole_nil]
  · exact (isWhole_append_iff s hne).mp h

/-! ## Lines -/

theorem splitLines_newline_append (s t : Text) :
    splitLines (s ++ '\n' :: t) = splitLines s ++ splitLines t := by
  induction s with
  | nil => simp
  | cons c s ih =>
    by_cases hc : c = '\n'
    · subst hc
      rw [List.cons_append, splitLines_newline, ih, splitLines_newline, List.cons_append]
    · obtain ⟨line, rest, hs, hcons⟩ := splitLines_cons hc s
      obtain ⟨line', rest', hs', hcons'⟩ := splitLines_cons hc (s ++ '\n' :: t)
      rw [ih, hs, List.cons_append, List.cons.injEq] at hs'
      rw [List.cons_append, hcons', hcons, ← hs'.1, ← hs'.2, List.cons_append]

@[simp] theorem terminatedLines_nil : terminatedLines [] = [] := rfl

theorem terminatedLines_newline (s : Text) :
    terminatedLines (s ++ ['\n']) = (splitLines s).map dropReturn := by
  have hsplit : splitLines (s ++ ['\n']) = splitLines s ++ [[]] := by
    rw [splitLines_newline_append, splitLines_nil]
  simp [terminatedLines, hsplit]

/-- Lines below whole lines stay as they are. -/
theorem terminatedLines_append {s : Text} (t : Text) (h : IsWhole s) :
    terminatedLines (s ++ t) = terminatedLines s ++ terminatedLines t := by
  rcases h.cases with rfl | ⟨above, rfl⟩
  · rfl
  · have hne := splitLines_ne_nil t
    rw [terminatedLines_newline, List.append_assoc, List.singleton_append]
    unfold terminatedLines
    simp only [splitLines_newline_append, List.dropLast_append_of_ne_nil hne,
      List.getLast?_append_of_ne_nil _ hne, List.map_append, List.append_assoc]

theorem length_splitLines (t : Text) : (splitLines t).length = t.count '\n' + 1 := by
  induction t with
  | nil => rfl
  | cons c t ih =>
    by_cases hc : c = '\n'
    · subst hc
      simp [ih]
    · obtain ⟨line, rest, hs, hcons⟩ := splitLines_cons hc t
      rw [hs] at ih
      rw [hcons, List.count_cons_of_ne hc, ← ih, List.length_cons, List.length_cons]

/-- The last line of a text is empty only where a newline ended the line above. -/
theorem isWhole_of_getLast?_splitLines {t : Text} (h : (splitLines t).getLast? = some []) :
    IsWhole t := by
  induction t with
  | nil => exact isWhole_nil
  | cons c t ih =>
    have hne := splitLines_ne_nil t
    by_cases hc : c = '\n'
    · subst hc
      rw [splitLines_newline, List.getLast?_cons_of_ne_nil hne] at h
      by_cases ht : t = []
      · simp [ht, IsWhole]
      · exact (isWhole_append_iff ['\n'] ht).mpr (ih h)
    · obtain ⟨line, rest, hs, hcons⟩ := splitLines_cons hc t
      rw [hcons] at h
      cases rest with
      | nil => simp at h
      | cons next rest =>
        have ht : t ≠ [] := by
          rintro rfl
          simp at hs
        rw [hs, List.getLast?_cons_cons] at ih
        rw [List.getLast?_cons_cons] at h
        exact (isWhole_append_iff [c] ht).mpr (ih h)

/-- Every newline ends a line, and there is one more line if the last one is not ended. -/
theorem length_terminatedLines (t : Text) :
    (terminatedLines t).length = t.count '\n' + if IsWhole t then 0 else 1 := by
  by_cases h : IsWhole t
  · rcases h.cases with rfl | ⟨s, rfl⟩
    · rfl
    · rw [terminatedLines_newline, List.length_map, length_splitLines, if_pos h]
      simp
  · obtain ⟨last, hlast⟩ : ∃ last, (splitLines t).getLast? = some last :=
      ⟨_, List.getLast?_eq_some_getLast (splitLines_ne_nil t)⟩
    have hne : last ≠ [] := by
      rintro rfl
      exact h (isWhole_of_getLast?_splitLines hlast)
    have hlength := length_splitLines t
    simp [terminatedLines, hlast, hne, h, hlength]

/-! ## Line bounds -/

/-- Walking on over a text behind another one. -/
theorem walk_append (left right : Text) (p : Position) (offset : Nat) :
    walk p (left ++ right) (byteLength left + offset) =
      walk (left.foldl Position.advance p) right offset := by
  induction left generalizing p with
  | nil => simp
  | cons c left ih =>
    have hpos : 0 < c.utf8Size := c.utf8Size_pos
    have hrest : c.utf8Size + byteLength left + offset - c.utf8Size = byteLength left + offset := by
      omega
    rw [List.cons_append, byteLength_cons, walk, if_neg (by omega), hrest, ih, List.foldl_cons]

theorem position_append (left right : Text) :
    position (left ++ right) (byteLength left) = left.foldl Position.advance .start := by
  have hwalk := walk_append left right .start 0
  rw [Nat.add_zero] at hwalk
  rw [position, hwalk]
  cases right <;> rfl

/-- Every newline starts a line. -/
theorem line_foldl_advance (t : Text) (p : Position) :
    (t.foldl Position.advance p).line = p.line + t.count '\n' := by
  induction t generalizing p with
  | nil => rfl
  | cons c t ih =>
    rw [List.foldl_cons, ih]
    by_cases hc : c = '\n'
    · subst hc
      simp only [Position.advance, if_true, List.count_cons_self]
      omega
    · simp [Position.advance, hc, List.count_cons_of_ne hc]

theorem line_position_append (left right : Text) :
    (position (left ++ right) (byteLength left)).line = 1 + left.count '\n' := by
  rw [position_append, line_foldl_advance]
  rfl

theorem byteLength_reverse (t : Text) : byteLength t.reverse = byteLength t := by
  induction t with
  | nil => rfl
  | cons c t ih =>
    rw [List.reverse_cons, byteLength_append, ih, byteLength_cons, byteLength_cons, byteLength_nil]
    omega

/-- The line that holds a cut starts where the whole lines before it end. -/
theorem lineStart?_append (left right : Text) :
    ∃ whole part, left = whole ++ part ∧ IsWhole whole ∧ '\n' ∉ part ∧
      lineStart? (left ++ right) (byteLength left) = some (byteLength whole) := by
  have hparts : left = left.rdropWhile (· ≠ '\n') ++
      (left.reverse.takeWhile (· ≠ '\n')).reverse := by
    rw [List.rdropWhile, ← List.reverse_append, List.takeWhile_append_dropWhile,
      List.reverse_reverse]
  refine ⟨_, _, hparts, ?_, ?_, ?_⟩
  · intro c hc
    have hne : left.rdropWhile (· ≠ '\n') ≠ [] := by
      intro hnil
      rw [hnil] at hc
      simp at hc
    have hlast := List.rdropWhile_last_not (fun c => decide (c ≠ '\n')) left hne
    rw [List.getLast?_eq_some_getLast hne, Option.mem_some_iff] at hc
    rw [← hc]
    simpa using hlast
  · intro hmem
    simpa using List.mem_takeWhile_imp (List.mem_reverse.mp hmem)
  · have hmin : min (byteLength left) (byteLength (left ++ right)) = byteLength left := by
      rw [byteLength_append]
      omega
    have hlength := congrArg byteLength hparts
    rw [byteLength_append, byteLength_reverse] at hlength
    simp only [lineStart?, hmin, cut?_append, Option.map_some]
    congr 1
    omega

/-- What is left of a line, with the newline that ends it. -/
def lineTail : Text → Text
  | [] => []
  | c :: t => if c = '\n' then [c] else c :: lineTail t

theorem exists_lineTail (t : Text) :
    ∃ below, t = lineTail t ++ below ∧ (below = [] ∨ ∀ s, IsWhole (s ++ lineTail t)) := by
  induction t with
  | nil => exact ⟨[], rfl, Or.inl rfl⟩
  | cons c t ih =>
    by_cases hc : c = '\n'
    · subst hc
      exact ⟨t, by simp [lineTail],
        Or.inr fun s => by simpa [lineTail] using isWhole_append_newline s⟩
    · obtain ⟨below, ht, hends⟩ := ih
      refine ⟨below, by rw [lineTail, if_neg hc, List.cons_append, ← ht], hends.imp_right ?_⟩
      intro hwhole s
      rw [lineTail, if_neg hc, List.append_cons]
      exact hwhole _

theorem byteLength_lineTail_append_le (s t : Text) :
    byteLength (lineTail (s ++ t)) ≤ byteLength s + byteLength (lineTail t) := by
  induction s with
  | nil => simp
  | cons c s ih =>
    rw [List.cons_append, lineTail]
    split
    · simp only [byteLength_cons, byteLength_nil]
      omega
    · simp only [byteLength_cons]
      omega

theorem byteLength_lineTail (t : Text) :
    byteLength (lineTail t) = byteLength (t.takeWhile (· ≠ '\n')) +
      if (t.takeWhile (· ≠ '\n')).length < t.length then 1 else 0 := by
  induction t with
  | nil => rfl
  | cons c t ih =>
    by_cases hc : c = '\n'
    · subst hc
      rfl
    · simp [lineTail, hc, ih, Nat.add_assoc]

theorem lineEnd?_append (left right : Text) :
    lineEnd? (left ++ right) (byteLength left) =
      some (byteLength left + byteLength (lineTail right)) := by
  have hmin : min (byteLength left) (byteLength (left ++ right)) = byteLength left := by
    rw [byteLength_append]
    omega
  simp only [lineEnd?, hmin, cut?_append, Option.map_some, byteLength_lineTail, Nat.add_assoc]

end Docstring.Text
