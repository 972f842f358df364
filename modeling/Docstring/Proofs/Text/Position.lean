-- Places and line bounds agree. Counting lines and columns up to an offset, looking for the newlines
-- around it and naming the lines of a span are three walks over the text; each says what stands in
-- the text before the offset. The counters fit words of 32 bits.
import Docstring.Proofs.Text.Whole

namespace Docstring

namespace Position

/-! ## The order of places -/

/-- The order of reading: line by line, and on a line column by column. -/
def Precedes (p q : Position) : Prop :=
  p.line < q.line ∨ p.line = q.line ∧ p.column < q.column

instance (p q : Position) : Decidable (p.Precedes q) := inferInstanceAs (Decidable (_ ∨ _))

theorem Precedes.trans {p q r : Position} (h : p.Precedes q) (h' : q.Precedes r) :
    p.Precedes r := by
  unfold Precedes at *
  omega

theorem Precedes.asymm {p q : Position} (h : p.Precedes q) : ¬q.Precedes p := by
  unfold Precedes at *
  omega

theorem not_precedes_self (p : Position) : ¬p.Precedes p := fun h => h.asymm h

theorem precedes_advance (p : Position) (c : Char) : p.Precedes (p.advance c) := by
  unfold advance
  split
  · exact .inl (Nat.lt_succ_self p.line)
  · exact .inr ⟨rfl, Nat.lt_succ_self p.column⟩

theorem precedes_foldl_advance (p : Position) {t : Text} (hne : t ≠ []) :
    p.Precedes (t.foldl advance p) := by
  induction t generalizing p with
  | nil => exact absurd rfl hne
  | cons c t ih =>
    rw [List.foldl_cons]
    by_cases ht : t = []
    · subst ht
      exact precedes_advance p c
    · exact (precedes_advance p c).trans (ih (p.advance c) ht)

/-- Both numbers fit words of 32 bits. -/
def FitsWords (p : Position) : Prop := p.line < UInt32.size ∧ p.column < UInt32.size

instance (p : Position) : Decidable p.FitsWords := inferInstanceAs (Decidable (_ ∧ _))

end Position

namespace Text

/-- A later offset stands for a later place. -/
theorem precedes_of_lt {t : Text} {o o' : Nat} (h : HasBoundary t o) (h' : HasBoundary t o')
    (hlt : o < o') : (position t o).Precedes (position t o') := by
  obtain ⟨left, right, rfl, rfl⟩ := h
  obtain ⟨left', right', htext, rfl⟩ := h'
  obtain ⟨between, rfl, rfl⟩ := exists_between htext (Nat.le_of_lt hlt)
  have hne : between ≠ [] := by
    rintro rfl
    simp at hlt
  rw [position_append, htext, position_append, List.foldl_append]
  exact Position.precedes_foldl_advance _ hne

theorem precedes_iff {t : Text} {o o' : Nat} (h : HasBoundary t o) (h' : HasBoundary t o') :
    (position t o).Precedes (position t o') ↔ o < o' := by
  refine ⟨fun hp => ?_, precedes_of_lt h h'⟩
  rcases Nat.lt_trichotomy o o' with hlt | rfl | hlt
  · exact hlt
  · exact absurd hp (Position.not_precedes_self _)
  · exact absurd (precedes_of_lt h' h hlt) hp.asymm

/-- No two offsets stand for one place. -/
theorem position_inj {t : Text} {o o' : Nat} (h : HasBoundary t o) (h' : HasBoundary t o')
    (hsame : position t o = position t o') : o = o' := by
  have hnot : ∀ {x y}, HasBoundary t x → HasBoundary t y → position t x = position t y → ¬x < y := by
    intro x y hx hy hxy hlt
    have hp := precedes_of_lt hx hy hlt
    rw [hxy] at hp
    exact Position.not_precedes_self _ hp
  have hle := hnot h h' hsame
  have hge := hnot h' h hsame.symm
  omega

/-! ## Columns -/

theorem column_foldl_advance {t : Text} (h : '\n' ∉ t) (p : Position) :
    (t.foldl Position.advance p).column = p.column + t.length := by
  induction t generalizing p with
  | nil => rfl
  | cons c t ih =>
    simp only [List.mem_cons, not_or] at h
    rw [List.foldl_cons, ih h.2, Position.advance, if_neg (Ne.symm h.1), List.length_cons]
    dsimp only
    omega

/-- Below whole lines stands the first column. -/
theorem column_of_isWhole {t : Text} (h : IsWhole t) :
    (t.foldl Position.advance .start).column = 1 := by
  rcases h.cases with rfl | ⟨s, rfl⟩
  · rfl
  · rw [List.foldl_append]
    rfl

theorem position_below {above part : Text} (right : Text) (habove : IsWhole above)
    (hpart : '\n' ∉ part) :
    position (above ++ part ++ right) (byteLength (above ++ part)) =
      ⟨1 + (above ++ part).count '\n', 1 + part.length⟩ := by
  have hline := line_position_append (above ++ part) right
  have hcolumn : (position (above ++ part ++ right) (byteLength (above ++ part))).column =
      1 + part.length := by
    rw [position_append, List.foldl_append, column_foldl_advance hpart, column_of_isWhole habove]
  rw [← hline, ← hcolumn]

/-! ## Lines around offsets -/

/-- An offset on its line. The text is cut where the line starts, at the offset, and where the line
ends: the bounds are the first and the last cut, the place counts the newlines before the offset and
the characters from the start of the line on, and only the last character of the line may be a
newline. The line reaches from a newline, or the start of the text, to a newline or its end. -/
structure OnLine (t : Text) (offset : Nat) (above part tail below : Text) : Prop where
  text : t = above ++ part ++ tail ++ below
  cut : byteLength (above ++ part) = offset
  start : lineStart? t offset = some (byteLength above)
  finish : lineEnd? t offset = some (byteLength (above ++ part ++ tail))
  bounds : byteLength above ≤ offset ∧ offset ≤ byteLength (above ++ part ++ tail)
  position : position t offset = ⟨1 + (above ++ part).count '\n', 1 + part.length⟩
  newline : '\n' ∉ (part ++ tail).dropLast
  opens : IsWhole above
  closes : below = [] ∨ tail.getLast? = some '\n'

theorem newline_notMem_dropLast_lineTail (t : Text) : '\n' ∉ (lineTail t).dropLast := by
  induction t with
  | nil => simp [lineTail]
  | cons c t ih =>
    rw [lineTail]
    split
    · simp
    · rename_i hc
      cases htail : lineTail t with
      | nil => simp
      | cons d rest =>
        rw [htail] at ih
        rw [List.dropLast_cons_of_ne_nil (by simp), List.mem_cons, not_or]
        exact ⟨Ne.symm hc, ih⟩

theorem newline_notMem_dropLast_append {part : Text} (t : Text) (h : '\n' ∉ part) :
    '\n' ∉ (part ++ lineTail t).dropLast := by
  by_cases htail : lineTail t = []
  · rw [htail, List.append_nil]
    exact fun hmem => h (List.dropLast_subset part hmem)
  · rw [List.dropLast_append_of_ne_nil htail, List.mem_append, not_or]
    exact ⟨h, newline_notMem_dropLast_lineTail t⟩

theorem getLast?_of_isWhole {t : Text} (h : ∀ s, IsWhole (s ++ t)) : t.getLast? = some '\n' := by
  rcases List.eq_nil_or_concat' t with rfl | ⟨init, last, rfl⟩
  · exact absurd (h ['x'] 'x' (by simp)) (by decide)
  · rw [List.getLast?_concat, h [] last (by simp)]

theorem exists_onLine {t : Text} {offset : Nat} (h : HasBoundary t offset) :
    ∃ above part tail below, OnLine t offset above part tail below := by
  obtain ⟨left, right, rfl, rfl⟩ := h
  obtain ⟨above, part, rfl, habove, hpart, hstart⟩ := lineStart?_append left right
  obtain ⟨below, hright, hends⟩ := exists_lineTail right
  have hfinish := lineEnd?_append (above ++ part) right
  rw [← byteLength_append] at hfinish
  refine ⟨above, part, lineTail right, below, ?_, rfl, hstart, hfinish, ?_,
    position_below right habove hpart, newline_notMem_dropLast_append right hpart, habove,
    hends.imp_right getLast?_of_isWhole⟩
  · rw [List.append_assoc (above ++ part), ← hright]
  · simp only [byteLength_append]
    omega

/-! ## Bytes of spans -/

/-- The byte belongs to a character that stands on this line. -/
def IsByteOf (t : Text) (byte line : Nat) : Prop :=
  ∃ left c right, t = left ++ c :: right ∧ byteLength left ≤ byte ∧
    byte < byteLength left + c.utf8Size ∧ line = 1 + left.count '\n'

theorem exists_char_of_lt {t : Text} {byte : Nat} (h : byte < byteLength t) :
    ∃ left c right, t = left ++ c :: right ∧ byteLength left ≤ byte ∧
      byte < byteLength left + c.utf8Size := by
  induction t generalizing byte with
  | nil => exact absurd h (Nat.not_lt_zero byte)
  | cons c t ih =>
    by_cases hfirst : byte < c.utf8Size
    · exact ⟨[], c, t, rfl, Nat.zero_le _, by simpa using hfirst⟩
    · rw [byteLength_cons] at h
      have hrest : byte - c.utf8Size < byteLength t := by omega
      obtain ⟨left, d, right, rfl, hle, hlt⟩ := ih hrest
      refine ⟨c :: left, d, right, rfl, ?_, ?_⟩
      · rw [byteLength_cons]
        omega
      · rw [byteLength_cons]
        omega

/-- A byte inside a character stands for the place after it, which is on the same line: a newline is
a single byte. -/
theorem line_position_of_byte {left right : Text} {c : Char} {byte : Nat}
    (hle : byteLength left ≤ byte) (hlt : byte < byteLength left + c.utf8Size) :
    (position (left ++ c :: right) byte).line = 1 + left.count '\n' := by
  obtain ⟨inside, rfl⟩ := Nat.exists_eq_add_of_le hle
  have hline : (left.foldl Position.advance .start).line = 1 + left.count '\n' :=
    line_foldl_advance left .start
  rw [← hline, position, walk_append]
  cases inside with
  | zero => rfl
  | succ inside =>
    have hc : c ≠ '\n' := by
      rintro rfl
      have hone : '\n'.utf8Size = 1 := by decide
      omega
    have hrest : inside + 1 - c.utf8Size = 0 := by omega
    rw [walk, if_neg (by omega), hrest]
    cases right <;> simp [walk, Position.advance, hc]

theorem isByteOf_iff {t : Text} {byte line : Nat} (h : byte < byteLength t) :
    IsByteOf t byte line ↔ (position t byte).line = line := by
  constructor
  · rintro ⟨left, c, right, rfl, hle, hlt, rfl⟩
    exact line_position_of_byte hle hlt
  · rintro rfl
    obtain ⟨left, c, right, rfl, hle, hlt⟩ := exists_char_of_lt h
    exact ⟨left, c, right, rfl, hle, hlt, line_position_of_byte hle hlt⟩

theorem lineRange_eq_iff {t : Text} {first last n m : Nat} (hne : first < last)
    (hlast : last ≤ byteLength t) :
    lineRange t first last = (n, m) ↔ IsByteOf t first n ∧ IsByteOf t (last - 1) m := by
  have hmax : max (last - 1) first = last - 1 := by omega
  rw [isByteOf_iff (by omega), isByteOf_iff (by omega), lineRange, hmax, Prod.mk.injEq]

/-! ## Counters -/

/-- A counter moves on by one for each character at most. -/
theorem walk_le (p : Position) (t : Text) (offset : Nat) :
    (walk p t offset).line ≤ p.line + byteLength t ∧
      (walk p t offset).column ≤ p.column + byteLength t := by
  fun_induction walk p t offset with
  | case1 p => exact ⟨Nat.le_refl _, Nat.le_refl _⟩
  | case2 p c rest => exact ⟨Nat.le_add_right _ _, Nat.le_add_right _ _⟩
  | case3 p c rest offset _ ih =>
    have hsize := c.utf8Size_pos
    have hnext : (p.advance c).line ≤ p.line + 1 ∧ (p.advance c).column ≤ p.column + 1 := by
      unfold Position.advance
      split <;> simp
    rw [byteLength_cons]
    omega

theorem position_fitsWords {t : Text} (h : byteLength t + 1 < UInt32.size) (offset : Nat) :
    (position t offset).FitsWords := by
  obtain ⟨hline, hcolumn⟩ := walk_le .start t offset
  have hstart : Position.start.line = 1 ∧ Position.start.column = 1 := ⟨rfl, rfl⟩
  unfold Position.FitsWords position
  omega

/-! ## Agreement -/

/-- The place of an offset between two characters counts the newlines before it and the characters
behind the start of its line; places are ordered as the offsets are, and no two are the same; the
lines of a span are those of its first and its last byte, whole character or not; and the numbers fit
words of 32 bits, unless the text is longer than those can count. -/
theorem places_and_line_bounds_agree (t : Text) :
    (∀ offset, HasBoundary t offset →
      ∃ above part tail below, OnLine t offset above part tail below) ∧
    (∀ o o', HasBoundary t o → HasBoundary t o' →
      (position t o = position t o' → o = o') ∧
        ((position t o).Precedes (position t o') ↔ o < o')) ∧
    (∀ first last, first < last → last ≤ byteLength t → ∀ n m,
      lineRange t first last = (n, m) ↔ IsByteOf t first n ∧ IsByteOf t (last - 1) m) ∧
    (byteLength t + 1 < UInt32.size → ∀ offset, (position t offset).FitsWords) :=
  ⟨fun _ => exists_onLine, fun _ _ h h' => ⟨position_inj h h', precedes_iff h h'⟩,
    fun _ _ hne hlast _ _ => lineRange_eq_iff hne hlast, position_fitsWords⟩

/-- The last byte of the span is the second of the three bytes of the arrow, and the line of the
letter behind it is not ended. -/
theorem the_letter_behind_an_arrow_has_its_place :
    let t := "aé\n→b".toList
    (HasBoundary t 3 ∧ HasBoundary t 7 ∧ position t 7 = ⟨2, 2⟩ ∧
      (∃ above part tail below, OnLine t 7 above part tail below) ∧
      (position t 3).Precedes (position t 7)) ∧
    (0 < 6 ∧ 6 ≤ byteLength t ∧ lineRange t 0 6 = (1, 2) ∧ IsByteOf t 0 1 ∧ IsByteOf t 5 2) ∧
    byteLength t + 1 < UInt32.size ∧ (position t 7).FitsWords := by
  intro t
  have h3 : HasBoundary t 3 := isBoundary_iff.mp (by decide)
  have h7 : HasBoundary t 7 := isBoundary_iff.mp (by decide)
  have hrange : lineRange t 0 6 = (1, 2) := by decide
  have hshort : byteLength t + 1 < UInt32.size := by decide
  obtain ⟨hline, horder, hspan, hfits⟩ := places_and_line_bounds_agree t
  obtain ⟨hfirst, hlast⟩ := (hspan 0 6 (by decide) (by decide) 1 2).mp hrange
  exact ⟨⟨h3, h7, by decide, hline 7 h7, (horder 3 7 h3 h7).2.mpr (by decide)⟩,
    ⟨by decide, by decide, hrange, hfirst, hlast⟩, hshort, hfits hshort 7⟩

end Text

end Docstring
