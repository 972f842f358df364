-- A byte offset stands between two characters of a text exactly when the text can be cut there
-- into two texts, of which the first has so many bytes.
import Docstring.Text.Offset
import Mathlib.Data.List.Basic

namespace Docstring.Text

/-! ## Counting bytes -/

@[simp] theorem byteLength_nil : byteLength [] = 0 := rfl

@[simp] theorem byteLength_cons (c : Char) (t : Text) :
    byteLength (c :: t) = c.utf8Size + byteLength t := rfl

@[simp] theorem byteLength_append (s t : Text) :
    byteLength (s ++ t) = byteLength s + byteLength t := by
  induction s with
  | nil => simp
  | cons c s ih => rw [List.cons_append, byteLength_cons, ih, byteLength_cons, Nat.add_assoc]

/-- Every character takes up at least one byte. -/
theorem byteLength_eq_zero {t : Text} : byteLength t = 0 ↔ t = [] := by
  cases t with
  | nil => simp
  | cons c t =>
    have hpos : 0 < c.utf8Size := c.utf8Size_pos
    simp only [byteLength_cons, reduceCtorEq, iff_false]
    omega

/-! ## Cutting -/

/-- The offset stands between two characters of a text, or at one of its ends. -/
def HasBoundary (t : Text) (offset : Nat) : Prop :=
  ∃ left right, t = left ++ right ∧ byteLength left = offset

theorem countChars?_append (left right : Text) (passed : Nat) :
    countChars? passed (left ++ right) (byteLength left) = some (passed + left.length) := by
  induction left generalizing passed with
  | nil => cases right <;> simp [countChars?]
  | cons c left ih =>
    have hpos : 0 < c.utf8Size := c.utf8Size_pos
    obtain ⟨bytes, hbytes⟩ : ∃ bytes, c.utf8Size + byteLength left = bytes + 1 :=
      ⟨c.utf8Size + byteLength left - 1, by omega⟩
    have hrest : bytes + 1 - c.utf8Size = byteLength left := by omega
    rw [List.cons_append, byteLength_cons, hbytes, countChars?, if_pos (by omega), hrest, ih,
      List.length_cons]
    congr 1
    omega

theorem byteLength_take_of_countChars? {t : Text} {passed offset n : Nat}
    (h : countChars? passed t offset = some n) :
    passed ≤ n ∧ byteLength (t.take (n - passed)) = offset := by
  induction t generalizing passed offset with
  | nil =>
    cases offset with
    | zero =>
      rw [countChars?, Option.some.injEq] at h
      exact ⟨Nat.le_of_eq h, by simp⟩
    | succ bytes => simp [countChars?] at h
  | cons c t ih =>
    cases offset with
    | zero =>
      rw [countChars?, Option.some.injEq] at h
      exact ⟨Nat.le_of_eq h, by simp [h]⟩
    | succ bytes =>
      rw [countChars?] at h
      split at h
      · obtain ⟨hle, hlength⟩ := ih h
        obtain ⟨k, hk⟩ : ∃ k, n - passed = k + 1 := ⟨n - passed - 1, by omega⟩
        have hk' : n - (passed + 1) = k := by omega
        rw [hk'] at hlength
        refine ⟨by omega, ?_⟩
        rw [hk, List.take_succ_cons, byteLength_cons, hlength]
        omega
      · exact absurd h (by simp)

theorem cut?_append (left right : Text) :
    cut? (left ++ right) (byteLength left) = some (left, right) := by
  simp [cut?, countChars?_append]

theorem cut?_eq_some_iff {t left right : Text} {offset : Nat} :
    cut? t offset = some (left, right) ↔ t = left ++ right ∧ byteLength left = offset := by
  constructor
  · intro h
    obtain ⟨n, hn, hparts⟩ := Option.map_eq_some_iff.mp h
    rw [Prod.mk.injEq] at hparts
    obtain ⟨rfl, rfl⟩ := hparts
    exact ⟨(List.take_append_drop n t).symm, (byteLength_take_of_countChars? hn).2⟩
  · rintro ⟨rfl, rfl⟩
    exact cut?_append left right

theorem isBoundary_iff {t : Text} {offset : Nat} :
    isBoundary t offset = true ↔ HasBoundary t offset := by
  rw [isBoundary, Option.isSome_iff_exists]
  constructor
  · rintro ⟨⟨left, right⟩, h⟩
    exact ⟨left, right, cut?_eq_some_iff.mp h⟩
  · rintro ⟨left, right, h⟩
    exact ⟨(left, right), cut?_eq_some_iff.mpr h⟩

/-- Of two cuts of a text, the later one leaves the earlier first part at its start. -/
theorem exists_between {left right left' right' : Text} (h : left ++ right = left' ++ right')
    (hle : byteLength left ≤ byteLength left') :
    ∃ between, left' = left ++ between ∧ right = between ++ right' := by
  rcases List.append_eq_append_iff.mp h with ⟨between, hleft, hright⟩ | ⟨between, hleft, hright⟩
  · exact ⟨between, hleft, hright⟩
  · have hnil : between = [] := by
      rw [← byteLength_eq_zero]
      rw [hleft, byteLength_append] at hle
      omega
    subst hnil
    exact ⟨[], by simpa using hleft.symm, by simpa using hright.symm⟩

theorem slice?_append (left between right : Text) :
    slice? (left ++ between ++ right) (byteLength left) (byteLength left + byteLength between) =
      some between := by
  have hlength : byteLength left + byteLength between - byteLength left = byteLength between := by
    omega
  rw [slice?, if_pos (by omega), List.append_assoc, cut?_append, hlength]
  simp [cut?_append]

end Docstring.Text
