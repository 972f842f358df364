-- Detection without conflicts. When only one style has left signature lines, its confidence is
-- above zero and that of the others is zero, so it is the one that is found.
import Docstring.Detection
import Mathlib.Data.Nat.Log
import Mathlib.Tactic.Positivity
import Mathlib.Tactic.Ring

namespace Docstring

/-! ## Positive numbers -/

namespace Binary64

/-- Above zero; positive infinity is. -/
def IsPositive : Binary64 → Prop
  | .finite negative mantissa _ => negative = false ∧ 0 < mantissa
  | .infinite negative => negative = false
  | .nan => False

theorem le_roundQuotient (num den : Nat) : num / den ≤ roundQuotient num den := by
  unfold roundQuotient
  dsimp only
  split
  · omega
  · split <;> omega

theorem roundQuotient_le (num den : Nat) : roundQuotient num den ≤ num / den + 1 := by
  unfold roundQuotient
  dsimp only
  split
  · exact le_rfl
  · split <;> omega

/-- A scaled quotient is at least one if its numerator, scaled up, reaches its denominator. -/
theorem roundQuotient_scaled_pos {num den : Nat} {exponent : Int} (hden : 0 < den)
    (h : den * 2 ^ exponent.toNat ≤ num * 2 ^ (-exponent).toNat) :
    0 < roundQuotient (scaled num den exponent).1 (scaled num den exponent).2 := by
  refine lt_of_lt_of_le ?_ (le_roundQuotient _ _)
  cases exponent with
  | ofNat e =>
    have hscale : den * 2 ^ e ≤ num := by simpa using h
    exact Nat.div_pos hscale (by simpa [scaled] using hden)
  | negSucc e =>
    have hscale : den * 2 ^ 0 ≤ num * 2 ^ (e + 1) := h
    rw [Nat.pow_zero, Nat.mul_one] at hscale
    exact Nat.div_pos hscale hden

/-- Numbers of similar size, scaled by the difference of their lengths. -/
theorem mul_pow_le_mul_pow {num den : Nat} {k : Int} (hnum : 0 < num)
    (hk : k ≤ (num.log2 : Int) - den.log2 - 52) :
    den * 2 ^ k.toNat ≤ num * 2 ^ (-k).toNat := by
  have hnum' : 2 ^ num.log2 ≤ num := Nat.log2_self_le hnum.ne'
  have hden' : den ≤ 2 ^ (den.log2 + 1) := (Nat.lt_log2_self (n := den)).le
  calc den * 2 ^ k.toNat ≤ 2 ^ (den.log2 + 1) * 2 ^ k.toNat := Nat.mul_le_mul_right _ hden'
    _ = 2 ^ (den.log2 + 1 + k.toNat) := (pow_add 2 _ _).symm
    _ ≤ 2 ^ (num.log2 + (-k).toNat) := Nat.pow_le_pow_right (by decide) (by omega)
    _ = 2 ^ num.log2 * 2 ^ (-k).toNat := pow_add 2 _ _
    _ ≤ num * 2 ^ (-k).toNat := Nat.mul_le_mul_right _ hnum'

/-- A quotient that is not tiny is not rounded to zero. -/
theorem isPositive_ofQuotient {num den : Nat} (hnum : 0 < num) (hden : 0 < den)
    (hle : den ≤ 8 * num) : (ofQuotient false num den).IsPositive := by
  have hlog : den.log2 ≤ num.log2 + 3 := by
    rw [← Nat.lt_succ_iff, Nat.log2_lt hden.ne']
    calc den ≤ 8 * num := hle
      _ < 8 * 2 ^ (num.log2 + 1) := by
        have hlt := Nat.lt_log2_self (n := num)
        omega
      _ = 2 ^ (num.log2 + 3).succ := by
        rw [Nat.succ_eq_add_one, pow_succ, pow_succ, pow_succ, pow_succ]
        ring
  have hguess : max ((num.log2 : Int) - den.log2 - 53) minExponent =
      (num.log2 : Int) - den.log2 - 53 := by
    unfold minExponent
    omega
  have hround : ∀ k : Int, k ≤ (num.log2 : Int) - den.log2 - 52 →
      ∃ rounded : Nat × Int, 0 < rounded.1 ∧
        (if roundQuotient (scaled num den k).1 (scaled num den k).2 = Nat.pow 2 53 then
            (Nat.pow 2 52, k + 1)
          else (roundQuotient (scaled num den k).1 (scaled num den k).2, k)) = rounded := by
    intro k hk
    refine ⟨_, ?_, rfl⟩
    split
    · exact Nat.pow_pos (by decide)
    · exact roundQuotient_scaled_pos hden (mul_pow_le_mul_pow hnum hk)
  have hrange : ∀ rounded : Nat × Int, 0 < rounded.1 →
      (if rounded.2 > maxExponent then infinite false
        else finite false rounded.1 rounded.2).IsPositive := by
    intro rounded hpos
    split
    · exact rfl
    · exact ⟨rfl, hpos⟩
  unfold ofQuotient
  rw [if_neg hnum.ne']
  dsimp only
  rw [hguess]
  by_cases hbig : (scaled num den ((num.log2 : Int) - den.log2 - 53)).1 /
      (scaled num den ((num.log2 : Int) - den.log2 - 53)).2 ≥ Nat.pow 2 53
  · simp only [if_pos hbig]
    obtain ⟨rounded, hpos, hrounded⟩ := hround ((num.log2 : Int) - den.log2 - 53 + 1) (by omega)
    rw [hrounded]
    exact hrange rounded hpos
  · simp only [if_neg hbig]
    obtain ⟨rounded, hpos, hrounded⟩ := hround ((num.log2 : Int) - den.log2 - 53) (by omega)
    rw [hrounded]
    exact hrange rounded hpos

theorem IsPositive.zero_less {b : Binary64} (h : b.IsPositive) : less .zero b = true := by
  cases b with
  | nan => exact h.elim
  | infinite negative => exact congrArg not h
  | finite negative mantissa exponent =>
    obtain ⟨rfl, hpos⟩ := h
    have hsize : (0 : Int) < mantissa * 2 ^ (exponent - minExponent).toNat := by positivity
    simpa [less, zero, weight] using hsize

theorem IsPositive.not_less_zero {b : Binary64} (h : b.IsPositive) : less b .zero = false := by
  cases b with
  | nan => exact h.elim
  | infinite negative => exact h
  | finite negative mantissa exponent =>
    obtain ⟨rfl, hpos⟩ := h
    simp [less, zero, weight]

end Binary64

/-! ## Confidence -/

theorem roundedNat_bounds {n : Nat} (h : 0 < n) : 0 < roundedNat n ∧ roundedNat n ≤ 2 * n := by
  unfold roundedNat
  split
  · omega
  · dsimp only
    have hunit : 0 < Nat.pow 2 (n.log2 - 52) := Nat.pow_pos (by decide)
    have hle : Nat.pow 2 (n.log2 - 52) ≤ n :=
      (Nat.pow_le_pow_right (by decide) (Nat.sub_le _ _)).trans (Nat.log2_self_le h.ne')
    generalize Nat.pow 2 (n.log2 - 52) = unit at hunit hle ⊢
    have hlow := Binary64.le_roundQuotient n unit
    have hhigh := Binary64.roundQuotient_le n unit
    have hone : 0 < n / unit := Nat.div_pos hle hunit
    refine ⟨Nat.mul_pos (by omega) hunit, ?_⟩
    calc Binary64.roundQuotient n unit * unit ≤ (n / unit + 1) * unit :=
          Nat.mul_le_mul_right _ hhigh
      _ = n / unit * unit + unit := by ring
      _ ≤ n + unit := Nat.add_le_add_right (Nat.div_mul_le_self n unit) _
      _ ≤ 2 * n := by omega

/-- Signature lines that nothing speaks against give confidence. -/
theorem isPositive_confidence {matched : Nat} (h : 0 < matched) :
    (confidence matched 0).IsPositive := by
  unfold confidence
  rw [if_neg h.ne']
  dsimp only
  have hmatched := (roundedNat_bounds h).1
  generalize roundedNat matched = m at hmatched
  have hzero : roundedNat 0 = 0 := by decide
  rw [hzero]
  have htotal := roundedNat_bounds (n := signatureWeight * m + signatureWeight * 0)
    (by unfold signatureWeight; omega)
  have hdenominator := roundedNat_bounds
    (n := roundedNat (signatureWeight * m + signatureWeight * 0) + 1) (Nat.succ_pos _)
  refine Binary64.isPositive_ofQuotient (Nat.mul_pos (by decide) hmatched) hdenominator.1 ?_
  unfold signatureWeight at *
  omega

/-! ## Detection -/

theorem countSignatures_pos {style : Style} {lines : List Line} {line : Line} {i : Nat}
    (hline : lines[i]? = some line) (h : isSignature style line lines[i + 1]? = true) :
    0 < countSignatures style lines := by
  induction lines generalizing i with
  | nil => simp at hline
  | cons first rest ih =>
    rw [countSignatures]
    cases i with
    | zero =>
      obtain rfl : first = line := by simpa using hline
      rw [Nat.zero_add, List.getElem?_cons_succ, ← List.head?_eq_getElem?] at h
      rw [if_pos h]
      omega
    | succ i =>
      have hrest := ih (by simpa using hline) (by simpa using h)
      omega

namespace Detection

/-- The score of a style that has some lines for it and none against it is better than that of one
that has no lines. -/
theorem better_of_zero {best next : StyleScore} (hbest : best.confidence = .zero)
    (hnext : next.confidence.IsPositive) : better best next = next := by
  rw [better, if_pos]
  rw [hbest]
  exact hnext.zero_less

theorem better_of_not_positive {best next : StyleScore}
    (hbest : best.confidence = .zero ∨ best.confidence.IsPositive)
    (hnext : next.confidence = .zero) : better best next = best := by
  rw [better, if_neg]
  rw [hnext, Bool.not_eq_true]
  rcases hbest with hbest | hbest
  · rw [hbest]
    decide
  · exact hbest.not_less_zero

/-- Of three scores, the one above zero is the best. -/
theorem best_of_three {a b c : StyleScore} :
    (a.confidence.IsPositive → b.confidence = .zero → c.confidence = .zero →
      better (better a b) c = a) ∧
    (a.confidence = .zero → b.confidence.IsPositive → c.confidence = .zero →
      better (better a b) c = b) ∧
    (a.confidence = .zero → b.confidence = .zero → c.confidence.IsPositive →
      better (better a b) c = c) := by
  refine ⟨fun ha hb hc => ?_, fun ha hb hc => ?_, fun ha hb hc => ?_⟩
  · rw [better_of_not_positive (.inr ha) hb, better_of_not_positive (.inr ha) hc]
  · rw [better_of_zero ha hb, better_of_not_positive (.inr hb) hc]
  · rw [better_of_not_positive (.inl ha) hb, better_of_zero ha hc]

/-- If a style has left signature lines and no other one has, it is found. -/
theorem style_ofText {style : Style} {text : Text} (hstyle : style ≠ .plain)
    (hconflicts : (ofText text).hasConflicts = false)
    (hmatched : 0 < countSignatures style (normalLines text)) : (ofText text).style = style := by
  revert hconflicts
  simp only [ofText, scoresOf, Style.structured, List.map_cons, List.map_nil, List.foldl_cons,
    List.foldl_nil, Nat.zero_add]
  generalize hr : countSignatures .rest (normalLines text) = r
  generalize hg : countSignatures .google (normalLines text) = g
  generalize hn : countSignatures .numpy (normalLines text) = n
  have hsome : 0 < r + g + n := by
    cases style
    case rest => rw [hr] at hmatched; omega
    case google => rw [hg] at hmatched; omega
    case numpy => rw [hn] at hmatched; omega
    case plain => exact absurd rfl hstyle
  rw [if_neg (by simp; omega)]
  intro hconflicts
  have hone : (0 < r ∧ g = 0 ∧ n = 0) ∨ (r = 0 ∧ 0 < g ∧ n = 0) ∨ (r = 0 ∧ g = 0 ∧ 0 < n) := by
    rcases Nat.eq_zero_or_pos r with hr | hr <;> rcases Nat.eq_zero_or_pos g with hg | hg <;>
      rcases Nat.eq_zero_or_pos n with hn | hn <;>
        simp_all [hasConflicts]
  obtain ⟨hfirst, hsecond, hthird⟩ := best_of_three
    (a := ⟨.rest, r, r + g + n - r, Docstring.confidence r (r + g + n - r)⟩)
    (b := ⟨.google, g, r + g + n - g, Docstring.confidence g (r + g + n - g)⟩)
    (c := ⟨.numpy, n, r + g + n - n, Docstring.confidence n (r + g + n - n)⟩)
  rcases hone with ⟨hr', rfl, rfl⟩ | ⟨rfl, hg', rfl⟩ | ⟨rfl, rfl, hn'⟩
  · rw [hfirst (by simpa using isPositive_confidence hr') rfl rfl]
    cases style <;> simp_all
  · rw [hsecond rfl (by simpa using isPositive_confidence hg') rfl]
    cases style <;> simp_all
  · rw [hthird rfl rfl (by simpa using isPositive_confidence hn')]
    cases style <;> simp_all

end Detection

end Docstring
