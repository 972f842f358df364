-- Balanced brackets: a text that closes what it opens hides its own brackets and colons from
-- whoever looks for the first bracket or colon after it.
import Docstring.Document.Entry
import Docstring.Google.Parser
import Mathlib.Data.List.Basic

namespace Docstring.Text

/-! ## Balance -/

/-- The brackets of a text close the `depth` that are open before it, and nothing beyond. -/
def balancedFrom (depth : Nat) : Text → Bool
  | [] => depth = 0
  | c :: rest =>
    if isOpening c then balancedFrom (depth + 1) rest
    else if isClosing c then depth ≠ 0 && balancedFrom (depth - 1) rest
    else balancedFrom depth rest

/-- Every bracket that a text opens is closed in it, and none else. -/
def isBalanced (t : Text) : Bool := balancedFrom 0 t

theorem isOpening_of_isClosing {c : Char} (h : isClosing c = true) : isOpening c = false := by
  simp only [isClosing, Bool.or_eq_true, beq_iff_eq] at h
  rcases h with (rfl | rfl) | rfl <;> rfl

theorem balancedFrom_of_plain {t : Text} (depth : Nat)
    (h : ∀ c ∈ t, isOpening c = false ∧ isClosing c = false) :
    balancedFrom depth t = decide (depth = 0) := by
  induction t with
  | nil => rfl
  | cons c t ih =>
    obtain ⟨hopen, hclose⟩ := h c (by simp)
    simp [balancedFrom, hopen, hclose, ih fun x hx => h x (by simp [hx])]

/-- Where spaces around bars do not count, what is compact is balanced with these spaces, too. -/
theorem balancedFrom_of_isCompact {t : Text} {depth : Nat}
    (h : isCompact depth (squeezeUnions t) = true) : balancedFrom depth t = true := by
  induction t using squeezeUnions.induct generalizing depth with
  | case1 rest ih =>
    have hrest : isCompact depth (squeezeUnions rest) = true := by
      simp only [squeezeUnions, isCompact, isOpening, isClosing] at h
      simp at h
      exact h.2
    simpa [balancedFrom, isOpening, isClosing] using ih hrest
  | case2 c rest hbar ih =>
    rw [squeezeUnions] at h
    · simp only [isCompact] at h
      simp only [balancedFrom]
      split
      · rename_i hopen
        exact ih (by simpa [hopen] using h)
      · rename_i hopen
        split
        · rename_i hclose
          simp only [hopen, hclose, if_true, Bool.false_eq_true, if_false, Bool.and_eq_true] at h
          simp only [Bool.and_eq_true]
          exact ⟨h.1, ih h.2⟩
        · rename_i hclose
          simp only [hopen, hclose, Bool.false_eq_true, if_false, Bool.and_eq_true] at h
          exact ih h.2
    · exact hbar
  | case3 => simpa [squeezeUnions, isCompact, balancedFrom] using h

theorem isBalanced_of_looksLikeType {t : Text} (h : looksLikeType t = true) :
    isBalanced t = true := by
  cases t with
  | nil => simp [looksLikeType] at h
  | cons c rest =>
    simp only [looksLikeType, Bool.and_eq_true] at h
    exact balancedFrom_of_isCompact h.1

/-! ## Depth -/

theorem natAbs_foldl_depthAfter_le (t : Text) (depth : Int) :
    (t.foldl depthAfter depth).natAbs ≤ depth.natAbs + t.length := by
  induction t generalizing depth with
  | nil => exact Nat.le_refl _
  | cons c t ih =>
    have hstep : (depthAfter depth c).natAbs ≤ depth.natAbs + 1 := by
      unfold depthAfter
      split
      · omega
      · split <;> omega
    have hrest := ih (depthAfter depth c)
    rw [List.foldl_cons, List.length_cons]
    omega

/-- The depth of brackets does not overflow a signed word of 32 bits. -/
theorem foldl_depthAfter_fits {t : Text} (h : t.length ≤ Int32.maxValue.toInt) :
    Int32.minValue.toInt ≤ t.foldl depthAfter 0 ∧
      t.foldl depthAfter 0 ≤ Int32.maxValue.toInt := by
  have hmin : Int32.minValue.toInt = -Int32.maxValue.toInt - 1 := by decide
  have hle := natAbs_foldl_depthAfter_le t 0
  omega

/-! ## The first colon -/

theorem depthAfter_of_isOpening {c : Char} {depth : Int} (h : isOpening c = true) :
    depthAfter depth c = depth + 1 := by
  simp [depthAfter, h]

theorem depthAfter_of_isClosing {c : Char} {depth : Int} (h : isClosing c = true) :
    depthAfter depth c = depth - 1 := by
  simp [depthAfter, h, isOpening_of_isClosing h]

/-- A colon after a balanced text that has no colon of its own outside brackets is the first. -/
theorem cutAtColonFrom?_append {t : Text} {depth : Nat} (rest : Text)
    (hbalanced : balancedFrom depth t = true) (hnone : cutAtColonFrom? depth t = none) :
    cutAtColonFrom? depth (t ++ ':' :: rest) = some (t, rest) := by
  induction t generalizing depth with
  | nil =>
    have hzero : depth = 0 := by simpa [balancedFrom] using hbalanced
    simp [cutAtColonFrom?, hzero]
  | cons c t ih =>
    rw [cutAtColonFrom?] at hnone
    split at hnone
    · simp at hnone
    · rename_i hc
      simp only [Option.map_eq_none_iff] at hnone
      have hrest : cutAtColonFrom? (depthAfter depth c) (t ++ ':' :: rest) = some (t, rest) := by
        simp only [balancedFrom] at hbalanced
        split at hbalanced
        · rename_i hopen
          rw [depthAfter_of_isOpening hopen] at hnone ⊢
          exact ih hbalanced hnone
        · rename_i hopen
          split at hbalanced
          · rename_i hclose
            simp only [Bool.and_eq_true, decide_eq_true_eq] at hbalanced
            have hcast : ((depth : Int) - 1) = ((depth - 1 : Nat) : Int) := by omega
            rw [depthAfter_of_isClosing hclose, hcast] at hnone ⊢
            exact ih hbalanced.2 hnone
          · rename_i hclose
            have hsame : depthAfter depth c = depth := by simp [depthAfter, hopen, hclose]
            rw [hsame] at hnone ⊢
            exact ih hbalanced hnone
      rw [List.cons_append, cutAtColonFrom?, if_neg hc, hrest]
      rfl

theorem cutAtColon?_append {t : Text} (rest : Text) (hbalanced : isBalanced t = true)
    (hnone : cutAtColon? t = none) : cutAtColon? (t ++ ':' :: rest) = some (t, rest) :=
  cutAtColonFrom?_append rest hbalanced hnone

/-- Nothing but the colon is lost where a text is cut. -/
theorem eq_append_of_cutAtColonFrom? {depth : Int} {t left right : Text}
    (h : cutAtColonFrom? depth t = some (left, right)) : t = left ++ ':' :: right := by
  induction t generalizing depth left with
  | nil => cases h
  | cons c t ih =>
    rw [cutAtColonFrom?] at h
    split at h
    · rename_i hcolon
      cases h
      rw [hcolon.1, List.nil_append]
    · obtain ⟨⟨inner, right'⟩, hcut, hpair⟩ := Option.map_eq_some_iff.mp h
      cases hpair
      rw [List.cons_append, ← ih hcut]

theorem cutAtColonFrom?_of_notMem {t : Text} (depth : Int) (h : ':' ∉ t) :
    cutAtColonFrom? depth t = none := by
  induction t generalizing depth with
  | nil => rfl
  | cons c t ih =>
    simp only [List.mem_cons, not_or] at h
    have hc : ¬(c = ':' ∧ depth ≤ 0) := fun hboth => h.1 hboth.1.symm
    rw [cutAtColonFrom?, if_neg hc, ih _ h.2]
    rfl

theorem cutAtColon?_of_notMem {t : Text} (h : ':' ∉ t) : cutAtColon? t = none :=
  cutAtColonFrom?_of_notMem 0 h

/-! ## The bracket that closes -/

/-- The bracket after a balanced text closes the one before it. -/
theorem cutAtClose?_append {t : Text} (depth : Nat) (after : Text)
    (h : balancedFrom depth t = true) :
    Google.cutAtClose? (depth + 1) (t ++ ')' :: after) = some (t, after) := by
  induction t generalizing depth with
  | nil =>
    have hzero : depth = 0 := by simpa [balancedFrom] using h
    simp [Google.cutAtClose?, isClosing, hzero]
  | cons c t ih =>
    simp only [balancedFrom] at h
    rw [List.cons_append, Google.cutAtClose?]
    split at h
    · rename_i hopen
      have hclose : isClosing c = false := by
        by_contra hc
        simp [isOpening_of_isClosing (by simpa using hc)] at hopen
      simp [hopen, hclose, ih _ h]
    · rename_i hopen
      split at h
      · rename_i hclose
        simp only [Bool.and_eq_true, decide_eq_true_eq] at h
        obtain ⟨hpos, hrest⟩ := h
        have hinner := ih _ hrest
        have hdeep : depth - 1 + 1 = depth := by omega
        rw [hdeep] at hinner
        simp [hopen, hclose, hinner, hpos]
      · rename_i hclose
        simp [hopen, hclose, ih _ h]

end Docstring.Text
