-- Names consist of letters, digits and underscores, none of which is white space or has a
-- meaning in any style.
import Docstring.Document.Entry
import Docstring.Proofs.Document.Tidy

namespace Docstring

/-! ## Tables of ranges -/

/-- Membership of a code point in a table of ranges. -/
def codeInRanges (table : List CodeRange) (n : Nat) : Bool :=
  match table.find? (fun range => n ≤ range.2) with
  | some range => range.1 ≤ n
  | none => false

theorem inRanges_eq (table : List CodeRange) (c : Char) :
    inRanges table c = codeInRanges table c.toNat := rfl

/-- The code points of a range, one by one. -/
def CodeRange.codes (range : CodeRange) : List Nat :=
  List.range' range.1 (range.2 + 1 - range.1)

theorem exists_range_of_codeInRanges {table : List CodeRange} {n : Nat}
    (h : codeInRanges table n = true) : ∃ range ∈ table, n ∈ CodeRange.codes range := by
  unfold codeInRanges at h
  split at h
  · rename_i range hfind
    refine ⟨range, List.mem_of_find?_eq_some hfind, ?_⟩
    have hlast : n ≤ range.2 := by simpa using List.find?_some hfind
    have hfirst : range.1 ≤ n := by simpa using h
    rw [CodeRange.codes, List.mem_range'_1]
    omega
  · exact absurd h (by simp)

/-- No code point of white space is that of a letter or a digit. -/
theorem whiteSpace_disjoint : ∀ range ∈ whiteSpace, ∀ n ∈ CodeRange.codes range,
    codeInRanges alphabetic n = false ∧ codeInRanges numeric n = false := by
  decide +kernel

theorem not_space_of_letterOrDigit {c : Char} (h : isLetterOrDigit c = true) :
    isSpace c = false := by
  by_contra hs
  rw [Bool.not_eq_false, isSpace, inRanges_eq] at hs
  obtain ⟨range, hmem, hn⟩ := exists_range_of_codeInRanges hs
  obtain ⟨halpha, hnum⟩ := whiteSpace_disjoint range hmem c.toNat hn
  simp [isLetterOrDigit, isLetter, inRanges_eq, halpha, hnum] at h

/-! ## Names -/

namespace Text

/-- A character that may stand in a name. -/
def isNameChar (c : Char) : Bool := isLetterOrDigit c || c == '_'

theorem not_space_of_nameChar {c : Char} (h : isNameChar c = true) : isSpace c = false := by
  rw [isNameChar, Bool.or_eq_true, beq_iff_eq] at h
  rcases h with h | rfl
  · exact not_space_of_letterOrDigit h
  · decide

theorem nameChar_of_mem {name : Text} (h : isIdentifier name = true) :
    ∀ c ∈ name, isNameChar c = true := by
  cases name with
  | nil => simp
  | cons c rest =>
    simp only [isIdentifier, Bool.and_eq_true, List.all_eq_true] at h
    exact h.2

/-- A character that may not stand in a name does not. -/
theorem notMem_of_isIdentifier {name : Text} {c : Char} (h : isIdentifier name = true)
    (hc : isNameChar c = false) : c ∉ name := by
  intro hmem
  rw [nameChar_of_mem h c hmem] at hc
  exact absurd hc (by simp)

theorem isIdentifier_ne_nil {name : Text} (h : isIdentifier name = true) : name ≠ [] := by
  rintro rfl
  simp [isIdentifier] at h

theorem isOneLine_of_isIdentifier {name : Text} (h : isIdentifier name = true) :
    IsOneLine name := by
  have hink : ∀ c ∈ name, isSpace c = false :=
    fun c hc => not_space_of_nameChar (nameChar_of_mem h c hc)
  refine ⟨isIdentifier_ne_nil h, ?_, notMem_of_isIdentifier h (by decide)⟩
  have hopen : opensWithInk name = true := by
    cases name with
    | nil => exact absurd h (by simp [isIdentifier])
    | cons c rest => simp [opensWithInk, hink c (by simp)]
  have hclose : closesWithInk name = true := by
    unfold closesWithInk
    cases hr : name.reverse with
    | nil => exact absurd (List.reverse_eq_nil_iff.mp hr) (isIdentifier_ne_nil h)
    | cons c rest =>
      have hmem : c ∈ name := by rw [← List.mem_reverse, hr]; simp
      simp [opensWithInk, hink c hmem]
  exact trim_of_ink hopen (trimEnd_of_closesWithInk hclose)

end Text

/-! ## Names with stars -/

namespace Parameter

variable {p : Parameter}

theorem display_eq (p : Parameter) : p.display = p.kind.stars ++ p.name := rfl

theorem mem_stars {kind : ParamKind} {c : Char} (h : c ∈ kind.stars) : c = '*' := by
  cases kind <;> simp_all [ParamKind.stars]

theorem notMem_display {c : Char} (h : Text.isIdentifier p.name = true)
    (hc : Text.isNameChar c = false) (hstar : c ≠ '*') : c ∉ p.display := by
  rw [display_eq, List.mem_append, not_or]
  exact ⟨fun hmem => hstar (mem_stars hmem), Text.notMem_of_isIdentifier h hc⟩

theorem isOneLine_display (h : Text.isIdentifier p.name = true) : Text.IsOneLine p.display := by
  have hname := Text.isOneLine_of_isIdentifier h
  rw [display_eq]
  cases hk : p.kind with
  | positional => exact hname
  | keywordOnly => exact hname
  | varPositional => exact Text.IsOneLine.append (by decide) (by decide) hname
  | varKeyword => exact Text.IsOneLine.append (by decide) (by decide) hname

theorem not_space_of_mem_display (h : Text.isIdentifier p.name = true) :
    ∀ c ∈ p.display, isSpace c = false := by
  intro c hc
  rw [display_eq, List.mem_append] at hc
  rcases hc with hc | hc
  · rw [mem_stars hc]
    decide
  · exact Text.not_space_of_nameChar (Text.nameChar_of_mem h c hc)

/-- The stars before a name give back the kind of the parameter, up to keyword-only ones. -/
theorem splitName_display (h : Text.isIdentifier p.name = true) :
    ParamKind.splitName p.display = (p.meaning.kind, p.name) := by
  have hback : ∀ c ∈ p.display, (c ≠ '\\') := by
    intro c hc he
    exact notMem_display h (by decide) (by decide) (he ▸ hc)
  have hfilter : (Text.trim p.display).filter (· ≠ '\\') = p.display := by
    rw [(isOneLine_display h).trimmed, List.filter_eq_self]
    simpa using hback
  have hstar : '*' ∉ p.name := Text.notMem_of_isIdentifier h (by decide)
  obtain ⟨c, rest, hname⟩ := List.exists_cons_of_ne_nil (Text.isIdentifier_ne_nil h)
  have hc : c ≠ '*' := fun he => hstar (by simp [hname, he])
  unfold ParamKind.splitName
  rw [hfilter, display_eq, meaning]
  cases hk : p.kind with
  | positional => simp [ParamKind.stars, hname, hc]
  | keywordOnly => simp [ParamKind.stars, hname, hc]
  | varPositional => simp [ParamKind.stars, hname, hc]
  | varKeyword => simp [ParamKind.stars]

end Parameter

end Docstring
