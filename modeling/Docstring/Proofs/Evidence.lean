-- The share that the signature lines of field lists have in the evidence of a text. One more field
-- line adds to the share, but it also takes the margin from the lines above it; where the first line
-- is a header and the second one stood at the margin, the second one is read as its body then.
import Docstring.Proofs.Google.Outline
import Docstring.Proofs.Literal.Margin
import Docstring.Proofs.NormalForm
import Docstring.Proofs.Numpy.Written
import Docstring.Proofs.Rest.Outline
import Docstring.Proofs.Text.Whole
import Docstring.Detection
import Mathlib.Algebra.Order.Field.Basic
import Mathlib.Data.Rat.Cast.Order
import Mathlib.Tactic.Linarith
import Mathlib.Tactic.NormNum

namespace Docstring

open Text

/-! ## Shares -/

/-- The share of a style's signature lines in all evidence, as an exact fraction. -/
def share (matched conflicting : Nat) : ℚ := 4 * matched / (4 * matched + 4 * conflicting + 1)

/-- The confidence is the share in double precision, as long as the counts are exact in it. -/
theorem confidence_eq_ofQuotient {matched conflicting : Nat} (hpos : 0 < matched)
    (h : 4 * matched + 4 * conflicting + 1 < 2 ^ 53) :
    confidence matched conflicting =
      .ofQuotient false (4 * matched) (4 * matched + 4 * conflicting + 1) := by
  have hexact : ∀ n, n < 2 ^ 53 → roundedNat n = n := fun n hn => if_pos hn
  unfold confidence signatureWeight
  rw [if_neg hpos.ne']
  simp only [hexact matched (by omega), hexact conflicting (by omega),
    hexact (4 * matched + 4 * conflicting) (by omega), hexact _ h]

theorem share_mono {matched matched' conflicting conflicting' : Nat} (hm : matched ≤ matched')
    (hc : conflicting' ≤ conflicting) :
    share matched conflicting ≤ share matched' conflicting' := by
  have hm' : (matched : ℚ) ≤ matched' := by exact_mod_cast hm
  have hc' : (conflicting' : ℚ) ≤ conflicting := by exact_mod_cast hc
  have hpos : (0 : ℚ) ≤ matched := by positivity
  have hpos' : (0 : ℚ) ≤ conflicting' := by positivity
  unfold share
  rw [div_le_div_iff₀ (by positivity) (by positivity)]
  nlinarith [mul_le_mul hm' hc' hpos' (hpos.trans hm')]

theorem share_zero_le (conflicting matched conflicting' : Nat) :
    share 0 conflicting ≤ share matched conflicting' := by
  unfold share
  rw [Nat.cast_zero, mul_zero, zero_div]
  positivity

/-- A first conflict takes more away than one more line gives. -/
theorem share_lt {matched : Nat} (h : 0 < matched) : share (matched + 1) 1 < share matched 0 := by
  have hone : (1 : ℚ) ≤ matched := by exact_mod_cast h
  unfold share
  rw [div_lt_div_iff₀ (by positivity) (by positivity)]
  push_cast
  nlinarith

namespace Detection

/-- The share of field lines in the evidence of a text, and nothing where no style has left any. -/
def fieldShare (text : Text) : ℚ :=
  match (ofText text).scores.find? fun s => s.style = .rest with
  | some s => share s.matched s.conflicting
  | none => 0

theorem fieldShare_eq (text : Text) :
    fieldShare text = share (countSignatures .rest (normalLines text))
      (countSignatures .google (normalLines text) +
        countSignatures .numpy (normalLines text)) := by
  simp only [fieldShare, ofText, scoresOf, Style.structured, List.map_cons, List.map_nil,
    List.foldl_cons, List.foldl_nil, Nat.zero_add]
  generalize countSignatures .rest (normalLines text) = r
  generalize countSignatures .google (normalLines text) = g
  generalize countSignatures .numpy (normalLines text) = n
  have hothers : r + g + n - r = g + n := by omega
  by_cases hnone : r = 0 ∧ g = 0 ∧ n = 0
  · obtain ⟨rfl, rfl, rfl⟩ := hnone
    simp [plain, share]
  · rw [if_neg (by simpa using hnone)]
    simp [hothers]

end Detection

/-! ## Counting -/

/-- The number of field lines does not hang on how far they are indented. -/
theorem countSignatures_rest (lines : List Line) :
    countSignatures .rest lines = lines.countP fun line => isFieldLine (trimStart line) := by
  induction lines with
  | nil => rfl
  | cons line rest ih =>
    rw [countSignatures, ih, List.countP_cons, Nat.add_comm]
    rfl

/-- A line at the end that is like no line to the one above it. -/
theorem countSignatures_concat {style : Style} {last : Line} (lines : List Line)
    (h : ∀ line, isSignature style line (some last) = isSignature style line none) :
    countSignatures style (lines ++ [last]) =
      countSignatures style lines + if isSignature style last none then 1 else 0 := by
  induction lines with
  | nil => exact Nat.add_comm _ 0
  | cons line rest ih =>
    have hnext : isSignature style line (rest ++ [last]).head? =
        isSignature style line rest.head? := by
      cases rest with
      | nil => exact h line
      | cons next rest => rfl
    rw [List.cons_append, countSignatures, countSignatures, ih, hnext, Nat.add_assoc]

theorem isSignature_below_empty (style : Style) (next : Option Line) :
    isSignature style [] next = false := by
  cases style with
  | rest | google | plain => rfl
  | numpy =>
    cases next with
    | none => rfl
    | some below =>
      have htitle : Numpy.header? (trim []) below = none := Numpy.header?_below_empty below
      simp [isSignature, isNumpySignature, htitle]

/-- A line that is neither indented text nor an underline is like no line to the one above it. -/
theorem isSignature_some {style : Style} {next : Line} (line : Line)
    (hdeep : isBlank next = true ∨ indentWidth next = 0) (hline : Numpy.isUnderline next = false) :
    isSignature style line (some next) = isSignature style line none := by
  cases style with
  | rest | plain => rfl
  | google =>
    change isGoogleSignature line (some next) = isGoogleSignature line none
    unfold isGoogleSignature
    rcases hdeep with hblank | hzero
    · cases Google.header? line with
      | none => rfl
      | some header => cases header <;> simp [hblank]
    · cases Google.header? line with
      | none => rfl
      | some header => cases header <;> simp [hzero]
  | numpy =>
    simp [isSignature, isNumpySignature, Numpy.header?_of_not_underline hline]

/-- Empty lines at the ends are no evidence. -/
theorem countSignatures_trimEmptyLines (style : Style) (lines : List Line) :
    countSignatures style (trimEmptyLines lines) = countSignatures style lines := by
  have hstart : ∀ above below : List Line, (∀ line ∈ above, line = []) →
      countSignatures style (above ++ below) = countSignatures style below := by
    intro above below habove
    induction above with
    | nil => rfl
    | cons line above ih =>
      rw [habove line (by simp), List.cons_append, countSignatures,
        ih fun l hl => habove l (by simp [hl]), isSignature_below_empty]
      exact Nat.zero_add _
  have hend : ∀ above below : List Line, (∀ line ∈ below, line = []) →
      countSignatures style (above ++ below) = countSignatures style above := by
    intro above below hbelow
    induction below using List.reverseRecOn with
    | nil => rw [List.append_nil]
    | append_singleton below line ih =>
      rw [hbelow line (by simp), ← List.append_assoc,
        countSignatures_concat _ fun line => isSignature_some line (.inl rfl) rfl,
        ih fun l hl => hbelow l (by simp [hl]), isSignature_below_empty]
      exact Nat.add_zero _
  obtain ⟨below, hbelow, hlines⟩ := exists_trimEmptyLines lines
  conv => rhs; rw [hlines]
  rw [hend _ below hbelow, hstart _ _ fun line hl =>
    List.isEmpty_iff.mp (List.mem_takeWhile_imp hl)]

theorem countSignatures_normalLines (style : Style) (t : Text) :
    countSignatures style (normalLines t) = countSignatures style
      (stripMargin ((bodyMargin? (expandedLines t)).getD 0) (expandedLines t)) :=
  countSignatures_trimEmptyLines style _

/-! ## One more field -/

theorem isGoogleSignature_none (line : Line) : isGoogleSignature line none = false := by
  unfold isGoogleSignature
  cases Google.header? line with
  | none => rfl
  | some header => cases header <;> rfl

theorem isGoogleSignature_expandTabs (line below : Line) :
    isGoogleSignature line (some (expandTabs (trimEnd below))) =
      isGoogleSignature line (some below) := by
  have hdeep : (!isBlank (expandTabs (trimEnd below)) &&
      decide (0 < indentWidth (expandTabs (trimEnd below)))) =
        (!isBlank below && decide (0 < indentWidth below)) := by
    rw [isBlank_expandTabs, isBlank_trimEnd, indentWidth_expandTabs]
    cases hink : isBlank below with
    | true => rfl
    | false => rw [indentWidth_trimEnd hink]
  unfold isGoogleSignature
  cases Google.header? line with
  | none => rfl
  | some header =>
    cases header with
    | opens kind keywordOnly => exact hdeep
    | unsupported title => rfl

theorem exists_colon_cons {l : Line} (h : isFieldLine l = true) : ∃ inner, l = ':' :: inner := by
  unfold isFieldLine at h
  split at h
  case h_1 inner => exact ⟨inner, rfl⟩
  case h_2 => cases h

section Field

variable {l : Line} (hfield : isFieldLine l = true)

include hfield

/-- White space at the end of a field line may go. -/
theorem isFieldLine_trimEnd : isFieldLine (trimEnd l) = true ∧ opensWithInk (trimEnd l) = true := by
  unfold isFieldLine at hfield
  split at hfield
  case h_2 => cases hfield
  case h_1 rest =>
    split at hfield
    case h_2 => cases hfield
    case h_1 content after hcut =>
      obtain ⟨c, hc, rfl, hcolon⟩ := eq_of_cutAt? hcut
      obtain rfl : c = ':' := by simpa using hc
      have hline : trimEnd (':' :: (content ++ ':' :: after)) =
          ':' :: (content ++ ':' :: trimEnd after) :=
        trimEnd_append_ink (':' :: content) after (by decide)
      rw [Bool.and_eq_true] at hfield
      rw [hline]
      refine ⟨?_, rfl⟩
      simp only [isFieldLine, cutAt?_append (trimEnd after) hcolon hc, hfield.1, Bool.true_and]
      have hkept : trimEnd after <+: after := List.rdropWhile_prefix _ _
      cases hrest : trimEnd after with
      | nil => rfl
      | cons d kept =>
        obtain ⟨more, rfl⟩ := hrest ▸ hkept
        exact hfield.2

/-- Below a field line at the first column, nothing has a margin. -/
theorem countSignatures_concat_field (hline : '\n' ∉ l) (style : Style) (t : Text) :
    countSignatures style (normalLines (t ++ '\n' :: l)) =
      countSignatures style (stripMargin 0 (expandedLines t)) +
        if style = .rest then 1 else 0 := by
  obtain ⟨hkept, hopens⟩ := isFieldLine_trimEnd hfield
  have hexpanded : expandedLines (t ++ '\n' :: l) = expandedLines t ++ [trimEnd l] := by
    have htabs : expandTabs (trimEnd l) = trimEnd l := by
      rw [expandTabs, indentOf_of_opensWithInk hopens]
      rfl
    rw [expandedLines, splitLines_newline_append, splitLines_of_notMem hline, List.map_append,
      List.map_singleton, htabs]
    rfl
  obtain ⟨first, rest, hlines⟩ : ∃ first rest, expandedLines t = first :: rest :=
    List.exists_cons_of_ne_nil (by simp [expandedLines, splitLines_ne_nil])
  have hmargin : (bodyMargin? (first :: rest ++ [trimEnd l])).getD 0 = 0 :=
    bodyMargin?_of_hasNoMargin (.inl ⟨trimEnd l, by simp, hopens⟩)
  have hstrip : stripMargin 0 (first :: rest ++ [trimEnd l]) =
      stripMargin 0 (first :: rest) ++ [trimEnd l] := by simp [stripMargin]
  obtain ⟨inner, hl⟩ : ∃ inner, trimEnd l = ':' :: inner := exists_colon_cons hkept
  have hdash : Numpy.isUnderline (trimEnd l) = false := by
    rw [hl]
    exact Numpy.not_underline_of_head inner (by decide)
  rw [countSignatures_normalLines, hexpanded, hlines, hmargin, hstrip,
    countSignatures_concat _ fun line =>
      isSignature_some line (.inr (indentWidth_of_opensWithInk hopens)) hdash]
  congr 1
  cases style with
  | rest => simp [isSignature, trimStart_of_opensWithInk hopens, hkept]
  | google => simp [isSignature, isGoogleSignature_none]
  | numpy => rfl
  | plain => rfl

end Field

/-! ## Lines above the field -/

/-- Field lines are found whatever margin is taken off. -/
theorem countSignatures_rest_stripMargin (margin : Nat) (lines : List Line) :
    countSignatures .rest (stripMargin margin lines) =
      countSignatures .rest (stripMargin 0 lines) := by
  cases lines with
  | nil => rfl
  | cons first rest =>
    have hcount : (isFieldLine ∘ trimStart) ∘ stripColumns margin =
        (isFieldLine ∘ trimStart) ∘ stripColumns 0 :=
      funext fun line => by
        simp only [Function.comp_apply, trimStart_stripColumns]
    simp only [countSignatures_rest, stripMargin, List.countP_cons, List.countP_map]
    exact congrArg (fun p => List.countP p rest + _) hcount

/-- Indented lines below the first one are no evidence of headers, but for that of a header on the
first line. -/
theorem countSignatures_indented {first : Line} {rest : List Line}
    (h : ∀ line ∈ rest, line = [] ∨ ∃ inner, line = ' ' :: inner) :
    countSignatures .google (first :: rest) =
        (if isGoogleSignature first rest.head? then 1 else 0) ∧
      countSignatures .numpy (first :: rest) = 0 := by
  induction rest generalizing first with
  | nil => exact ⟨rfl, rfl⟩
  | cons second rest ih =>
    obtain ⟨hgoogle, hnumpy⟩ := @ih second fun line hl => h line (by simp [hl])
    have hsecond := h second (by simp)
    have hheader : Google.header? second = none := by
      rcases hsecond with rfl | ⟨inner, rfl⟩
      · rfl
      · exact Google.header?_space_cons inner
    have hline : Numpy.isUnderline second = false := by
      rcases hsecond with rfl | ⟨inner, rfl⟩
      · rfl
      · exact Numpy.not_underline_of_head inner (by decide)
    have hclosed : countSignatures .google (second :: rest) = 0 := by
      simp [hgoogle, isGoogleSignature, hheader]
    have hflat : isNumpySignature first (some second) = false := by
      simp [isNumpySignature, Numpy.header?_of_not_underline hline]
    constructor
    · rw [countSignatures, hclosed, Nat.add_zero]
      rfl
    · rw [countSignatures, hnumpy, Nat.add_zero]
      exact if_neg (Bool.not_eq_true _ ▸ hflat)

/-- With a margin, every line below the first one is empty or indented. -/
theorem indented_of_margin {first line : Line} {rest : List Line} (hline : line ∈ rest)
    (hclean : IsClean line) (hmargin : 0 < (bodyMargin? (first :: rest)).getD 0) :
    line = [] ∨ ∃ inner, line = ' ' :: inner := by
  cases hink : isBlank line with
  | true => exact .inl (hclean.blank_iff.mp hink)
  | false =>
    right
    have hwhole := spaces_append_stripMargin first hline hclean hink
    obtain ⟨n, hn⟩ := Nat.exists_eq_add_of_lt hmargin
    rw [hn] at hwhole
    rw [Nat.zero_add, spaces, List.replicate_succ, List.cons_append] at hwhole
    exact ⟨_, hwhole.symm⟩

/-- With no margin taken off, the first line is trimmed and the others only lose their tabs. -/
theorem stripMargin_zero_expandedLines (t : Text) :
    stripMargin 0 (expandedLines t) =
      trim (firstLine t) :: (laterLines t).map fun line => expandTabs (trimEnd line) := by
  obtain ⟨first, rest, hsplit⟩ := List.exists_cons_of_ne_nil (splitLines_ne_nil t)
  have hid : stripColumns 0 = id := funext stripColumns_zero
  rw [expandedLines, firstLine, laterLines, hsplit, List.map_cons, stripMargin, hid, List.map_id,
    trim_expandTabs, trim_trimEnd, List.headD_cons, List.tail_cons]

/-- The header that the first line may be, with the margin and the tabs still in place. -/
theorem isGoogleSignature_laterLines (t : Text) :
    isGoogleSignature (trim (firstLine t))
        ((laterLines t).map fun line => expandTabs (trimEnd line)).head? =
      isGoogleSignature (trim (firstLine t)) (laterLines t).head? := by
  cases laterLines t with
  | nil => rfl
  | cons second rest => exact isGoogleSignature_expandTabs _ second

/-- What is left of the evidence of a text when a field line follows it. Without a margin that is
all of it. With one, the field line takes the margin away, and what remains are the field lines and
the header that the first line may be. -/
theorem countSignatures_stripMargin_zero (t : Text) :
    (∀ style, countSignatures style (stripMargin 0 (expandedLines t)) =
        countSignatures style (normalLines t)) ∨
      countSignatures .google (stripMargin 0 (expandedLines t)) =
        (if isGoogleSignature (trim (firstLine t)) (laterLines t).head? then 1 else 0) ∧
      countSignatures .numpy (stripMargin 0 (expandedLines t)) = 0 := by
  by_cases hmargin : (bodyMargin? (expandedLines t)).getD 0 = 0
  · left
    intro style
    rw [countSignatures_normalLines, hmargin]
  · right
    obtain ⟨first, rest, hlines⟩ : ∃ first rest, expandedLines t = first :: rest :=
      List.exists_cons_of_ne_nil (by simp [expandedLines, splitLines_ne_nil])
    have hrest : rest = (laterLines t).map fun line => expandTabs (trimEnd line) := by
      rw [laterLines, List.map_tail, ← expandedLines, hlines, List.tail_cons]
    have hindented : ∀ line ∈ rest, line = [] ∨ ∃ inner, line = ' ' :: inner := by
      intro line hmem
      rw [hlines] at hmargin
      exact indented_of_margin hmem
        (isClean_of_mem_expandedLines (hlines ▸ List.mem_cons_of_mem _ hmem))
        (Nat.pos_of_ne_zero hmargin)
    rw [stripMargin_zero_expandedLines, ← isGoogleSignature_laterLines, ← hrest]
    exact countSignatures_indented hindented

namespace Detection

/-- One more field line at the first column lowers the share of field lines exactly when all the
evidence was theirs, and the first line is a header with indented text right below it: this one
counts against them once the margin is gone. -/
theorem a_field_more_lowers_the_share_only_below_a_header {l : Line} (t : Text)
    (hfield : isFieldLine l = true) (hline : '\n' ∉ l) :
    fieldShare (t ++ '\n' :: l) < fieldShare t ↔
      isGoogleSignature (trim (firstLine t)) (laterLines t).head? = true ∧
        0 < countSignatures .rest (normalLines t) ∧
        countSignatures .google (normalLines t) = 0 ∧
        countSignatures .numpy (normalLines t) = 0 := by
  have hadded := fun style => countSignatures_concat_field hfield hline style t
  have hrest : countSignatures .rest (stripMargin 0 (expandedLines t)) =
      countSignatures .rest (normalLines t) :=
    (countSignatures_rest_stripMargin _ _).symm.trans (countSignatures_normalLines _ t).symm
  have hgoogle := hadded .google
  have hnumpy := hadded .numpy
  rw [if_neg (by decide), Nat.add_zero] at hgoogle hnumpy
  rw [fieldShare_eq, fieldShare_eq, hadded .rest, hrest, if_pos rfl, hgoogle, hnumpy]
  generalize hr : countSignatures .rest (normalLines t) = r
  -- what counted against the fields before is all that can count against them now, but for a
  -- header on the first line
  rcases countSignatures_stripMargin_zero t with hsame | ⟨hfirst, hnone⟩
  · rw [hsame, hsame]
    refine iff_of_false (not_lt.mpr (share_mono r.le_succ le_rfl)) ?_
    rintro ⟨hheader, -, hzero, -⟩
    rw [← hsame, stripMargin_zero_expandedLines, countSignatures] at hzero
    rw [isSignature, isGoogleSignature_laterLines, if_pos hheader] at hzero
    omega
  · rw [hfirst, hnone, Nat.add_zero]
    by_cases hheader : isGoogleSignature (trim (firstLine t)) (laterLines t).head? = true
    · rw [if_pos hheader]
      by_cases hothers : countSignatures .google (normalLines t) = 0 ∧
          countSignatures .numpy (normalLines t) = 0
      · obtain ⟨hg, hn⟩ := hothers
        rw [hg, hn]
        rcases Nat.eq_zero_or_pos r with rfl | hpos
        · exact iff_of_false (not_lt.mpr (share_zero_le _ _ _)) (by simp)
        · exact iff_of_true (share_lt hpos) ⟨hheader, hpos, rfl, rfl⟩
      · refine iff_of_false (not_lt.mpr (share_mono r.le_succ ?_)) fun h => hothers h.2.2
        omega
    · rw [if_neg hheader]
      exact iff_of_false (not_lt.mpr (share_mono r.le_succ (Nat.zero_le _))) fun h => hheader h.1

/-- The margin is lost to the field line and no first line is a header, so the share grows although
the entries of a section stay behind. -/
theorem a_field_below_an_indented_list_adds_to_the_share :
    let t := "Sum.\n\n    :param x: v\n    Args:\n        y: w".toList
    let l := ":returns: the sum".toList
    isFieldLine l = true ∧ '\n' ∉ l ∧ fieldShare t ≤ fieldShare (t ++ '\n' :: l) := by
  intro t l
  have hfield : isFieldLine l = true := by decide +kernel
  have hline : '\n' ∉ l := by decide +kernel
  have hheader : ¬isGoogleSignature (trim (firstLine t)) (laterLines t).head? = true := by
    decide +kernel
  refine ⟨hfield, hline, not_lt.mp fun hlower => hheader ?_⟩
  exact ((a_field_more_lowers_the_share_only_below_a_header t hfield hline).mp hlower).1

/-- Below `Args:`, the line at the margin is no entry until a field line at the first column takes
the margin away. -/
theorem a_field_line_can_lower_the_share :
    let t := "Args:\n    Notes:\n\n        :param x: y".toList
    let l := ":returns: z".toList
    isFieldLine l = true ∧ '\n' ∉ l ∧
      fieldShare t = 4 / 5 ∧ fieldShare (t ++ '\n' :: l) = 8 / 13 := by
  intro t l
  have hbefore : countSignatures .rest (normalLines t) = 1 ∧
      countSignatures .google (normalLines t) = 0 ∧
      countSignatures .numpy (normalLines t) = 0 := by decide +kernel
  have hafter : countSignatures .rest (normalLines (t ++ '\n' :: l)) = 2 ∧
      countSignatures .google (normalLines (t ++ '\n' :: l)) = 1 ∧
      countSignatures .numpy (normalLines (t ++ '\n' :: l)) = 0 := by decide +kernel
  refine ⟨by decide +kernel, by decide +kernel, ?_, ?_⟩
  · rw [fieldShare_eq, hbefore.1, hbefore.2.1, hbefore.2.2]
    norm_num [share]
  · rw [fieldShare_eq, hafter.1, hafter.2.1, hafter.2.2]
    norm_num [share]

end Detection

end Docstring
