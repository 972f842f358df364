-- The Google style as a walk over sections, and the steps of its outline: what a line does to the
-- section that is open above it. What an outline finds are sections under header lines.
import Docstring.Google.Parser
import Docstring.Proofs.Document.Outline

namespace Docstring.Google

open Text

/-- The Google style as a walk over sections. -/
def walk : Walk Block Document where
  style := .google
  endsSummary := atHeader
  endsProse := atHeader
  outline := outline
  start := id
  add := addBlock
  finish := id
  halt := id

theorem parse_eq_read (text : Text) : parse text = walk.read (normalLines text) := by
  unfold parse Walk.read Walk.readBelow Walk.head
  dsimp only [walk, id]
  cases List.foldlM addBlock _ _ with
  | error failure => rfl
  | ok d => rfl

/-- A docstring is read when nothing stops its outline and each of its sections can be added. -/
theorem parse_eq_ok_iff {text : Text} {d : Document} :
    parse text = .ok d ↔
      let head := Head.cut atHeader atHeader (normalLines text)
      let found := outline head.length head.rest
      found.2 = none ∧ found.1.foldlM addBlock (head.document .google) = .ok d := by
  rw [parse_eq_read, Walk.read_eq_ok_iff]
  refine and_congr_right fun _ => ⟨?_, fun h => ⟨d, h, rfl⟩⟩
  rintro ⟨_, h, rfl⟩
  exact h

/-! ## Steps -/

theorem Block.ink_of_not_takes {b : Block} {line : Line} (h : ¬b.takes line = true) :
    isBlank line = false := by
  simp only [takes, Bool.or_eq_true, not_or, Bool.not_eq_true] at h
  exact h.1.2

section Steps

variable {line : Line} (n : Nat) (current : Option Block) (rest : List Line)

theorem outlineFrom_of_opens {kind : SectionKind} {keywordOnly : Bool}
    (h : header? line = some (.opens kind keywordOnly)) :
    outlineFrom n current (line :: rest) =
      let found := outlineFrom (n + 1) (some ⟨kind, keywordOnly, n, []⟩) rest
      (current.toList ++ found.1, found.2) := by
  conv => lhs; unfold outlineFrom
  simp only [h]

theorem outlineFrom_of_unsupported {title : Text} (h : header? line = some (.unsupported title)) :
    outlineFrom n current (line :: rest) = (current.toList, some (.unsupportedSection title)) := by
  simp only [outlineFrom, h]

theorem outlineFrom_of_takes {b : Block} (h : header? line = none) (htakes : b.takes line = true) :
    outlineFrom n (some b) (line :: rest) = outlineFrom (n + 1) (some (b.push line)) rest := by
  conv => lhs; unfold outlineFrom
  simp only [h, htakes, if_true]

theorem outlineFrom_of_blank (h : header? line = none) (hblank : isBlank line = true) :
    outlineFrom n none (line :: rest) = outlineFrom (n + 1) none rest := by
  conv => lhs; unfold outlineFrom
  simp only [h, hblank, if_true]

theorem outlineFrom_of_prose (h : header? line = none) (hink : isBlank line = false)
    (htakes : ∀ b ∈ current, ¬b.takes line = true) :
    outlineFrom n current (line :: rest) =
      (current.toList, some (.proseOutsideSection (n + 1))) := by
  cases current with
  | none => simp [outlineFrom, h, hink]
  | some b => simp [outlineFrom, h, htakes b rfl]

end Steps

/-! ## Sections under headers -/

/-- The section that a header at the start of some lines opens. -/
def openedAt? : List Line → Option SectionKind
  | [] => none
  | line :: _ =>
    match header? line with
    | some (.opens kind _) => some kind
    | _ => none

theorem isBlank_of_header? {line : Line} {header : Header} (h : header? line = some header) :
    isBlank line = false := by
  by_contra hblank
  rw [Bool.not_eq_false] at hblank
  cases line with
  | nil => cases h
  | cons c rest =>
    have hcolon : (c :: rest).getLast? = some ':' := by
      unfold header? at h
      by_contra hne
      simp [hne] at h
    have hspace := List.all_eq_true.mp hblank ':' (List.mem_of_getLast? hcolon)
    exact absurd hspace (by decide)

/-- A header is a line with a title and a colon. -/
def headers : Headers where
  size := 1
  atHeader := atHeader
  openedAt? := openedAt?
  size_pos := Nat.one_pos
  not_nil := rfl
  ink {lines n kind} h := by
    cases hlines : lines.drop n with
    | nil => simp [hlines, openedAt?] at h
    | cons line rest =>
      refine ⟨line, ?_, ?_⟩
      · rw [Nat.add_sub_cancel, Option.mem_def, ← List.head?_drop, hlines, List.head?_cons]
      · rw [hlines, openedAt?] at h
        split at h
        · rename_i hfound
          exact isBlank_of_header? hfound
        · cases h
  single _ hlt hle := absurd hlt (Nat.not_lt.mpr (Nat.le_of_lt_succ hle))

def Block.heading (b : Block) : HeadedSection := ⟨b.kind, b.first, b.body⟩

theorem outlined_outlineFrom {lines rest : List Line} {n : Nat} {current : Option Block}
    (hrest : lines.drop n = rest) (hstop : (outlineFrom n current rest).2 = none) :
    headers.Outlined lines n (current.map Block.heading)
      ((outlineFrom n current rest).1.map Block.heading) := by
  have hfinish : ∀ {current : Option Block},
      current.toList.map Block.heading = (current.map Block.heading).toList := by
    rintro (_ | b) <;> rfl
  have hnone : ∀ {line : Line} {rest : List Line}, header? line = none →
      headers.atHeader (line :: rest) = false := by
    intro line rest hheader
    simp [headers, atHeader, isHeader, hheader]
  fun_induction outlineFrom n current rest with
  | case1 n current => exact hfinish ▸ .finish hrest
  | case2 n current line rest kind keywordOnly hheader blocks stop hfound ih =>
    rw [hfound] at ih
    rw [List.map_append, hfinish]
    exact .opens (by simp [headers, hrest, openedAt?, hheader])
      (ih (drop_succ_of_drop hrest) hstop)
  | case3 => cases hstop
  | case4 n line rest hheader block _ ih =>
    exact .push hrest (hnone hheader) (ih (drop_succ_of_drop hrest) hstop)
  | case5 => cases hstop
  | case6 n line rest hheader hblank ih =>
    exact .gap hrest (hnone hheader) hblank (ih (drop_succ_of_drop hrest) hstop)
  | case7 => cases hstop

/-! ## Empty lines at the end -/

theorem ignoresEnd_atHeader : Head.IgnoresEnd atHeader := by
  intro tail
  cases tail with
  | nil => rfl
  | cons line rest => rfl

theorem close_push_nil (b : Block) : (b.push []).close = b.close := by
  simp [Block.push, Block.close]

theorem outlineFrom_concat_nil (n : Nat) (current : Option Block) (lines : List Line) :
    let found := outlineFrom n current (lines ++ [[]])
    found.1.map Block.close = (outlineFrom n current lines).1.map Block.close ∧
      found.2 = (outlineFrom n current lines).2 := by
  fun_induction outlineFrom n current lines with
  | case1 n current =>
    cases current with
    | none => exact ⟨rfl, rfl⟩
    | some b =>
      have htakes : b.takes [] = true := by simp [Block.takes, isBlank]
      rw [List.nil_append, outlineFrom_of_takes n [] rfl htakes]
      exact ⟨congrArg (· :: []) (close_push_nil b), rfl⟩
  | case2 n current line rest kind keywordOnly hheader blocks stop hfound ih =>
    rw [List.cons_append, outlineFrom_of_opens n current _ hheader]
    simp only [List.map_append]
    rw [hfound] at ih
    exact ⟨congrArg _ ih.1, ih.2⟩
  | case3 n current line rest title hheader =>
    rw [List.cons_append, outlineFrom_of_unsupported n current _ hheader]
    exact ⟨rfl, rfl⟩
  | case4 n line rest hheader b htakes ih =>
    rw [List.cons_append, outlineFrom_of_takes n _ hheader htakes]
    exact ih
  | case5 n line rest hheader b htakes =>
    rw [List.cons_append, outlineFrom_of_prose n (some b) _ hheader (Block.ink_of_not_takes htakes)
      (by simpa using htakes)]
    exact ⟨rfl, rfl⟩
  | case6 n line rest hheader hblank ih =>
    rw [List.cons_append, outlineFrom_of_blank n _ hheader hblank]
    exact ih
  | case7 n line rest hheader hink =>
    rw [List.cons_append, outlineFrom_of_prose n none _ hheader (by simpa using hink) (by simp)]
    exact ⟨rfl, rfl⟩

theorem lawful_walk : walk.Lawful where
  ends _ := id
  summary := ignoresEnd_atHeader
  prose := ignoresEnd_atHeader
  nil := rfl
  outline_nil _ := rfl
  outline_concat n lines := by
    obtain ⟨hitems, hstop⟩ := outlineFrom_concat_nil n none lines
    exact Prod.ext hitems hstop

end Docstring.Google
