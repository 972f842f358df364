-- Where a Google-style docstring cannot be read: at a header without a place in a document, or at
-- prose that no section can take. The lines above that line are walked as they are without it.
import Docstring.Proofs.Google.Outline
import Docstring.Proofs.Google.Walk
import Mathlib.Algebra.GroupWithZero.Nat

namespace Docstring.Google

open Text

/-- The lines of a section, with its header. -/
def Block.size (b : Block) : Nat := b.body.length + 1

/-- The line at which the walk stops: the one below the lines of all its sections. -/
def stopLine (lines : List Line) : Nat :=
  let head := walk.head lines
  head.length + ((outlineFrom head.length none head.rest).1.map Block.size).sum

/-- Line `i`, which stands above the lines `below`, is what the error is about. -/
def Blames (i : Nat) (below : List Line) : ParseError → Prop
  | .unsupportedSection title => ∃ line ∈ below.head?, header? line = some (.unsupported title)
  | .proseOutsideSection n =>
    n = i + 1 ∧ ∃ line ∈ below.head?, header? line = none ∧ isBlank line = false
  | _ => False

/-- The lines above the stop are walked without it as they are with it. -/
theorem outlineFrom_stop {n : Nat} {current : Option Block} {lines : List Line} {error : ParseError}
    (hfirst : current = none → ∀ line ∈ lines.head?, isBlank line = false)
    (h : (outlineFrom n current lines).2 = some error) :
    ∃ above below, lines = above ++ below ∧
      outlineFrom n current above = ((outlineFrom n current lines).1, none) ∧
      ((outlineFrom n current lines).1.map Block.size).sum =
        (current.toList.map Block.size).sum + above.length ∧
      Blames (n + above.length) below error := by
  have hnext : ∀ (n : Nat) (line : Line) (above : List Line),
      n + 1 + above.length = n + (line :: above).length := by
    intro n line above
    rw [List.length_cons]
    omega
  fun_induction outlineFrom n current lines with
  | case1 => cases h
  | case2 n current line rest kind keywordOnly hheader blocks stop hfound ih =>
    rw [hfound] at ih
    obtain ⟨above, below, rfl, houtline, hsize, hblames⟩ := ih (by simp) h
    refine ⟨line :: above, below, rfl, ?_, ?_, hnext n line above ▸ hblames⟩
    · rw [outlineFrom_of_opens n current above hheader, houtline]
    · simp only [List.map_append, List.sum_append, hsize, List.length_cons]
      simp [Block.size]
      omega
  | case3 n current line rest title hheader =>
    cases h
    exact ⟨[], line :: rest, rfl, rfl, rfl, line, rfl, hheader⟩
  | case4 n line rest hheader b htakes ih =>
    obtain ⟨above, below, rfl, houtline, hsize, hblames⟩ := ih (by simp) h
    refine ⟨line :: above, below, rfl, ?_, ?_, hnext n line above ▸ hblames⟩
    · rw [outlineFrom_of_takes n above hheader htakes, houtline]
    · rw [hsize]
      simp [Block.size, Block.push]
      omega
  | case5 n line rest hheader b htakes =>
    cases h
    exact ⟨[], line :: rest, rfl, rfl, rfl, rfl, line, rfl, hheader, Block.ink_of_not_takes htakes⟩
  | case6 n line rest hheader hblank =>
    rw [hfirst rfl line rfl] at hblank
    cases hblank
  | case7 n line rest hheader hink =>
    cases h
    exact ⟨[], line :: rest, rfl, rfl, rfl, rfl, line, rfl, hheader, hfirst rfl line rfl⟩

theorem addLine_error {found : List Entry} {line : Line} {error : ParseError}
    (h : addLine found line = .error error) : error.reason = .malformedEntry := by
  unfold addLine at h
  split at h
  · cases h
  · split at h
    · cases h
    · split at h
      · cases h
      · cases h
        rfl

theorem entries_error {body : List Line} {error : ParseError} (h : entries body = .error error) :
    error.reason = .malformedEntry := by
  unfold entries at h
  cases hfold : body.foldlM addLine [] with
  | ok found =>
    rw [hfold] at h
    cases h
  | error e =>
    rw [hfold] at h
    cases h
    obtain ⟨_, _, _, _, _, _, hline⟩ := exists_of_foldlM_error hfold
    exact addLine_error hline

theorem addEntries_error {add : Document → Entry → ParseResult} {d : Document} {body : List Line}
    {failure : ParseFailure}
    (hadd : ∀ d e failure, add d e = .error failure → failure.error.reason = .malformedEntry)
    (h : addEntries add d body = .error failure) : failure.error.reason = .malformedEntry := by
  unfold addEntries at h
  split at h
  · cases h
    exact entries_error ‹_›
  · obtain ⟨_, _, _, _, _, _, hentry⟩ := exists_of_foldlM_error h
    exact hadd _ _ _ hentry

/-- A section that has a place in a document is only refused for one of its entries. -/
theorem addBlock_error {d : Document} {b : Block} {failure : ParseFailure}
    (h : addBlock d b = .error failure) : failure.error.reason = .malformedEntry := by
  unfold addBlock at h
  dsimp only at h
  split at h
  case h_1 =>
    refine addEntries_error (fun d e failure h => ?_) h
    unfold addParam at h
    split at h <;> cases h
    rfl
  case h_4 =>
    refine addEntries_error (fun d e failure h => ?_) h
    unfold addRaise at h
    dsimp only at h
    split at h
    · cases h
    · split at h <;> cases h
      rfl
  all_goals cases h

theorem atHeader_ink {line : Line} {rest : List Line} (h : atHeader (line :: rest) = true) :
    isBlank line = false := by
  obtain ⟨title, _, rfl⟩ := exists_title_of_isHeader h
  have hcolon : isSpace ':' = false := by decide
  simp [isBlank, hcolon]

/-- What was read when the walk failed is what the lines above it say. -/
theorem read_take_stopLine {lines : List Line} {failure : ParseFailure}
    (h : walk.read lines = .error failure) (hreason : failure.error.reason ≠ .malformedEntry) :
    Blames (stopLine lines) (lines.drop (stopLine lines)) failure.error ∧
      walk.read (lines.take (stopLine lines)) = .ok failure.document := by
  rcases Walk.read_error h with ⟨_, b, _, d, _, _, hadd⟩ | ⟨d, error, hblocks, hstop, rfl⟩
  · exact absurd (addBlock_error hadd) hreason
  have hmark : (walk.head lines).rest = [] ∨ atHeader (walk.head lines).rest = true :=
    Head.mark_cut atHeader atHeader lines
  have hfirst : ∀ line ∈ (walk.head lines).rest.head?, isBlank line = false := by
    intro line hline
    obtain ⟨rest, hrest⟩ := List.head?_eq_some_iff.mp hline
    rw [hrest] at hmark
    exact atHeader_ink (hmark.resolve_left (List.cons_ne_nil _ _))
  obtain ⟨above, below, hlines, houtline, hsize, hblames⟩ := outlineFrom_stop (fun _ => hfirst) hstop
  have hline : stopLine lines = (walk.head lines).length + above.length := by
    rw [stopLine, hsize]
    simp
  have hsame : ∀ tail ≠ [], atHeader (tail ++ above) = atHeader (tail ++ (walk.head lines).rest) := by
    intro tail hne
    obtain ⟨line, more, rfl⟩ := List.exists_cons_of_ne_nil hne
    rfl
  have hsplits : walk.Splits (walk.head lines).length (walk.head lines).rest
      (outline (walk.head lines).length (walk.head lines).rest).1 above below := by
    refine ⟨hlines, ?_, ?_, hsame, hsame⟩
    · change outline _ above = _
      rw [outline, houtline]
      rfl
    · cases above with
      | nil => exact .inl rfl
      | cons line more =>
        rw [hlines] at hmark
        exact .inr (hmark.resolve_left (List.cons_ne_nil _ _))
  rw [hline, hsplits.drop_add]
  exact ⟨hblames, Walk.read_take lawful_walk hsplits hblocks⟩

theorem parse_take_stopLine {text : Text} {failure : ParseFailure}
    (hparse : parse text = .error failure) (hentry : failure.error.reason ≠ .malformedEntry) :
    let lines := normalLines text
    Blames (stopLine lines) (lines.drop (stopLine lines)) failure.error ∧
      (normalLines (joinLines (lines.take (stopLine lines))) =
          dropBlankEnd (lines.take (stopLine lines)) →
        parse (joinLines (lines.take (stopLine lines))) = .ok failure.document) := by
  rw [parse_eq_read] at hparse
  obtain ⟨hblames, htake⟩ := read_take_stopLine hparse hentry
  refine ⟨hblames, fun hnormal => ?_⟩
  rw [parse_eq_read, Walk.read_normalLines_take lawful_walk hnormal]
  exact htake

end Docstring.Google
