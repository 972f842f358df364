-- Where a NumPy-style docstring cannot be read: at an underlined title without a place in a document.
-- The lines above it are walked as they are without it.
import Docstring.Proofs.Numpy.Kept
import Docstring.Proofs.Numpy.Outline
import Mathlib.Algebra.GroupWithZero.Nat

namespace Docstring.Numpy

open Text

/-- The lines of a section, with its title and its underline. -/
def Block.size (b : Block) : Nat := b.body.length + 2

/-- The line at which the walk stops: the one below the lines of all its sections. -/
def stopLine (lines : List Line) : Nat :=
  let head := walk.head lines
  head.length + ((outlineFrom head.length none head.rest).1.map Block.size).sum

/-- The lines `below` are what the error is about: a title and its underline. -/
def Blames (below : List Line) : ParseError → Prop
  | .unsupportedSection title =>
    ∃ line underline rest, below = line :: underline :: rest ∧
      header? line underline = some (.unsupported title)
  | _ => False

/-- The lines above the stop are walked without it as they are with it. -/
theorem outlineFrom_stop {n : Nat} {current : Option Block} {lines : List Line} {error : ParseError}
    (hfirst : current = none → lines = [] ∨ atHeader lines = true)
    (h : (outlineFrom n current lines).2 = some error) :
    ∃ above below, lines = above ++ below ∧
      outlineFrom n current above = ((outlineFrom n current lines).1, none) ∧
      ((outlineFrom n current lines).1.map Block.size).sum =
        (current.toList.map Block.size).sum + above.length ∧
      (current = none → above = [] ∨ atHeader above = true) ∧ Blames below error := by
  fun_induction outlineFrom n current lines with
  | case1 | case2 => cases h
  | case3 n current title underline rest kind hheader blocks stop hfound ih =>
    rw [hfound] at ih
    obtain ⟨above, below, rfl, houtline, hsize, -, hblames⟩ := ih (by simp) h
    refine ⟨title :: underline :: above, below, rfl, ?_, ?_, fun _ => .inr ?_, hblames⟩
    · rw [outlineFrom_of_opens n current above hheader, houtline]
    · simp only [List.map_append, List.sum_append, hsize, List.length_cons]
      simp [Block.size]
      omega
    · rw [atHeader, hheader, Option.isSome_some]
  | case4 n current title underline rest unsupported hheader =>
    cases h
    exact ⟨[], title :: underline :: rest, rfl, rfl, rfl, fun _ => .inl rfl, title, underline, rest,
      rfl, hheader⟩
  | case5 n current title underline rest hheader ih =>
    cases current with
    | none =>
      have hmark := (hfirst rfl).resolve_left (List.cons_ne_nil _ _)
      rw [atHeader, hheader] at hmark
      cases hmark
    | some b =>
      obtain ⟨above, below, hlines, houtline, hsize, -, hblames⟩ := ih (by simp) h
      refine ⟨title :: above, below, by rw [hlines]; rfl, ?_, ?_, by simp, hblames⟩
      · refine (outlineFrom_cons n b fun next hnext => ?_).trans houtline
        obtain ⟨more, rfl⟩ := List.head?_eq_some_iff.mp hnext
        rw [← (List.cons.inj hlines).1, hheader]
      · rw [hsize]
        simp [Block.size, Block.push]
        omega

theorem addParam_error {head : Line} {type default : Option Text} {text raw : Text} {d : Document}
    {failure : ParseFailure} (h : addParam head type default text d raw = .error failure) :
    failure.error.reason = .malformedEntry := by
  unfold addParam at h
  dsimp only at h
  split at h <;> cases h
  rfl

theorem addParams_error {d : Document} {e : Entry} {failure : ParseFailure}
    (h : addParams d e = .error failure) : failure.error.reason = .malformedEntry := by
  unfold addParams at h
  dsimp only at h
  split at h
  · cases h
    rfl
  · split at h
    all_goals
      obtain ⟨_, _, _, _, _, _, hparam⟩ := exists_of_foldlM_error h
      exact addParam_error hparam

/-- A section that has a place in a document is only refused for its entries. -/
theorem addBlock_error {d : Document} {b : Block} {failure : ParseFailure}
    (h : addBlock d b = .error failure) :
    failure.error.reason = .malformedEntry ∨ failure.error.reason = .multipleReturns := by
  unfold addBlock at h
  dsimp only at h
  split at h
  case h_1 =>
    left
    obtain ⟨_, e, _, _, _, _, hentry⟩ := exists_of_foldlM_error h
    exact addParams_error hentry
  case h_2 | h_3 =>
    right
    unfold addReturn at h
    split at h <;> cases h
    rfl
  case h_4 =>
    left
    obtain ⟨_, e, _, _, _, _, hentry⟩ := exists_of_foldlM_error h
    unfold addRaise at hentry
    split at hentry <;> cases hentry
    rfl
  all_goals cases h

/-- A title is no underline, whatever it is the title of. -/
theorem not_underline_of_header? {title underline : Line} {header : Header}
    (h : header? title underline = some header) : isUnderline title = false := by
  rw [Bool.eq_false_iff]
  intro hunderline
  have hnone : atHeader [title, underline] = false := atHeader_of_isUnderline hunderline
  rw [atHeader, h] at hnone
  cases hnone

theorem exists_header_of_blames {below : List Line} {error : ParseError} (h : Blames below error) :
    ∃ line underline rest, below = line :: underline :: rest ∧
      ∃ header, header? line underline = some header := by
  cases error
  case unsupportedSection title =>
    obtain ⟨line, underline, rest, hbelow, hheader⟩ := h
    exact ⟨line, underline, rest, hbelow, _, hheader⟩
  all_goals exact h.elim

/-- What was read when the walk failed is what the lines above it say. -/
theorem read_take_stopLine {lines : List Line} {failure : ParseFailure}
    (h : walk.read lines = .error failure) (hentry : failure.error.reason ≠ .malformedEntry)
    (hreturns : failure.error.reason ≠ .multipleReturns) :
    Blames (lines.drop (stopLine lines)) failure.error ∧
      walk.read (lines.take (stopLine lines)) = .ok failure.document := by
  rcases Walk.read_error h with ⟨_, b, _, d, _, _, hadd⟩ | ⟨d, error, hblocks, hstop, rfl⟩
  · exact ((addBlock_error hadd).elim hentry hreturns).elim
  have hmark : (walk.head lines).rest = [] ∨ atHeader (walk.head lines).rest = true :=
    Head.mark_cut atHeader atHeader lines
  obtain ⟨above, below, hlines, houtline, hsize, hopens, hblames⟩ :=
    outlineFrom_stop (fun _ => hmark) hstop
  have hline : stopLine lines = (walk.head lines).length + above.length := by
    rw [stopLine, hsize]
    simp
  -- the line above the stop is no title, since the title below it is no underline
  have hsame : ∀ tail ≠ [], atHeader (tail ++ above) = atHeader (tail ++ (walk.head lines).rest) := by
    intro tail hne
    obtain ⟨line, more, rfl⟩ := List.exists_cons_of_ne_nil hne
    rw [hlines]
    cases more with
    | cons next more => rfl
    | nil =>
      cases above with
      | cons next more => rfl
      | nil =>
        obtain ⟨title, underline, rest, rfl, header, hheader⟩ := exists_header_of_blames hblames
        have hflat := header?_of_not_underline (a := line) (not_underline_of_header? hheader)
        simp [atHeader, hflat]
  have hsplits : walk.Splits (walk.head lines).length (walk.head lines).rest
      ((outline (walk.head lines).length (walk.head lines).rest).1.map Block.close) above below := by
    refine ⟨hlines, ?_, hopens rfl, hsame, hsame⟩
    change ((outlineFrom _ none above).1.map Block.close, (outlineFrom _ none above).2) = _
    rw [houtline]
    rfl
  rw [hline, hsplits.drop_add]
  exact ⟨hblames, Walk.read_take lawful_walk hsplits hblocks⟩

theorem parse_take_stopLine {text : Text} {failure : ParseFailure}
    (hparse : parse text = .error failure) (hentry : failure.error.reason ≠ .malformedEntry)
    (hreturns : failure.error.reason ≠ .multipleReturns) :
    let lines := normalLines text
    Blames (lines.drop (stopLine lines)) failure.error ∧
      (normalLines (joinLines (lines.take (stopLine lines))) =
          dropBlankEnd (lines.take (stopLine lines)) →
        parse (joinLines (lines.take (stopLine lines))) = .ok failure.document) := by
  rw [parse_eq_read] at hparse
  obtain ⟨hblames, htake⟩ := read_take_stopLine hparse hentry hreturns
  refine ⟨hblames, fun hnormal => ?_⟩
  rw [parse_eq_read, Walk.read_normalLines_take lawful_walk hnormal]
  exact htake

end Docstring.Numpy
