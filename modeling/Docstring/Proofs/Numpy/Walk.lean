-- The NumPy style as a walk over sections, and the steps of its outline: what two lines, one below
-- the other, do to the section that is open above them. What an outline finds are sections under
-- underlined titles.
import Docstring.Proofs.Document.Outline
import Docstring.Proofs.Numpy.Written

namespace Docstring.Numpy

open Text

/-- A section without the blank lines at its end. -/
def Block.close (b : Block) : Block := { b with body := dropBlankEnd b.body }

theorem Block.span_close (b : Block) : b.close.span = b.span := by
  simp [span, close, dropBlankEnd_of_endsInk (endsInk_dropBlankEnd b.body)]

theorem addBlock_close (d : Document) (b : Block) : addBlock d b.close = addBlock d b := by
  have hbody : trimBlankLines b.close.body = trimBlankLines b.body :=
    trimBlankLines_dropBlankEnd b.body
  unfold addBlock
  rw [b.span_close, hbody]
  rfl

/-- The NumPy style as a walk over sections. -/
def walk : Walk Block Document where
  style := .numpy
  endsSummary := atHeader
  endsProse := atHeader
  outline n lines := ((outline n lines).1.map Block.close, (outline n lines).2)
  start := id
  add := addBlock
  finish := id
  halt := id

theorem foldlM_close (blocks : List Block) (d : Document) :
    (blocks.map Block.close).foldlM addBlock d = blocks.foldlM addBlock d := by
  rw [List.foldlM_map]
  simp only [addBlock_close]

theorem parse_eq_read (text : Text) : parse text = walk.read (normalLines text) := by
  unfold parse Walk.read Walk.readBelow Walk.head
  dsimp only [walk, id]
  rw [foldlM_close]
  cases List.foldlM addBlock _ _ with
  | error failure => rfl
  | ok d => rfl

/-- A docstring is read when nothing stops its outline and each of its sections can be added. -/
theorem parse_eq_ok_iff {text : Text} {d : Document} :
    parse text = .ok d ↔
      let head := Head.cut atHeader atHeader (normalLines text)
      let found := outline head.length head.rest
      found.2 = none ∧ found.1.foldlM addBlock (head.document .numpy) = .ok d := by
  rw [parse_eq_read, Walk.read_eq_ok_iff]
  dsimp only [walk, Walk.head, id]
  rw [foldlM_close]
  refine and_congr_right fun _ => ⟨?_, fun h => ⟨d, h, rfl⟩⟩
  rintro ⟨_, h, rfl⟩
  exact h

/-! ## Steps -/

section Steps

variable {line underline : Line} (n : Nat) (current : Option Block) (rest : List Line)

theorem outlineFrom_of_opens {kind : SectionKind} (h : header? line underline = some (.opens kind)) :
    outlineFrom n current (line :: underline :: rest) =
      let found := outlineFrom (n + 2) (some ⟨kind, n, []⟩) rest
      (current.toList ++ found.1, found.2) := by
  simp only [outlineFrom, h]

theorem outlineFrom_of_unsupported {title : Text}
    (h : header? line underline = some (.unsupported title)) :
    outlineFrom n current (line :: underline :: rest) =
      (current.toList, some (.unsupportedSection title)) := by
  simp only [outlineFrom, h]

theorem outlineFrom_of_none (h : header? line underline = none) :
    outlineFrom n current (line :: underline :: rest) =
      outlineFrom (n + 1) (current.map fun b => b.push line) (underline :: rest) := by
  simp only [outlineFrom, h]

end Steps

/-! ## Sections under headers -/

/-- The section that a header at the start of some lines opens. -/
def openedAt? : List Line → Option SectionKind
  | title :: underline :: _ =>
    match header? title underline with
    | some (.opens kind) => some kind
    | _ => none
  | _ => none

theorem exists_dash_of_isUnderline {line : Line} (h : isUnderline line = true) :
    ∃ rest, line = '-' :: rest := by
  simp only [isUnderline, Bool.and_eq_true, decide_eq_true_eq] at h
  obtain ⟨hlength, hdashes⟩ := h
  cases line with
  | nil => cases hlength
  | cons c rest =>
    obtain rfl : c = '-' := by simpa using List.all_eq_true.mp hdashes c (by simp)
    exact ⟨rest, rfl⟩

theorem isUnderline_of_header? {title underline : Line} {header : Header}
    (h : header? title underline = some header) : isUnderline underline = true := by
  unfold header? at h
  split at h
  · rename_i hunderline
    exact (Bool.and_eq_true_iff.mp hunderline).1
  · cases h

/-- No title starts with a dash, so an underline is no title of the lines below it. -/
theorem atHeader_of_isUnderline {line : Line} {rest : List Line} (h : isUnderline line = true) :
    atHeader (line :: rest) = false := by
  obtain ⟨dashes, rfl⟩ := exists_dash_of_isUnderline h
  cases rest with
  | nil => rfl
  | cons below rest =>
    have hnone : headerOfTitle? ('-' :: dashes) = none := by
      simp [headerOfTitle?, SectionKind.ofTitle?, SectionKind.titles, unsupportedTitles]
    simp [atHeader, header?, hnone]

/-- Below the title of a section stands its underline. -/
theorem exists_underline {lines : List Line} {n : Nat} {kind : SectionKind}
    (h : openedAt? (lines.drop n) = some kind) :
    ∃ line ∈ lines[n + 2 - 1]?, isBlank line = false := by
  unfold openedAt? at h
  split at h
  · rename_i title underline rest hlines
    refine ⟨underline, ?_, ?_⟩
    · have hbelow := drop_succ_of_drop hlines
      change lines[n + 1]? = some underline
      rw [← List.head?_drop, hbelow, List.head?_cons]
    · split at h
      · rename_i hfound
        obtain ⟨dashes, rfl⟩ := exists_dash_of_isUnderline (isUnderline_of_header? hfound)
        rfl
      · cases h
  · cases h

/-- A header is a title and the dashes below it. -/
def headers : Headers where
  size := 2
  atHeader := atHeader
  openedAt? := openedAt?
  size_pos := Nat.two_pos
  not_nil := rfl
  ink := exists_underline
  single {lines n i kind} h hlt hle := by
    obtain rfl : i = n + 1 := by omega
    unfold openedAt? at h
    split at h
    · rename_i title underline rest hlines
      rw [drop_succ_of_drop hlines]
      split at h
      · rename_i hfound
        exact atHeader_of_isUnderline (isUnderline_of_header? hfound)
      · cases h
    · cases h

def Block.heading (b : Block) : HeadedSection := ⟨b.kind, b.first, b.body⟩

/-- Above the first header no line may stand: the head ends at it. -/
theorem outlined_outlineFrom {lines rest : List Line} {n : Nat} {current : Option Block}
    (hrest : lines.drop n = rest) (hopen : current = none → rest = [] ∨ atHeader rest = true)
    (hstop : (outlineFrom n current rest).2 = none) :
    headers.Outlined lines n (current.map Block.heading)
      ((outlineFrom n current rest).1.map Block.heading) := by
  have hfinish : ∀ {current : Option Block},
      current.toList.map Block.heading = (current.map Block.heading).toList := by
    rintro (_ | b) <;> rfl
  have hat : ∀ {line : Line} {rest : List Line},
      (line :: rest = [] ∨ atHeader (line :: rest) = true) → atHeader (line :: rest) = true :=
    fun h => h.resolve_left (List.cons_ne_nil _ _)
  fun_induction outlineFrom n current rest with
  | case1 n current => exact hfinish ▸ .finish hrest
  | case2 n current line =>
    cases current with
    | none => cases hat (hopen rfl)
    | some b => exact .push hrest rfl (.finish (drop_succ_of_drop hrest))
  | case3 n current title underline rest kind hheader blocks stop hfound ih =>
    rw [hfound] at ih
    rw [List.map_append, hfinish]
    exact .opens (by simp [headers, hrest, openedAt?, hheader])
      (ih (drop_succ_of_drop (drop_succ_of_drop hrest)) (by simp) hstop)
  | case4 => cases hstop
  | case5 n current title underline rest hheader ih =>
    cases current with
    | none =>
      have hnone := hat (hopen rfl)
      simp [atHeader, hheader] at hnone
    | some b =>
      exact .push hrest (by simp [headers, atHeader, hheader])
        (ih (drop_succ_of_drop hrest) (by simp) hstop)

/-! ## Empty lines at the end -/

theorem ignoresEnd_atHeader : Head.IgnoresEnd atHeader := by
  intro tail
  match tail with
  | [] => rfl
  | [line] => simp [atHeader]
  | line :: next :: rest => rfl

theorem close_push_nil (b : Block) : (b.push []).close = b.close := by
  simp [Block.push, Block.close]

theorem outlineFrom_concat_nil (n : Nat) (current : Option Block) (lines : List Line) :
    let found := outlineFrom n current (lines ++ [[]])
    found.1.map Block.close = (outlineFrom n current lines).1.map Block.close ∧
      found.2 = (outlineFrom n current lines).2 := by
  fun_induction outlineFrom n current lines with
  | case1 n current =>
    cases current with
    | none => exact ⟨rfl, rfl⟩
    | some b => exact ⟨congrArg (· :: []) (close_push_nil b), rfl⟩
  | case2 n current line =>
    rw [List.singleton_append, outlineFrom_of_none n current [] (header?_empty line)]
    cases current with
    | none => exact ⟨rfl, rfl⟩
    | some b => exact ⟨congrArg (· :: []) (close_push_nil (b.push line)), rfl⟩
  | case3 n current title underline rest kind hheader blocks stop hfound ih =>
    rw [List.cons_append, List.cons_append, outlineFrom_of_opens n current _ hheader]
    simp only [List.map_append]
    rw [hfound] at ih
    exact ⟨congrArg _ ih.1, ih.2⟩
  | case4 n current title underline rest unsupported hheader =>
    rw [List.cons_append, List.cons_append, outlineFrom_of_unsupported n current _ hheader]
    exact ⟨rfl, rfl⟩
  | case5 n current title underline rest hheader ih =>
    rw [List.cons_append, List.cons_append, outlineFrom_of_none n current _ hheader]
    exact ih

theorem lawful_walk : walk.Lawful where
  ends _ := id
  summary := ignoresEnd_atHeader
  prose := ignoresEnd_atHeader
  nil := rfl
  outline_nil _ := rfl
  outline_concat n lines := by
    obtain ⟨hitems, hstop⟩ := outlineFrom_concat_nil n none lines
    exact Prod.ext hitems hstop

end Docstring.Numpy
