-- What the parsers have in common: a head is cut off, the lines below it are outlined as items, and
-- the items are added one after the other. Empty lines at the end say nothing to such a walk, and
-- the lines above a point where items end are walked as they are with everything below.
import Docstring.Proofs.Document.Head
import Docstring.Proofs.Document.Tiled
import Docstring.Proofs.NormalForm

namespace Docstring

open Text

/-! ## Heads -/

namespace Head

variable {mark endsSummary endsProse : List Line → Bool}

/-- A mark that is the same whether or not an empty line follows at the end. -/
def IgnoresEnd (mark : List Line → Bool) : Prop := ∀ tail, mark (tail ++ [[]]) = mark tail

theorem spanUntil_concat_nil (h : ∀ tail ≠ [], mark (tail ++ [[]]) = mark tail)
    (lines : List Line) :
    spanUntil mark (lines ++ [[]]) =
      if (spanUntil mark lines).2 = [] ∧ mark [[]] = false then (lines ++ [[]], [])
      else ((spanUntil mark lines).1, (spanUntil mark lines).2 ++ [[]]) := by
  induction lines with
  | nil => cases hempty : mark [[]] <;> simp [spanUntil, hempty]
  | cons line rest ih =>
    have hmark : mark (line :: (rest ++ [[]])) = mark (line :: rest) := h (line :: rest) (by simp)
    rw [List.cons_append, spanUntil, spanUntil, hmark]
    cases mark (line :: rest) with
    | true => simp
    | false =>
      simp only [Bool.false_eq_true, if_false, ih]
      split <;> rfl

/-- An empty line at the end goes to the prose, or below what stands under it. -/
theorem cut_concat_nil (hsummary : IgnoresEnd endsSummary) (hprose : IgnoresEnd endsProse)
    (hnil : endsProse [] = false) (lines : List Line) :
    let head := cut endsSummary endsProse lines
    cut endsSummary endsProse (lines ++ [[]]) =
      if head.rest = [] then { head with length := head.length + 1 }
      else { head with rest := head.rest ++ [[]] } := by
  have hends := @spanUntil_concat_nil
    (fun tail => ((tail.head?.map isBlank).getD false) || endsSummary tail)
    (fun tail hne => by
      obtain ⟨line, rest, rfl⟩ := List.exists_cons_of_ne_nil hne
      exact congrArg (isBlank line || ·) (hsummary (line :: rest))) lines
  have hmark : endsProse [[]] = false := (hprose []).trans hnil
  rw [if_neg (by simp [isBlank])] at hends
  rcases hsplit : spanUntil (fun tail => ((tail.head?.map isBlank).getD false) || endsSummary tail)
    lines with ⟨summary, below⟩
  rw [hsplit] at hends
  simp only [cut, hends, hsplit, spanUntil_concat_nil (fun tail _ => hprose tail) below]
  have hbelow := append_spanUntil endsProse below
  by_cases hrest : (spanUntil endsProse below).2 = []
  · rw [hrest, List.append_nil] at hbelow
    have hsame : joinProse? (below ++ [[]]) = joinProse? below := by
      simp only [joinProse?, trimBlankLines_concat_empty]
    simp [hrest, hmark, hbelow, hsame, Nat.add_assoc]
  · simp [hrest]

/-- What stands below the lines above a mark may be replaced. -/
theorem spanUntil_append_of_same {above rest below : List Line}
    (hspan : spanUntil mark (above ++ rest) = (above, rest))
    (hsame : ∀ tail ≠ [], mark (tail ++ below) = mark (tail ++ rest))
    (hbelow : below = [] ∨ mark below = true) : spanUntil mark (above ++ below) = (above, below) := by
  refine spanUntil_append (fun tail htail hne => ?_) hbelow
  rw [hsame tail hne]
  obtain ⟨before, rfl⟩ := htail
  have hlt : before.length < (spanUntil mark (before ++ tail ++ rest)).1.length := by
    rw [hspan, List.length_append]
    exact Nat.lt_add_of_pos_right (List.length_pos_of_ne_nil hne)
  have hnone := mark_drop_of_lt_spanUntil hlt
  rwa [List.append_assoc, List.drop_left] at hnone

/-- The marked part may be replaced by another one, if this starts with a mark, too, and no line
above it becomes one. -/
theorem cut_take_append (hends : ∀ tail, endsProse tail = true → endsSummary tail = true)
    {lines below : List Line}
    (hsummary : ∀ tail ≠ [], endsSummary (tail ++ below) =
      endsSummary (tail ++ (cut endsSummary endsProse lines).rest))
    (hprose : ∀ tail ≠ [], endsProse (tail ++ below) =
      endsProse (tail ++ (cut endsSummary endsProse lines).rest))
    (hbelow : below = [] ∨ endsProse below = true) :
    cut endsSummary endsProse (lines.take (cut endsSummary endsProse lines).length ++ below) =
      { cut endsSummary endsProse lines with rest := below } := by
  let blankOrMark := fun tail : List Line =>
    ((tail.head?.map isBlank).getD false) || endsSummary tail
  obtain ⟨summary, after, hsplit⟩ : ∃ summary after, spanUntil blankOrMark lines = (summary, after) :=
    ⟨_, _, rfl⟩
  obtain ⟨prose, rest, hcut⟩ : ∃ prose rest, spanUntil endsProse after = (prose, rest) := ⟨_, _, rfl⟩
  have hhead : cut endsSummary endsProse lines =
      ⟨joinLines summary, joinProse? prose, summary.length + prose.length, rest⟩ := by
    simp only [cut]
    rw [show spanUntil _ lines = _ from hsplit]
    simp only [hcut]
  have hlines := append_spanUntil blankOrMark lines
  have hafter := append_spanUntil endsProse after
  rw [hsplit] at hlines
  rw [hcut] at hafter
  dsimp only at hlines hafter
  subst hafter hlines
  rw [hhead] at hsummary hprose ⊢
  dsimp only at hsummary hprose ⊢
  -- whether a line ends the summary does not change, since it is not the one below that is asked
  have hmark : ∀ tail ≠ [], blankOrMark (tail ++ below) = blankOrMark (tail ++ rest) := by
    intro tail hne
    have hends' := hsummary tail hne
    obtain ⟨line, more, rfl⟩ := List.exists_cons_of_ne_nil hne
    exact congrArg (isBlank line || ·) hends'
  have hstop : prose ++ below = [] ∨ blankOrMark (prose ++ below) = true := by
    by_cases hne : prose = []
    · rw [hne]
      exact hbelow.imp_right fun h => Bool.or_eq_true_iff.mpr (.inr (hends _ h))
    · rw [hmark prose hne]
      have hstopped := mark_spanUntil blankOrMark (summary ++ (prose ++ rest))
      rw [hsplit] at hstopped
      exact .inr (hstopped.resolve_left (by simp [hne]))
  have hfirst : spanUntil blankOrMark (summary ++ (prose ++ below)) = (summary, prose ++ below) := by
    refine spanUntil_append_of_same hsplit (fun tail hne => ?_) hstop
    rw [← List.append_assoc, ← List.append_assoc]
    exact hmark (tail ++ prose) (by simp [hne])
  have hsecond : spanUntil endsProse (prose ++ below) = (prose, below) :=
    spanUntil_append_of_same hcut hprose hbelow
  have htake : (summary ++ (prose ++ rest)).take (summary.length + prose.length) ++ below =
      summary ++ (prose ++ below) := by
    rw [← List.append_assoc, ← List.length_append, List.take_left, List.append_assoc]
  rw [htake]
  simp only [cut]
  rw [show spanUntil _ (summary ++ (prose ++ below)) = _ from hfirst]
  simp only [hsecond]

end Head

/-! ## Runs -/

/-- A run that fails does so at one of its items. -/
theorem exists_of_foldlM_error {State Item Error : Type} {step : State → Item → Except Error State}
    {items : List Item} {s : State} {error : Error} (h : items.foldlM step s = .error error) :
    ∃ above item below before, items = above ++ item :: below ∧
      above.foldlM step s = .ok before ∧ step before item = .error error := by
  induction items generalizing s with
  | nil => cases h
  | cons item items ih =>
    rw [List.foldlM_cons] at h
    cases hitem : step s item with
    | error e =>
      rw [hitem] at h
      cases h
      exact ⟨[], item, items, s, rfl, rfl, hitem⟩
    | ok after =>
      rw [hitem] at h
      obtain ⟨above, failed, below, before, rfl, habove, hfailed⟩ := ih h
      refine ⟨item :: above, failed, below, before, rfl, ?_, hfailed⟩
      rw [List.foldlM_cons, hitem]
      exact habove

/-- The document that a reading gives, whether or not it comes to the end. -/
def ParseResult.document : ParseResult → Document
  | .ok d => d
  | .error failure => failure.document

/-- A document without the record of its sections. -/
def Document.unrecorded (d : Document) : Document := { d with metadata.sections := [] }

/-- What each step preserves, whether or not it fails, is preserved by a run. -/
theorem document_foldlM {Item : Type} {P : Document → Prop}
    {step : Document → Item → ParseResult}
    (hstep : ∀ d item, P d → P (step d item).document) (items : List Item) {d : Document}
    (h : P d) : P (ParseResult.document (items.foldlM step d)) := by
  induction items generalizing d with
  | nil => exact h
  | cons item items ih =>
    have hitem := hstep d item h
    rw [List.foldlM_cons]
    cases hresult : step d item with
    | error failure => rwa [hresult] at hitem
    | ok d' =>
      rw [hresult] at hitem
      exact ih hitem

/-! ## Walks -/

/-- A way to read lines: the marks that end the head, the outline of the lines below it, which may
stop before their end, and how the items of the outline are added. -/
structure Walk (Item State : Type) where
  style : Style
  endsSummary : List Line → Bool
  endsProse : List Line → Bool
  outline : Nat → List Line → List Item × Option ParseError
  start : Document → State
  add : State → Item → Except ParseFailure State
  /-- The document at the end of the lines. -/
  finish : State → Document
  /-- The document where the outline stops before their end. -/
  halt : State → Document

namespace Walk

variable {Item State : Type}

def head (w : Walk Item State) (lines : List Line) : Head :=
  Head.cut w.endsSummary w.endsProse lines

/-- Reads what stands below a head. -/
def readBelow (w : Walk Item State) (h : Head) : ParseResult :=
  match (w.outline h.length h.rest).1.foldlM w.add (w.start (h.document w.style)) with
  | .error failure => .error failure
  | .ok s =>
    match (w.outline h.length h.rest).2 with
    | some error => .error ⟨error, w.halt s⟩
    | none => .ok (w.finish s)

def read (w : Walk Item State) (lines : List Line) : ParseResult := w.readBelow (w.head lines)

/-- What holds of every walk: what ends the prose ends the summary, and empty lines at the end are
no marks and no items. -/
structure Lawful (w : Walk Item State) : Prop where
  ends : ∀ tail, w.endsProse tail = true → w.endsSummary tail = true
  summary : Head.IgnoresEnd w.endsSummary
  prose : Head.IgnoresEnd w.endsProse
  nil : w.endsProse [] = false
  outline_nil : ∀ n, w.outline n [] = ([], none)
  outline_concat : ∀ n lines, w.outline n (lines ++ [[]]) = w.outline n lines

variable {w : Walk Item State}

theorem read_concat_nil (hw : w.Lawful) (lines : List Line) :
    w.read (lines ++ [[]]) = w.read lines := by
  have hcut := Head.cut_concat_nil hw.summary hw.prose hw.nil lines
  rw [read, read, head, hcut, head]
  generalize Head.cut w.endsSummary w.endsProse lines = h
  by_cases hrest : h.rest = []
  · rw [if_pos hrest, readBelow, readBelow]
    simp only [hrest, hw.outline_nil]
    rfl
  · rw [if_neg hrest, readBelow, readBelow]
    simp only [hw.outline_concat]
    rfl

/-- Empty lines at the end say nothing. -/
theorem read_append_empty (hw : w.Lawful) (lines : List Line) {below : List Line}
    (hempty : ∀ line ∈ below, line = []) : w.read (lines ++ below) = w.read lines := by
  induction below using List.reverseRecOn with
  | nil => rw [List.append_nil]
  | append_singleton below line ih =>
    rw [hempty line (by simp), ← List.append_assoc, read_concat_nil hw,
      ih fun l hl => hempty l (by simp [hl])]

/-- Some lines at the start of a text, joined and read on their own, are read as the lines they are
where normalizing takes nothing but empty lines from their end. -/
theorem read_normalLines_take (hw : w.Lawful)
    {text : Text} {i : Nat}
    (h : normalLines (joinLines ((normalLines text).take i)) =
      dropBlankEnd ((normalLines text).take i)) :
    w.read (normalLines (joinLines ((normalLines text).take i))) =
      w.read ((normalLines text).take i) := by
  have hlines : dropBlankEnd ((normalLines text).take i) ++
      ((normalLines text).take i).rtakeWhile isBlank = (normalLines text).take i :=
    List.rdropWhile_append_rtakeWhile
  rw [h]
  conv => rhs; rw [← hlines]
  refine (read_append_empty hw _ fun line hline => ?_).symm
  have hmem : line ∈ (normalLines text).take i :=
    (List.rtakeWhile_suffix isBlank _).subset hline
  have hclean : IsClean line := (isNormal_normalLines text).clean line (List.mem_of_mem_take hmem)
  exact hclean.blank_iff.mp (List.mem_rtakeWhile_imp hline)

/-- The lines that the first items of an outline are made of: no item is opened or closed
differently because of what stands below them. -/
structure Splits (w : Walk Item State) (n : Nat) (lines : List Line) (items : List Item)
    (above below : List Line) : Prop where
  append : lines = above ++ below
  outline : w.outline n above = (items, none)
  opens : above = [] ∨ w.endsProse above = true
  summary : ∀ tail ≠ [], w.endsSummary (tail ++ above) = w.endsSummary (tail ++ lines)
  prose : ∀ tail ≠ [], w.endsProse (tail ++ above) = w.endsProse (tail ++ lines)

theorem Splits.drop {lines above below : List Line} {items : List Item}
    (h : w.Splits (w.head lines).length (w.head lines).rest items above below) :
    lines.drop (w.head lines).length = above ++ below :=
  (Head.drop_cut _ _ lines).trans h.append

theorem Splits.drop_add {lines above below : List Line} {items : List Item}
    (h : w.Splits (w.head lines).length (w.head lines).rest items above below) :
    lines.drop ((w.head lines).length + above.length) = below := by
  rw [← List.drop_drop, h.drop, List.drop_left]

/-- Above such a point, the same items are read when all that stands below it is missing. -/
theorem read_take (hw : w.Lawful) {lines above below : List Line} {items : List Item} {s : State}
    (h : w.Splits (w.head lines).length (w.head lines).rest items above below)
    (hitems : items.foldlM w.add (w.start ((w.head lines).document w.style)) = .ok s) :
    w.read (lines.take ((w.head lines).length + above.length)) = .ok (w.finish s) := by
  have hlines : lines.take ((w.head lines).length + above.length) =
      lines.take (w.head lines).length ++ above := by
    rw [List.take_add, h.drop, List.take_left]
  have hhead : w.head (lines.take (w.head lines).length ++ above) =
      { w.head lines with rest := above } :=
    Head.cut_take_append hw.ends h.summary h.prose h.opens
  have hstart : ({ w.head lines with rest := above } : Head).document w.style =
      (w.head lines).document w.style := rfl
  simp only [hlines, read, hhead, readBelow, h.outline, hstart, hitems]

/-- Reading succeeds where the outline goes to the end of the lines and every item can be added. -/
theorem read_eq_ok_iff {lines : List Line} {d : Document} :
    w.read lines = .ok d ↔
      let found := w.outline (w.head lines).length (w.head lines).rest
      found.2 = none ∧
        ∃ s, found.1.foldlM w.add (w.start ((w.head lines).document w.style)) = .ok s ∧
          d = w.finish s := by
  dsimp only [read, readBelow]
  cases hrun : (w.outline _ _).1.foldlM w.add _ with
  | error failed => simp
  | ok s =>
    cases hstop : (w.outline _ _).2 with
    | none => simp [eq_comm]
    | some error => simp

/-- Reading fails at an item that cannot be added, or where the outline stops. -/
theorem read_error {lines : List Line} {failure : ParseFailure} (h : w.read lines = .error failure) :
    let found := w.outline (w.head lines).length (w.head lines).rest
    let start := w.start ((w.head lines).document w.style)
    (∃ above item below s, found.1 = above ++ item :: below ∧ above.foldlM w.add start = .ok s ∧
        w.add s item = .error failure) ∨
      ∃ s error, found.1.foldlM w.add start = .ok s ∧ found.2 = some error ∧
        failure = ⟨error, w.halt s⟩ := by
  intro found start
  change (match found.1.foldlM w.add start with
    | .error failure => .error failure
    | .ok s =>
      match found.2 with
      | some error => .error ⟨error, w.halt s⟩
      | none => .ok (w.finish s) : ParseResult) = .error failure at h
  cases hrun : found.1.foldlM w.add start with
  | error failed =>
    rw [hrun] at h
    cases h
    exact .inl (exists_of_foldlM_error hrun)
  | ok s =>
    rw [hrun] at h
    cases hstop : found.2 with
    | none =>
      rw [hstop] at h
      cases h
    | some error =>
      rw [hstop] at h
      cases h
      exact .inr ⟨s, error, rfl, rfl, rfl⟩

/-! ### What a walk preserves -/

/-- What a walk starts with and each of its steps preserves holds where it ends, and where it
stops. -/
theorem document_read (w : Walk Item State) (lines : List Line) {P : Document → Prop}
    {Q : State → Prop}
    (hstart : Q (w.start ((w.head lines).document w.style)))
    (hadd : ∀ s item s', w.add s item = .ok s' → Q s → Q s')
    (hfail : ∀ s item failure, w.add s item = .error failure → Q s → P failure.document)
    (hfinish : ∀ s, Q s → P (w.finish s)) (hhalt : ∀ s, Q s → P (w.halt s)) :
    P (w.read lines).document := by
  unfold read readBelow
  cases hrun : (w.outline (w.head lines).length (w.head lines).rest).1.foldlM w.add
      (w.start ((w.head lines).document w.style)) with
  | error failure =>
    obtain ⟨above, item, below, s, -, habove, hitem⟩ := exists_of_foldlM_error hrun
    exact hfail s item failure hitem (foldlM_induction hadd habove hstart)
  | ok s =>
    have hs := foldlM_induction hadd hrun hstart
    cases (w.outline (w.head lines).length (w.head lines).rest).2 with
    | none => exact hfinish s hs
    | some error => exact hhalt s hs

/-- A walk that goes from document to document. -/
theorem document_read_of_add (w : Walk Item Document) (lines : List Line)
    {P : Document → Prop}
    (hstart : P (w.start ((w.head lines).document w.style)))
    (hadd : ∀ d item, P d → P (ParseResult.document (w.add d item)))
    (hfinish : ∀ d, P d → P (w.finish d)) (hhalt : ∀ d, P d → P (w.halt d)) :
    P (w.read lines).document := by
  refine w.document_read lines hstart ?_ ?_ hfinish hhalt
  · intro d item d' hresult hd
    have hstep := hadd d item hd
    rwa [hresult] at hstep
  · intro d item failure hresult hd
    have hstep := hadd d item hd
    rwa [hresult] at hstep

end Walk

end Docstring
