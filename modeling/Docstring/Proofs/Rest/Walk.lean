-- A field list as a walk over fields, and the steps of its outline: what a line does to the field that
-- is open above it.
import Docstring.Proofs.Document.Walk
import Docstring.Proofs.Rest.Fields

namespace Docstring.Rest

open Text

/-- A field list as a walk over fields. -/
def walk : Walk Field Progress where
  style := .rest
  endsSummary := atMarker
  endsProse := atField
  outline := outline
  start d := ⟨d, none⟩
  add := Progress.add
  finish := Progress.finish
  halt := Progress.document

theorem parse_eq_read (text : Text) : parse text = walk.read (normalLines text) := by
  unfold parse Walk.read Walk.readBelow Walk.head
  dsimp only [walk]
  cases List.foldlM Progress.add _ _ with
  | error failure => rfl
  | ok p => rfl

/-- A docstring is read when nothing stops its outline and each of its fields can be added. -/
theorem parse_eq_ok_iff {text : Text} {d : Document} :
    parse text = .ok d ↔
      let head := Head.cut atMarker atField (normalLines text)
      let found := outline head.length head.rest
      found.2 = none ∧
        ∃ p, found.1.foldlM Progress.add ⟨head.document .rest, none⟩ = .ok p ∧ d = p.finish := by
  rw [parse_eq_read, Walk.read_eq_ok_iff]
  rfl

/-! ## Steps -/

section Steps

variable {line : Line} (n : Nat) (rest : List Line)

theorem outlineFrom_of_takes {f : Field} (h : f.takes line = true) :
    outlineFrom n (some f) (line :: rest) = outlineFrom (n + 1) (some (f.push line)) rest := by
  simp [outlineFrom, h]

theorem outlineFrom_of_marker {current : Option Field} {marker : Marker} {text : Text}
    (hcurrent : ¬(current.any fun f => f.takes line) = true) (hblank : ¬isBlank line = true)
    (h : classify line = some (marker, text)) :
    outlineFrom n current (line :: rest) =
      let found := outlineFrom (n + 1) (some ⟨marker, text, n, []⟩) rest
      (current.toList ++ found.1, found.2) := by
  conv => lhs; unfold outlineFrom
  simp only [hcurrent, hblank, h]
  rfl

theorem outlineFrom_of_prose {current : Option Field}
    (hcurrent : ¬(current.any fun f => f.takes line) = true) (hblank : ¬isBlank line = true)
    (h : classify line = none) :
    outlineFrom n current (line :: rest) = (current.toList, some (.proseAfterFields (n + 1))) := by
  conv => lhs; unfold outlineFrom
  simp only [hcurrent, hblank, h]
  rfl

end Steps

/-! ## Empty lines at the end -/

theorem close_push_nil (f : Field) : (f.push []).close = f.close := by
  simp [Field.push, Field.close]

theorem outlineFrom_concat_nil (n : Nat) (current : Option Field) (lines : List Line) :
    let found := outlineFrom n current (lines ++ [[]])
    found.1.map Field.close = (outlineFrom n current lines).1.map Field.close ∧
      found.2 = (outlineFrom n current lines).2 := by
  fun_induction outlineFrom n current lines with
  | case1 n current =>
    cases current with
    | none => exact ⟨rfl, rfl⟩
    | some f =>
      rw [List.nil_append, outlineFrom_of_takes n [] (f.takes_of_isBlank rfl)]
      exact ⟨congrArg (· :: []) (close_push_nil f), rfl⟩
  | case2 n current line rest htakes ih =>
    cases current with
    | none => cases htakes
    | some f =>
      rw [List.cons_append, outlineFrom_of_takes n _ htakes]
      exact ih
  | case3 n current line rest htakes hblank ih =>
    cases current with
    | none =>
      have hskip : outlineFrom n none (line :: (rest ++ [[]])) =
          outlineFrom (n + 1) none (rest ++ [[]]) := by simp [outlineFrom, hblank]
      rw [List.cons_append, hskip]
      exact ih
    | some f => exact absurd (f.takes_of_isBlank hblank) (by simpa using htakes)
  | case4 n current line rest hcurrent hblank marker text hmarker fields stop hfound ih =>
    rw [List.cons_append, outlineFrom_of_marker n _ hcurrent hblank hmarker]
    simp only [List.map_append]
    rw [hfound] at ih
    exact ⟨congrArg _ ih.1, ih.2⟩
  | case5 n current line rest hcurrent hblank hmarker =>
    rw [List.cons_append, outlineFrom_of_prose n _ hcurrent hblank hmarker]
    exact ⟨rfl, rfl⟩

theorem lawful_walk : walk.Lawful where
  ends tail h := by
    change atField tail = true at h
    change atMarker tail = true
    unfold atField at h
    unfold atMarker
    cases hmarker : tail.head?.bind classify with
    | none => rw [hmarker] at h; cases h
    | some found => rfl
  summary tail := by cases tail <;> rfl
  prose tail := by cases tail <;> rfl
  nil := rfl
  outline_nil _ := rfl
  outline_concat n lines := by
    obtain ⟨hitems, hstop⟩ := outlineFrom_concat_nil n none lines
    exact Prod.ext hitems hstop

end Docstring.Rest
