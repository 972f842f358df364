-- Where a field list cannot be read: at a field or a directive without a place in a document, or at
-- prose below the fields. The lines above that line are walked as they are without it.
import Docstring.Proofs.Rest.Tiled
import Mathlib.Algebra.GroupWithZero.Nat

namespace Docstring.Rest

open Text

/-- The lines of a field, with its marker. -/
def Field.size (f : Field) : Nat := f.body.length + 1

/-- Is this a field that a document has a place for? -/
def Field.isKnown (f : Field) : Bool := f.marker.sectionKind?.isSome

/-- The line at which the walk stops: the one below the lines of all fields, or of those above the
first that no document has a place for. -/
def stopLine (lines : List Line) : Nat :=
  let head := walk.head lines
  head.length +
    (((outlineFrom head.length none head.rest).1.takeWhile Field.isKnown).map Field.size).sum

/-- Line `i`, which stands above the lines `below`, is what the error is about. -/
def Blames (i : Nat) (below : List Line) : ParseError → Prop
  | .unknownField field =>
    ∃ line ∈ below.head?, (classify line).map Prod.fst = some (.unknownField field)
  | .directiveAfterFields name =>
    ∃ line ∈ below.head?, (classify line).map Prod.fst = some (.unknownDirective name)
  | .proseAfterFields n =>
    n = i + 1 ∧ ∃ line ∈ below.head?, classify line = none ∧ isBlank line = false
  | _ => False

/-- An open field stays the first one. -/
theorem exists_head_outlineFrom (n : Nat) (f : Field) (lines : List Line) :
    ∃ body more, (outlineFrom n (some f) lines).1 = { f with body := body } :: more := by
  induction lines generalizing n f with
  | nil => exact ⟨f.body, [], rfl⟩
  | cons line rest ih =>
    by_cases htakes : f.takes line = true
    · rw [outlineFrom_of_takes n rest htakes]
      exact ih (n + 1) (f.push line)
    · have hblank : ¬isBlank line = true := fun hblank => htakes (f.takes_of_isBlank hblank)
      cases hmarker : classify line with
      | none =>
        rw [outlineFrom_of_prose n rest (by simpa using htakes) hblank hmarker]
        exact ⟨f.body, [], rfl⟩
      | some found =>
        rw [outlineFrom_of_marker n rest (by simpa using htakes) hblank hmarker]
        exact ⟨f.body, _, rfl⟩

/-- The walk over some lines makes the fields `before` of the lines `above`, which are walked alone as
they are with the rest. At `line` stands the marker of the next field, or the prose that stops the
walk. -/
structure Divides (n : Nat) (current : Option Field) (before after : List Field)
    (above : List Line) (line : Line) (below : List Line) : Prop where
  outline : outlineFrom n current above = (before, none)
  size : (before.map Field.size).sum = (current.toList.map Field.size).sum + above.length
  marker : ∀ f ∈ after.head?, classify line = some (f.marker, f.text)
  stop : after = [] → (outlineFrom n current (above ++ line :: below)).2 =
      some (.proseAfterFields (n + above.length + 1)) ∧ classify line = none ∧ isBlank line = false

/-- One more line at the top, which the walk over the others does not notice. -/
theorem Divides.cons {n : Nat} {current opened : Option Field} {before later after : List Field}
    {above below : List Line} {first line : Line}
    (h : Divides (n + 1) opened later after above line below)
    (houtline : outlineFrom n current (first :: above) = (before, none))
    (hsize : (before.map Field.size).sum + (opened.toList.map Field.size).sum =
      (later.map Field.size).sum + (current.toList.map Field.size).sum + 1)
    (hstop : (outlineFrom n current (first :: (above ++ line :: below))).2 =
      (outlineFrom (n + 1) opened (above ++ line :: below)).2) :
    Divides n current before after (first :: above) line below where
  outline := houtline
  size := by
    have habove := h.size
    rw [List.length_cons]
    omega
  marker := h.marker
  stop hnil := by
    obtain ⟨herror, hprose⟩ := h.stop hnil
    refine ⟨?_, hprose⟩
    rw [List.cons_append, hstop, herror, List.length_cons]
    congr 2
    omega

/-- A list of fields that starts with the open one is cut below it. -/
theorem exists_later {current : Option Field} {fields before after : List Field}
    (h : current.toList ++ fields = before ++ after) (hopen : current.isSome = true → before ≠ []) :
    ∃ later, before = current.toList ++ later ∧ fields = later ++ after := by
  cases current with
  | none => exact ⟨before, rfl, h⟩
  | some f =>
    obtain ⟨b, later, rfl⟩ := List.exists_cons_of_ne_nil (hopen rfl)
    obtain ⟨rfl, htail⟩ := List.cons.inj h
    exact ⟨later, rfl, htail⟩

/-- The lines above a field, or above the stop, are walked alone as they are with the rest. -/
theorem exists_divides {n : Nat} {current : Option Field} {lines : List Line}
    {before after : List Field}
    (hfirst : current = none → ∀ line ∈ lines.head?, isBlank line = false)
    (hfields : (outlineFrom n current lines).1 = before ++ after)
    (hopen : current.isSome = true → before ≠ [])
    (hend : after = [] → (outlineFrom n current lines).2 ≠ none) :
    ∃ above line below, lines = above ++ line :: below ∧
      Divides n current before after above line below := by
  fun_induction outlineFrom n current lines generalizing before with
  | case1 n current =>
    obtain ⟨later, -, hnil⟩ := exists_later ((List.append_nil _).trans hfields) hopen
    exact absurd rfl (hend (List.append_eq_nil_iff.mp hnil.symm).2)
  | case2 n current line rest htakes ih =>
    cases current with
    | none => cases htakes
    | some f =>
      obtain ⟨above, next, below, rfl, hdivides⟩ := ih (by simp) hfields (fun _ => hopen rfl) hend
      refine ⟨line :: above, next, below, rfl, hdivides.cons ?_ ?_ ?_⟩
      · rw [outlineFrom_of_takes n above htakes]
        exact hdivides.outline
      · simp [Field.size, Field.push]
        omega
      · rw [outlineFrom_of_takes n _ htakes]
        rfl
  | case3 n current line rest htakes hblank ih =>
    cases current with
    | none => exact absurd hblank (by simp [hfirst rfl line rfl])
    | some f => exact absurd (f.takes_of_isBlank hblank) (by simpa using htakes)
  | case4 n current line rest hcurrent hblank marker text hmarker fields stop hfound ih =>
    obtain ⟨later, rfl, hlaterFields⟩ := exists_later hfields hopen
    obtain ⟨body, more, hhead⟩ := exists_head_outlineFrom (n + 1) ⟨marker, text, n, []⟩ rest
    rw [hfound] at ih hhead
    -- `after` starts at this line, or the walk goes on below it
    by_cases hlater : later = []
    · subst hlater
      obtain rfl : after = _ := hlaterFields.symm.trans hhead
      refine ⟨[], line, rest, rfl, by rw [List.append_nil]; rfl, by simp, ?_, by simp⟩
      intro f hf
      obtain rfl : _ = f := Option.some.inj hf
      exact hmarker
    · obtain ⟨above, next, below, rfl, hdivides⟩ :=
        ih (by simp) hlaterFields (fun _ => hlater) hend
      have hstep := fun rest => outlineFrom_of_marker n rest hcurrent hblank hmarker
      refine ⟨line :: above, next, below, rfl, hdivides.cons ?_ ?_ ?_⟩
      · rw [hstep, hdivides.outline]
      · simp [Field.size]
        omega
      · rw [hstep]
  | case5 n current line rest hcurrent hblank hmarker =>
    obtain ⟨later, rfl, hnil⟩ := exists_later ((List.append_nil _).trans hfields) hopen
    obtain ⟨rfl, rfl⟩ := List.append_eq_nil_iff.mp hnil.symm
    rw [List.append_nil]
    have hstop := congrArg Prod.snd (outlineFrom_of_prose n rest hcurrent hblank hmarker)
    exact ⟨[], line, rest, rfl, rfl, by simp, by simp, fun _ => ⟨hstop, hmarker, by simpa using hblank⟩⟩

/-- Fields that are added are known. -/
theorem isKnown_of_foldlM {fields : List Field} {p p' : Progress}
    (h : fields.foldlM Progress.add p = .ok p') : ∀ f ∈ fields, f.isKnown = true := by
  intro f hf
  obtain ⟨above, below, rfl⟩ := List.append_of_mem hf
  obtain ⟨_, _, _, hadd, _⟩ := exists_of_foldlM h
  obtain ⟨_, hfield, _⟩ := add_cases hadd
  obtain ⟨kind, hkind⟩ := exists_sectionKind? hfield
  rw [Field.isKnown, hkind, Option.isSome_some]

theorem addParam_error {d : Document} {kind : ParamKind} {argument : Text} {text : Option Text}
    {error : ParseError} (h : addParam d kind argument text = .error error) :
    error.reason = .malformedEntry := by
  unfold addParam at h
  split at h
  split at h
  dsimp only at h
  split at h
  · cases h
    rfl
  · cases h

/-- A field is refused for what it says, or because no document has a place for it. -/
theorem addField_error {d : Document} {f : Field} {error : ParseError}
    (h : addField d f = .error error) :
    error.reason = .malformedEntry ∨
      (∃ field, f.marker = .unknownField field ∧ error = .unknownField field) ∨
      ∃ name, f.marker = .unknownDirective name ∧ error = .directiveAfterFields name := by
  unfold addField at h
  dsimp only at h
  split at h
  case h_1 =>
    left
    exact addParam_error h
  case h_8 =>
    left
    split at h <;> cases h
    rfl
  case h_12 field hmarker =>
    cases h
    exact .inr (.inl ⟨field, hmarker, rfl⟩)
  case h_13 name hmarker =>
    cases h
    exact .inr (.inr ⟨name, hmarker, rfl⟩)
  all_goals cases h

theorem atField_ink {line : Line} {rest : List Line} (h : atField (line :: rest) = true) :
    isBlank line = false := by
  rw [Bool.eq_false_iff]
  intro hblank
  rw [atField, List.head?_cons, Option.bind_some, classify_of_isBlank hblank] at h
  cases h

/-- The lines of the known fields at the start of a list. -/
theorem splits_known {lines : List Line} {before after : List Field}
    (hfields : (outlineFrom (walk.head lines).length none (walk.head lines).rest).1 = before ++ after)
    (hbefore : ∀ f ∈ before, f.isKnown = true) (hafter : ∀ f ∈ after.head?, f.isKnown = false)
    (hend : after = [] →
      (outlineFrom (walk.head lines).length none (walk.head lines).rest).2 ≠ none) :
    ∃ above line below,
      walk.Splits (walk.head lines).length (walk.head lines).rest (before.map Field.close) above
        (line :: below) ∧
      stopLine lines = (walk.head lines).length + above.length ∧
      (∀ f ∈ after.head?, classify line = some (f.marker, f.text)) ∧
      (after = [] → (outlineFrom (walk.head lines).length none (walk.head lines).rest).2 =
          some (.proseAfterFields (stopLine lines + 1)) ∧
        classify line = none ∧ isBlank line = false) := by
  have hmark : (walk.head lines).rest = [] ∨ atField (walk.head lines).rest = true :=
    Head.mark_cut atMarker atField lines
  have hfirst : ∀ line ∈ (walk.head lines).rest.head?, isBlank line = false := by
    intro line hline
    obtain ⟨rest, hrest⟩ := List.head?_eq_some_iff.mp hline
    rw [hrest] at hmark
    exact atField_ink (hmark.resolve_left (List.cons_ne_nil _ _))
  obtain ⟨above, line, below, hlines, hdivides⟩ :=
    exists_divides (fun _ => hfirst) hfields (by simp) hend
  have hknown : (before ++ after).takeWhile Field.isKnown = before := by
    rw [List.takeWhile_append_of_pos hbefore]
    cases after with
    | nil => rw [List.takeWhile_nil, List.append_nil]
    | cons f after =>
      rw [List.takeWhile_cons_of_neg (by simp [hafter f rfl]), List.append_nil]
  have hline : stopLine lines = (walk.head lines).length + above.length := by
    rw [stopLine, hfields, hknown, hdivides.size]
    simp
  refine ⟨above, line, below, ⟨hlines, ?_, ?_, ?_, ?_⟩, hline, hdivides.marker, ?_⟩
  · change outline _ above = _
    rw [outline, hdivides.outline]
  · cases above with
    | nil => exact .inl rfl
    | cons top more =>
      rw [hlines] at hmark
      exact .inr (hmark.resolve_left (List.cons_ne_nil _ _))
  · intro tail hne
    obtain ⟨top, more, rfl⟩ := List.exists_cons_of_ne_nil hne
    rfl
  · intro tail hne
    obtain ⟨top, more, rfl⟩ := List.exists_cons_of_ne_nil hne
    rfl
  · rw [hline, hlines]
    exact hdivides.stop

/-- What was read when the walk failed is what the lines above it say. The run of fields that was
open is recorded at their end. -/
theorem read_take_stopLine {lines : List Line} {failure : ParseFailure}
    (h : walk.read lines = .error failure) (hreason : failure.error.reason ≠ .malformedEntry) :
    Blames (stopLine lines) (lines.drop (stopLine lines)) failure.error ∧
      ∃ d, walk.read (lines.take (stopLine lines)) = .ok d ∧
        d.unrecorded = failure.document.unrecorded := by
  rcases Walk.read_error h with
    ⟨known, f, others, p, hfound, hrun, hadd⟩ | ⟨p, error, hrun, hstop, rfl⟩
  · obtain ⟨herror, hdocument⟩ := add_error hadd
    change (outlineFrom _ none _).1.map Field.close = _ at hfound
    obtain ⟨before, after, hfields, rfl, hafter⟩ := List.map_eq_append_iff.mp hfound
    obtain ⟨g, more, rfl, rfl, rfl⟩ := List.map_eq_cons_iff.mp hafter
    have hbefore : ∀ f ∈ before, f.isKnown = true :=
      fun f hf => isKnown_of_foldlM hrun f.close (List.mem_map_of_mem hf)
    have hunknown := (addField_error herror).resolve_left hreason
    have hmarker : g.marker.sectionKind? = none := by
      rcases hunknown with ⟨field, hmarker, -⟩ | ⟨name, hmarker, -⟩
      all_goals
        change g.marker = _ at hmarker
        rw [hmarker]
        rfl
    have henter : p.enter g.close = p := by
      have hclosed : g.close.marker.sectionKind? = none := hmarker
      unfold Progress.enter
      rw [hclosed]
    obtain ⟨above, line, below, hsplits, hline, hclassify, -⟩ := splits_known hfields hbefore
      (by simp [Field.isKnown, hmarker]) (by simp)
    have htake := Walk.read_take lawful_walk hsplits hrun
    rw [hline, hsplits.drop_add]
    refine ⟨?_, p.finish, htake, by rw [hdocument, henter]⟩
    have hmarked := hclassify g rfl
    rcases hunknown with ⟨field, hfield, herror⟩ | ⟨name, hname, herror⟩
    · rw [herror]
      exact ⟨line, rfl, by rw [hmarked]; exact congrArg some hfield⟩
    · rw [herror]
      exact ⟨line, rfl, by rw [hmarked]; exact congrArg some hname⟩
  · have hfields : (outlineFrom (walk.head lines).length none (walk.head lines).rest).1 =
        (outlineFrom (walk.head lines).length none (walk.head lines).rest).1 ++ [] := by simp
    change (outlineFrom _ none _).2 = some error at hstop
    obtain ⟨above, line, below, hsplits, hline, -, hprose⟩ := splits_known hfields
      (fun f hf => isKnown_of_foldlM hrun f.close (List.mem_map_of_mem hf)) (by simp)
      (by simp [hstop])
    have htake := Walk.read_take lawful_walk hsplits hrun
    obtain ⟨herror, hmarker, hink⟩ := hprose rfl
    obtain rfl := Option.some.inj (hstop.symm.trans herror)
    rw [hline, hsplits.drop_add]
    refine ⟨⟨rfl, line, rfl, hmarker, hink⟩, p.finish, htake, ?_⟩
    change p.finish.unrecorded = p.document.unrecorded
    unfold Progress.finish
    split <;> rfl

theorem parse_take_stopLine {text : Text} {failure : ParseFailure}
    (hparse : parse text = .error failure) (hentry : failure.error.reason ≠ .malformedEntry) :
    let lines := normalLines text
    Blames (stopLine lines) (lines.drop (stopLine lines)) failure.error ∧
      (normalLines (joinLines (lines.take (stopLine lines))) =
          dropBlankEnd (lines.take (stopLine lines)) →
        ∃ d, parse (joinLines (lines.take (stopLine lines))) = .ok d ∧
          d.unrecorded = failure.document.unrecorded) := by
  rw [parse_eq_read] at hparse
  obtain ⟨hblames, d, htake, hsame⟩ := read_take_stopLine hparse hentry
  refine ⟨hblames, fun hnormal => ⟨d, ?_, hsame⟩⟩
  rw [parse_eq_read, Walk.read_normalLines_take lawful_walk hnormal]
  exact htake

end Docstring.Rest
