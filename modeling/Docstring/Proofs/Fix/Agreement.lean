-- Reports on a file and the edits in them. Each operation goes through the definitions or the
-- assignments one by one, and for each of them its report has one edit and one outcome that counts
-- as applied, or neither. Since an edit is only made where the old text was read, the edits can be
-- made, whatever else is wrong with other spans.
import Docstring.Fix.Assignment
import Docstring.Proofs.Edit.Application
import Docstring.Proofs.Fix.ReturnType

namespace Docstring

open Text

/-! ## Spans that are read -/

/-- What can be cut out of a text is where a span fits. -/
theorem Span.fits_of_slice? {t between : Text} {s : Span}
    (h : slice? t s.first s.last = some between) : s.Fits t := by
  unfold slice? at h
  split at h
  · rename_i hle
    split at h
    · rename_i left rest hfirst
      obtain ⟨⟨inner, right⟩, hlast, rfl⟩ := Option.map_eq_some_iff.mp h
      obtain ⟨rfl, hleft⟩ := cut?_eq_some_iff.mp hfirst
      obtain ⟨rfl, hinner⟩ := cut?_eq_some_iff.mp hlast
      refine ⟨hle, ?_, ⟨left, _, rfl, hleft⟩, ⟨left ++ inner, right, by simp, ?_⟩⟩
      · simp only [byteLength_append]
        omega
      · rw [byteLength_append]
        omega
    · simp at h
  · simp at h

theorem fits_of_ofSource? {source : Text} {site : DocstringSite} {l : Literal}
    (h : Literal.ofSource? source site = some l) : site.span.Fits source := by
  obtain ⟨t, ht, -⟩ := Option.bind_eq_some_iff.mp h
  exact Span.fits_of_slice? ht

/-! ## Text comes with the outcome -/

theorem Conversion.applied_iff (text : Text) (origin : StyleSource) (target : Style)
    (symbol : Option SymbolFact) (options : ConvertOptions) :
    (convert text origin target symbol options).outcome = .applied ↔
      (convert text origin target symbol options).text.isSome = true := by
  have hwrite : ∀ normal d style confidence warnings,
      (write normal d style target confidence symbol options warnings).outcome = .applied ↔
        (write normal d style target confidence symbol options warnings).text.isSome = true := by
    intro normal d style confidence warnings
    unfold write
    split
    · simp
    · dsimp only
      generalize target.render _ options.maxLineWidth = rendered
      by_cases hsame : rendered = normal <;> simp [hsame]
  have hread : ∀ normal style confidence warnings,
      (readAndWrite normal style target confidence symbol options warnings).outcome = .applied ↔
        (readAndWrite normal style target confidence symbol options warnings).text.isSome = true := by
    intro normal style confidence warnings
    simp only [readAndWrite]
    split
    · exact hwrite _ _ _ _ _
    · split
      · exact hwrite _ _ _ _ _
      · simp
  unfold convert
  dsimp only
  generalize styleOf origin (normalText text) = found
  split
  · split
    · exact hread _ _ _ _
    · simp
  · exact hread _ _ _ _

namespace Fix

/-! ## What a report accounts for -/

/-- One change to a file: what it is about, the edit that makes it, and what is reported of it. -/
structure Change (α : Type) where
  subject : α
  edit : Edit
  outcome : SymbolOutcome

variable {α : Type} {about : Change α → Prop} {x : α} {xs ys : List α} {a b r : FixReport}
  {changes more : List (Change α)}

/-- A report goes through some subjects in their order. Its edits are those of some changes, one
after the other, and the outcomes that count as applied are those of the same changes. -/
structure Accounts (about : Change α → Prop) (subjects : List α) (r : FixReport)
    (changes : List (Change α)) : Prop where
  subjects : (changes.map Change.subject).Sublist subjects
  edits : r.edits = changes.map Change.edit
  applied : r.outcomes.filter (fun o => o.outcome = .applied) = changes.map Change.outcome
  about : ∀ c ∈ changes, about c

theorem accounts_none (hedits : r.edits = []) (houtcomes : ∀ o ∈ r.outcomes, o.outcome ≠ .applied) :
    Accounts about xs r [] where
  subjects := List.nil_sublist _
  edits := hedits
  applied := by
    rw [List.map_nil, List.filter_eq_nil_iff]
    simpa using houtcomes
  about := by simp

theorem accounts_one {e : Edit} {o : SymbolOutcome} (hedits : r.edits = [e])
    (houtcomes : r.outcomes = [o]) (ho : o.outcome = .applied) (habout : about ⟨x, e, o⟩) :
    Accounts about [x] r [⟨x, e, o⟩] where
  subjects := List.Sublist.refl _
  edits := hedits
  applied := by simp [houtcomes, ho]
  about := by simpa using habout

theorem Accounts.append (ha : Accounts about xs a changes) (hb : Accounts about ys b more) :
    Accounts about (xs ++ ys) (a.append b) (changes ++ more) where
  subjects := by
    rw [List.map_append]
    exact ha.subjects.append hb.subjects
  edits := by rw [FixReport.append, ha.edits, hb.edits, List.map_append]
  applied := by rw [FixReport.append, List.filter_append, ha.applied, hb.applied, List.map_append]
  about c hc := (List.mem_append.mp hc).elim (ha.about c) (hb.about c)

/-- A run accounts for what its steps account for. -/
theorem Accounts.foldl {f : α → FixReport} (hf : ∀ x, ∃ changes, Accounts about [x] (f x) changes)
    (h : Accounts about xs r changes) (ys : List α) :
    ∃ changes, Accounts about (xs ++ ys) (ys.foldl (fun r x => r.append (f x)) r) changes := by
  induction ys generalizing xs r changes with
  | nil => exact ⟨changes, by simpa using h⟩
  | cons y ys ih =>
    obtain ⟨more, hmore⟩ := hf y
    have hrest := ih (h.append hmore)
    rwa [List.append_assoc] at hrest

theorem exists_accounts_foldl (file : Nat) {f : α → FixReport}
    (hf : ∀ x, ∃ changes, Accounts about [x] (f x) changes) (xs : List α) :
    ∃ changes, Accounts about xs (xs.foldl (fun r x => r.append (f x)) { file := file }) changes := by
  have hnone : Accounts about [] ({ file := file } : FixReport) [] := accounts_none rfl (by simp)
  exact hnone.foldl hf xs

/-! ## One definition, one assignment -/

/-- The span of a definition's docstring. -/
def docstringSpan? (s : SymbolFact) : Option Span := s.docstring.map DocstringSite.span

/-- The change of a docstring: the edit replaces the literal where it was read. -/
structure Change.IsOfDocstring (source : Text) (c : Change SymbolFact) : Prop where
  site : docstringSpan? c.subject = some c.edit.span
  fits : c.edit.span.Fits source
  symbol : c.outcome.symbol = c.subject.qualifiedName
  line : c.outcome.line = c.subject.line

/-- The change of an assignment: the edit inserts at the end of the target, where it was read. -/
structure Change.IsOfTarget (source : Text) (c : Change AssignmentFact) : Prop where
  point : c.edit.span = .point c.subject.targetSpan.last
  fits : c.subject.targetSpan.Fits source
  symbol : c.outcome.symbol = c.subject.target
  line : c.outcome.line = c.subject.line

variable {file : Nat} {source : Text}

theorem exists_accounts_restyleSymbol (target : Style) (origin : StyleSource)
    (options : ConvertOptions) (symbol : SymbolFact) :
    ∃ changes, Accounts (Change.IsOfDocstring source) [symbol]
      (restyleSymbol file source target origin options symbol) changes := by
  simp only [restyleSymbol]
  split
  · exact ⟨[], accounts_none rfl (by simp)⟩
  · split
    · exact ⟨[], accounts_none rfl (by simp)⟩
    · rename_i site hsite
      split
      · exact ⟨[], accounts_none rfl (by simp [notPlain])⟩
      · rename_i literal hliteral
        have happlied := Conversion.applied_iff literal.body origin target (some symbol)
          { options with maxLineWidth := options.maxLineWidth - literal.marginWidth }
        split
        · rename_i newBody htext
          rw [htext] at happlied
          unfold writeBack
          split
          · exact ⟨[], accounts_none rfl (by simp)⟩
          · split
            · exact ⟨[], accounts_none rfl (by simp)⟩
            · exact ⟨_, accounts_one rfl rfl (happlied.mpr rfl)
                ⟨by rw [docstringSpan?, hsite]; rfl, fits_of_ofSource? hliteral, rfl, rfl⟩⟩
        · rename_i htext
          rw [htext] at happlied
          exact ⟨[], accounts_none rfl (by simpa [conversionOutcome] using happlied)⟩

theorem exists_accounts_fixReturnType (options : ConvertOptions) (default : Style)
    (symbol : SymbolFact) :
    ∃ changes, Accounts (Change.IsOfDocstring source) [symbol]
      (fixReturnType file source options default symbol) changes := by
  unfold fixReturnType
  split
  · rename_i site hint hsite hhint
    split
    · exact ⟨[], accounts_none rfl (by simp)⟩
    · split
      · exact ⟨[], accounts_none rfl (by simp [notPlain])⟩
      · rename_i literal hliteral
        have hfix := isOf_fixLiteral literal symbol hint options default
        generalize fixLiteral literal symbol hint options default = fix at hfix
        obtain ⟨outcome, text⟩ := fix
        cases text with
        | none =>
          have hskipped : outcome.outcome ≠ .applied := fun h => by simpa using hfix.applied.mp h
          exact ⟨[], accounts_none rfl (by simpa using hskipped)⟩
        | some text =>
          exact ⟨_, accounts_one rfl rfl (hfix.applied.mpr rfl)
            ⟨by rw [docstringSpan?, hsite]; rfl, fits_of_ofSource? hliteral, hfix.symbol, hfix.line⟩⟩
  · exact ⟨[], accounts_none rfl (by simp)⟩

theorem exists_accounts_annotateOne (assignment : AssignmentFact) :
    ∃ changes, Accounts (Change.IsOfTarget source) [assignment]
      (annotateOne file source assignment) changes := by
  unfold annotateOne
  split
  · exact ⟨[], accounts_none rfl (by simp [assignmentOutcome])⟩
  · rename_i hread
    split
    · exact ⟨_, accounts_one rfl rfl rfl ⟨rfl, Span.fits_of_slice? (not_not.mp hread), rfl, rfl⟩⟩
    · exact ⟨[], accounts_none rfl (by simp [assignmentOutcome])⟩

/-! ## A file -/

/-- Spans of which no two that a text has get in each other's way. -/
def KeepApart (t : Text) (spans : List Span) : Prop :=
  spans.Pairwise fun a b => a.Fits t → b.Fits t → a.overlaps b = false

instance (t : Text) (spans : List Span) : Decidable (KeepApart t spans) :=
  inferInstanceAs (Decidable (spans.Pairwise _))

/-- A report and its edits agree: it accounts for them, they can be made, and making them replaces
nothing but their spans. -/
structure Agrees (source : Text) (about : Change α → Prop) (subjects : List α) (r : FixReport) :
    Prop where
  accounts : ∃ changes, Accounts about subjects r changes
  made : ∃ new, Edit.applyAll source r.edits = .ok new ∧
    Edit.Replaced 0 source (Edit.ascending r.edits) new

theorem Accounts.agrees_of_docstrings {symbols : List SymbolFact}
    {changes : List (Change SymbolFact)}
    (h : Accounts (Change.IsOfDocstring source) symbols r changes)
    (hapart : KeepApart source (symbols.filterMap docstringSpan?)) :
    Agrees source (Change.IsOfDocstring source) symbols r := by
  have hfits : ∀ e ∈ r.edits, e.span.Fits source := by
    intro e he
    rw [h.edits] at he
    obtain ⟨c, hc, rfl⟩ := List.mem_map.mp he
    exact (h.about c hc).fits
  have hspans : (changes.map Change.subject).filterMap docstringSpan? = r.edits.map Edit.span := by
    rw [List.filterMap_map, h.edits, List.map_map, ← List.filterMap_eq_map]
    exact List.filterMap_congr fun c hc => (h.about c hc).site
  have hnone : Edit.NoneOverlap r.edits := by
    have hkept := List.Pairwise.sublist (h.subjects.filterMap docstringSpan?) hapart
    rw [hspans, List.pairwise_map] at hkept
    exact hkept.imp_of_mem fun ha hb hab => hab (hfits _ ha) (hfits _ hb)
  exact ⟨⟨changes, h⟩, Edit.exists_applyAll hfits hnone⟩

/-- Two insertions meet only at the ends of targets that overlap. -/
theorem overlaps_point {a b : Span} (ha : a.first < a.last) (hb : b.first < b.last)
    (h : a.overlaps b = false) : (Span.point a.last).overlaps (.point b.last) = false := by
  have hne : a.last ≠ b.last := by
    intro heq
    have hempty : ¬a.first = a.last ∧ ¬b.first = b.last := by omega
    simp only [Span.overlaps, Span.isEmpty, hempty.1, hempty.2, decide_false, Bool.and_false,
      Bool.false_eq_true, if_false, Bool.and_eq_false_iff, decide_eq_false_iff_not] at h
    omega
  simp [Span.overlaps, Span.isEmpty, Span.point, hne]

theorem Accounts.agrees_of_targets {assignments : List AssignmentFact}
    {changes : List (Change AssignmentFact)}
    (h : Accounts (Change.IsOfTarget source) assignments r changes)
    (hnonempty : ∀ a ∈ assignments, a.targetSpan.Fits source →
      a.targetSpan.first < a.targetSpan.last)
    (hapart : KeepApart source (assignments.map AssignmentFact.targetSpan)) :
    Agrees source (Change.IsOfTarget source) assignments r := by
  have hfits : ∀ e ∈ r.edits, e.span.Fits source := by
    intro e he
    rw [h.edits] at he
    obtain ⟨c, hc, rfl⟩ := List.mem_map.mp he
    have hc := h.about c hc
    rw [hc.point]
    exact ⟨Nat.le_refl _, hc.fits.inside, hc.fits.last, hc.fits.last⟩
  have hnone : Edit.NoneOverlap r.edits := by
    have hkept := List.Pairwise.sublist (h.subjects.map AssignmentFact.targetSpan) hapart
    rw [List.pairwise_map, List.pairwise_map] at hkept
    rw [Edit.NoneOverlap, h.edits, List.pairwise_map]
    refine hkept.imp_of_mem fun {c c'} hc hc' hab => ?_
    have hfull : ∀ d ∈ changes, d.subject.targetSpan.first < d.subject.targetSpan.last :=
      fun d hd => hnonempty _ (h.subjects.subset (List.mem_map_of_mem hd)) (h.about d hd).fits
    rw [(h.about c hc).point, (h.about c' hc').point]
    exact overlaps_point (hfull c hc) (hfull c' hc')
      (hab (h.about c hc).fits (h.about c' hc').fits)
  exact ⟨⟨changes, h⟩, Edit.exists_applyAll hfits hnone⟩

/-- Whatever the file, the facts and the options are, the edits of a report are those of the
outcomes that count as applied, in the same order. They replace the docstrings of their symbols, or
insert behind the targets of their assignments, they can be made, and everything else is kept.
Only the spans that the source has need to keep apart. -/
theorem reports_agree_with_their_edits (file : Nat) (source : Text) (facts : FileFacts)
    (hsites : KeepApart source (facts.symbols.filterMap docstringSpan?))
    (htargets : KeepApart source (facts.assignments.map AssignmentFact.targetSpan))
    (hnonempty : ∀ a ∈ facts.assignments, a.targetSpan.Fits source →
      a.targetSpan.first < a.targetSpan.last) :
    (∀ target origin options, Agrees source (Change.IsOfDocstring source) facts.symbols
      (restyle file source facts target origin options)) ∧
    (∀ options default, Agrees source (Change.IsOfDocstring source) facts.symbols
      (fixReturnTypes file source facts options default)) ∧
    ∀ scopes, Agrees source (Change.IsOfTarget source) facts.assignments
      (annotate file source facts scopes) := by
  refine ⟨fun target origin options => ?_, fun options default => ?_, fun scopes => ?_⟩
  · obtain ⟨changes, h⟩ := exists_accounts_foldl file
      (exists_accounts_restyleSymbol target origin options) facts.symbols
    exact h.agrees_of_docstrings hsites
  · obtain ⟨changes, h⟩ := exists_accounts_foldl file
      (exists_accounts_fixReturnType options default) facts.symbols
    exact h.agrees_of_docstrings hsites
  · obtain ⟨changes, h⟩ := exists_accounts_foldl file exists_accounts_annotateOne
      (facts.assignments.filter (isCandidate scopes))
    have hall : Accounts (Change.IsOfTarget source) facts.assignments
        (annotate file source facts scopes) changes :=
      ⟨h.subjects.trans List.filter_sublist, h.edits, h.applied, h.about⟩
    exact hall.agrees_of_targets hnonempty htargets

/-- Two of the three definitions have spans that the source does not have: one ends after it, and
one starts inside a character. -/
theorem unusable_spans_are_passed_over :
    let source := "def f() -> int:\n    \"\"\"Sé.\"\"\"\nx = 1\ny = x\n".toList
    let symbol (name : String) (first last : Nat) : SymbolFact :=
      { name := name.toList, qualifiedName := name.toList, kind := .function,
        returnHint := some "int".toList, docstring := some ⟨⟨first, last⟩, "    ".toList⟩ }
    let assignment (name value : String) (shape : ValueShape) (first : Nat) : AssignmentFact :=
      { target := name.toList, targetSpan := ⟨first, first + 1⟩, scope := .module,
        value := some value.toList, shape := shape, isSimple := true, line := 3 }
    let facts : FileFacts :=
      { symbols := [symbol "f" 20 30, symbol "g" 20 90, symbol "h" 25 30],
        assignments := [assignment "x" "1" .intLiteral 31, assignment "y" "x" .name 37] }
    (fixReturnTypes 0 source facts {} .rest).edits.length = 1 ∧
      (annotate 0 source facts {}).edits.length = 1 ∧
      Agrees source (Change.IsOfDocstring source) facts.symbols
        (fixReturnTypes 0 source facts {} .rest) ∧
      Agrees source (Change.IsOfTarget source) facts.assignments
        (annotate 0 source facts {}) := by
  intro source symbol assignment facts
  obtain ⟨-, hfix, hannotate⟩ := reports_agree_with_their_edits 0 source facts (by decide +kernel)
    (by decide +kernel) (by decide +kernel)
  exact ⟨by decide +kernel, by decide +kernel, hfix {} .rest, hannotate {}⟩

end Fix

end Docstring
