-- Marks: lines that the signatures of a style cannot do without. Where the texts of a document hold
-- none, what is written of it holds only those of the style it is written in.
import Docstring.Proofs.Detection
import Docstring.Proofs.Document.Kept
import Docstring.Proofs.Document.Sectioned
import Docstring.Proofs.Google.Outline
import Docstring.Proofs.Numpy.Written

namespace Docstring

open Text

/-! ## Marks -/

/-- Does a line open a section that has a place in a document? -/
def Google.opensSection (line : Line) : Bool :=
  match header? line with
  | some (.opens _ _) => true
  | _ => false

/-- What no signature of a style can do without, however far it is indented. -/
def isMark (style : Style) (line : Line) : Bool :=
  match style with
  | .rest => isFieldLine (trim line)
  | .google => Google.opensSection (trim line)
  | .numpy => Numpy.isUnderline (trim line)
  | .plain => false

/-- A line that is a mark of no style. -/
def IsQuiet (line : Line) : Prop := ∀ style ∈ Style.all, isMark style line = false

instance : DecidablePred IsQuiet := fun line =>
  inferInstanceAs (Decidable (∀ style ∈ Style.all, isMark style line = false))

/-- A line that is a mark of no style but one. -/
def IsNative (style : Style) (line : Line) : Prop :=
  ∀ other, other ≠ style → isMark other line = false

theorem IsQuiet.native {line : Line} (h : IsQuiet line) (style : Style) : IsNative style line :=
  fun other _ => h other (by cases other <;> decide)

theorem isMark_spaces_append (style : Style) (n : Nat) (line : Line) :
    isMark style (spaces n ++ line) = isMark style line := by
  have htrim : trim (spaces n ++ line) = trim line := by
    induction n with
    | zero => rfl
    | succ n ih => exact (trim_space_cons _ isSpace_space).trans ih
  cases style <;> simp only [isMark, htrim]

theorem IsNative.spaces_append {style : Style} {line : Line} (h : IsNative style line) (n : Nat) :
    IsNative style (spaces n ++ line) :=
  fun other hother => (isMark_spaces_append other n line).trans (h other hother)

theorem isQuiet_nil : IsQuiet [] := by decide

/-- Marks stay marks and other lines stay what they are below a header. -/
theorem isNative_of_mem_indent {style : Style} {n : Nat} {lines : List Line} {line : Line}
    (h : ∀ line ∈ lines, IsNative style line) (hline : line ∈ indent n lines) :
    IsNative style line := by
  rcases mem_indent hline with rfl | ⟨inner, hinner, _, rfl⟩
  · exact isQuiet_nil.native style
  · exact (h inner hinner).spaces_append n

/-! ## Signatures without marks -/

theorem Google.isHeader_of_opensSection {line : Line} (h : opensSection line = true) :
    isHeader line = true := by
  unfold opensSection at h
  split at h
  · rename_i hheader
    rw [isHeader, hheader, Option.isSome_some]
  · cases h

theorem Google.trim_of_opensSection {line : Line} (h : opensSection line = true) :
    trim line = line := by
  obtain ⟨title, htitle, rfl⟩ := exists_title_of_isHeader (isHeader_of_opensSection h)
  revert title
  decide

/-- The only colon of a section header is its last character. -/
theorem Google.colon_of_opensSection {line : Line} (h : opensSection line = true) :
    ∃ title, line = title ++ [':'] ∧ ':' ∉ title := by
  obtain ⟨title, htitle, rfl⟩ := exists_title_of_isHeader (isHeader_of_opensSection h)
  refine ⟨title, rfl, ?_⟩
  revert title
  decide

theorem Numpy.trim_of_isUnderline {line : Line} (h : isUnderline line = true) :
    trim line = line := by
  simp only [isUnderline, Bool.and_eq_true, decide_eq_true_eq, List.all_eq_true,
    beq_iff_eq] at h
  obtain ⟨hlength, hdashes⟩ := h
  have hink : ∀ c ∈ line, isSpace c = false := fun c hc => by rw [hdashes c hc]; decide
  have hne : line ≠ [] := List.ne_nil_of_length_pos (by omega)
  obtain ⟨c, rest, rfl⟩ := List.exists_cons_of_ne_nil hne
  refine trim_of_ink (by simp [opensWithInk, hink c]) (List.rdropWhile_eq_self_iff.mpr fun _ => ?_)
  rw [hink _ (List.getLast_mem hne)]
  exact Bool.false_ne_true

/-- No line of a style's marks, no signature of it. -/
theorem isSignature_of_not_isMark {style : Style} {line : Line} {next : Option Line}
    (hclean : IsClean line) (hline : isMark style line = false)
    (hnext : ∀ below ∈ next, isMark style below = false) : isSignature style line next = false := by
  cases style with
  | rest =>
    have htrim : trim line = trimStart line :=
      trimEnd_of_suffix hclean.trimmed (List.dropWhile_suffix _)
    rw [isSignature, ← htrim]
    exact hline
  | google =>
    have hclosed : Google.opensSection line = false := by
      rw [Bool.eq_false_iff]
      intro hopens
      rw [isMark, Google.trim_of_opensSection hopens, hopens] at hline
      cases hline
    change isGoogleSignature line next = false
    unfold Google.opensSection at hclosed
    unfold isGoogleSignature
    split at hclosed
    · cases hclosed
    · rename_i hnone
      split
      · exact absurd ‹_› (hnone _ _)
      · rfl
  | numpy =>
    cases next with
    | none => rfl
    | some below =>
      have hflat : Numpy.isUnderline below = false := by
        rw [Bool.eq_false_iff]
        intro hunderline
        have hmark := hnext below rfl
        rw [isMark, Numpy.trim_of_isUnderline hunderline, hunderline] at hmark
        cases hmark
      simp [isSignature, isNumpySignature, Numpy.header?_of_not_underline hflat]
  | plain => rfl

theorem countSignatures_eq_zero {style : Style} {lines : List Line}
    (hclean : ∀ line ∈ lines, IsClean line) (h : ∀ line ∈ lines, isMark style line = false) :
    countSignatures style lines = 0 := by
  induction lines with
  | nil => rfl
  | cons line rest ih =>
    have hnone : isSignature style line rest.head? = false :=
      isSignature_of_not_isMark (hclean line (by simp)) (h line (by simp))
        fun below hbelow => h below (List.mem_cons_of_mem _ (List.mem_of_mem_head? hbelow))
    rw [countSignatures, hnone,
      ih (fun l hl => hclean l (by simp [hl])) fun l hl => h l (by simp [hl])]
    rfl

/-- A style is recognised by its own signatures where no other one has any. -/
theorem Detection.recognises {style : Style} {text : Text} (hstyle : style ≠ .plain)
    (hmatched : 0 < countSignatures style (normalLines text))
    (hothers : ∀ other, other ≠ style → countSignatures other (normalLines text) = 0) :
    (ofText text).style = style ∧ (ofText text).hasConflicts = false := by
  have hconflicts : (ofText text).hasConflicts = false := by
    simp only [ofText, scoresOf, Style.structured, List.map_cons, List.map_nil, List.foldl_cons,
      List.foldl_nil, Nat.zero_add]
    cases style with
    | rest => simp [hothers .google, hothers .numpy, hasConflicts, hmatched, hmatched.ne']
    | google => simp [hothers .rest, hothers .numpy, hasConflicts, hmatched, hmatched.ne']
    | numpy => simp [hothers .rest, hothers .google, hasConflicts, hmatched, hmatched.ne']
    | plain => exact absurd rfl hstyle
  exact ⟨style_ofText hstyle hconflicts hmatched, hconflicts⟩

/-! ## Documents without marks -/

namespace Document

/-- Everything that is written of a document as a text, its head included. -/
def allTexts (d : Document) : List Text := d.summary :: d.extended.toList ++ d.textFields

/-- No line of any text is a mark. -/
def IsQuiet (d : Document) : Prop := ∀ t ∈ d.allTexts, ∀ line ∈ splitLines t, Docstring.IsQuiet line

instance : DecidablePred IsQuiet := fun d =>
  inferInstanceAs (Decidable (∀ t ∈ d.allTexts, ∀ line ∈ splitLines t, Docstring.IsQuiet line))

namespace IsQuiet

variable {d : Document} {line : Line}

theorem of_textFields (h : d.IsQuiet) {t : Text} (ht : t ∈ d.textFields)
    (hline : line ∈ splitLines t) : Docstring.IsQuiet line :=
  h t (List.mem_append_right _ ht) line hline

theorem head (h : d.IsQuiet) {block : List Line} (hblock : block ∈ Layout.wholeHead d)
    (hline : line ∈ block) : Docstring.IsQuiet line := by
  rcases List.mem_cons.mp hblock with rfl | hblock
  · exact h d.summary (by simp [allTexts]) line hline
  · obtain ⟨t, ht, rfl⟩ := List.mem_map.mp hblock
    exact h t (by simp [allTexts, Option.mem_toList.mp ht]) line hline

/-- No description says as much as an empty one. -/
theorem of_getD {t : Option Text} (h : ∀ x ∈ t, ∀ line ∈ splitLines x, Docstring.IsQuiet line) :
    ∀ line ∈ splitLines (t.getD []), Docstring.IsQuiet line := by
  cases t with
  | some x => exact h x rfl
  | none =>
    intro line hline
    rw [List.mem_singleton.mp hline]
    exact isQuiet_nil

theorem param (h : d.IsQuiet) {p : Parameter} (hp : p ∈ d.parameters) :
    ∀ line ∈ splitLines (p.description.getD []), Docstring.IsQuiet line :=
  of_getD fun t ht _ => h.of_textFields (by
    simp only [textFields, List.append_assoc]
    exact List.mem_append_left _ (List.mem_flatMap.mpr ⟨p, hp, by simp [Option.mem_def.mp ht]⟩))

theorem value (h : d.IsQuiet) {doc : ReturnDoc} (hdoc : doc ∈ d.values) {t : Text}
    (ht : t ∈ doc.type.toList ++ doc.description.toList) :
    ∀ line ∈ splitLines t, Docstring.IsQuiet line := by
  intro line
  refine h.of_textFields ?_
  simp only [textFields, List.append_assoc]
  exact List.mem_append_right _ (List.mem_append_left _ (List.mem_flatMap.mpr ⟨doc, hdoc, ht⟩))

theorem raise (h : d.IsQuiet) {r : RaiseEntry} (hr : r ∈ d.raises) {t : Text}
    (ht : t ∈ r.exception :: r.description.toList) :
    ∀ line ∈ splitLines t, Docstring.IsQuiet line := by
  intro line
  refine h.of_textFields ?_
  simp only [textFields, List.append_assoc]
  exact List.mem_append_right _ (List.mem_append_right _
    (List.mem_append_left _ (List.mem_flatMap.mpr ⟨r, hr, ht⟩)))

theorem exampleText (h : d.IsQuiet) {t : Text} (ht : t ∈ d.examples) :
    ∀ line ∈ splitLines t, Docstring.IsQuiet line :=
  fun _ => h.of_textFields (by simp [textFields, ht])

theorem freeText (h : d.IsQuiet) {kind : SectionKind} {t : Text}
    (ht : t ∈ Layout.freeTexts d kind) : ∀ line ∈ splitLines t, Docstring.IsQuiet line := by
  intro line
  refine h.of_textFields ?_
  have hmem : t ∈ d.freeTexts kind := List.mem_of_mem_filter ht
  cases kind <;> simp_all [freeTexts, textFields]

end IsQuiet

end Document

/-! ## Written lines -/

theorem isFieldLine_of_head? {line : Line} (h : line.head? ≠ some ':') :
    isFieldLine line = false := by
  unfold isFieldLine
  split
  · exact absurd rfl h
  · rfl

theorem Numpy.not_underline_of_mem {line : Line} {c : Char} (h : c ∈ line) (hc : c ≠ '-') :
    isUnderline line = false := by
  rw [isUnderline, Bool.and_eq_false_iff]
  right
  rw [List.all_eq_false]
  exact ⟨c, h, by simpa using hc⟩

theorem head?_beside {lead : Text} (first : Text) (h : lead ≠ []) :
    (Layout.beside lead first).head? = lead.head? := by
  rw [Layout.beside_eq_aside first h]
  exact List.head?_append_of_ne_nil lead h

/-- Every line of a document that is written in sections is a mark of no other style if this holds
of its entries and of what a header adds. -/
theorem Sectioning.isNative_whole {style : Style} {layout : Sectioning} {d : Document}
    (hquiet : d.IsQuiet)
    (params : ∀ p ∈ d.parameters, ∀ line ∈ layout.param p, IsNative style line)
    (values : ∀ doc ∈ d.values, ∀ line ∈ layout.value doc, IsNative style line)
    (raises : ∀ r ∈ d.raises, ∀ line ∈ layout.raise r, IsNative style line)
    (under : ∀ kind body, (∀ line ∈ body, IsNative style line) →
      ∀ line ∈ layout.under kind body, IsNative style line)
    {block : List Line} (hblock : block ∈ layout.whole d) :
    ∀ line ∈ block, IsNative style line := by
  intro line hline
  rcases List.mem_append.mp hblock with hblock | hblock
  · exact (hquiet.head hblock hline).native style
  · obtain ⟨⟨kind, body⟩, hsection, rfl⟩ := List.mem_map.mp hblock
    refine under kind body ?_ line hline
    refine forall_bodies (P := fun body => ∀ line ∈ body, IsNative style line)
      (fun _ line hl => ?_) values (fun _ line hl => ?_)
      (fun t ht line hl => (hquiet.exampleText ht line hl).native style)
      (fun kind _ t ht line hl => (hquiet.freeText ht line hl).native style)
      kind body (mem_bodies_of_mem_sections hsection)
    · obtain ⟨p, hp, hl⟩ := List.mem_flatMap.mp hl
      exact params p hp line hl
    · obtain ⟨r, hr, hl⟩ := List.mem_flatMap.mp hl
      exact raises r hr line hl

/-! ## Signatures -/

theorem countSignatures_pos_of_isInfix {style : Style} {line next : Line} {below lines : List Line}
    (hlines : line :: next :: below <:+: lines) (h : isSignature style line (some next) = true) :
    0 < countSignatures style lines := by
  obtain ⟨above, after, rfl⟩ := hlines
  have hline : (above ++ line :: next :: below ++ after)[above.length]? = some line := by simp
  refine countSignatures_pos hline ?_
  simpa using h

/-- A parameter, an exception, or a value of which something is said. -/
def Document.IsStructured (d : Document) : Prop :=
  d.parameters ≠ [] ∨ d.raises ≠ [] ∨ ∃ doc ∈ d.values, doc.isBlank = false

instance : DecidablePred Document.IsStructured := fun _ => inferInstanceAs (Decidable (_ ∨ _ ∨ _))

/-- Some section has a body of entries. -/
theorem Sectioning.exists_body (style : Sectioning) {d : Document} (P : List Line → Prop)
    (h : d.IsStructured) (params : d.parameters ≠ [] → P (d.parameters.flatMap style.param))
    (raises : d.raises ≠ [] → P (d.raises.flatMap style.raise))
    (values : ∀ doc ∈ d.values, doc.isBlank = false → P (style.value doc)) :
    ∃ kind body, style.under kind body ∈ style.blocks d ∧ P body := by
  rcases h with hp | hr | ⟨doc, hdoc, hblank⟩
  · obtain ⟨p, hmem⟩ := List.exists_mem_of_ne_nil _ hp
    exact ⟨.params, _, mem_blocks_of_mem_bodies (params_mem_bodies hmem), params hp⟩
  · obtain ⟨r, hmem⟩ := List.exists_mem_of_ne_nil _ hr
    exact ⟨.raises, _, mem_blocks_of_mem_bodies (raises_mem_bodies hmem), raises hr⟩
  · rcases List.mem_append.mp hdoc with hmem | hmem
    · exact ⟨.returns, _, mem_blocks_of_mem_bodies (List.mem_map.mpr ⟨doc, hmem, rfl⟩),
        values doc hdoc hblank⟩
    · exact ⟨.yields, _, mem_blocks_of_mem_bodies (List.mem_map.mpr ⟨doc, hmem, rfl⟩),
        values doc hdoc hblank⟩

end Docstring
