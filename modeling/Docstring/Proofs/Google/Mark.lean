-- The marks of a document that is written in the Google style: its section headers, and no others.
import Docstring.Proofs.Document.Mark
import Docstring.Proofs.Google.RoundTrip

namespace Docstring.Google

open Text

/-- A line with a colon that does not stand first is a mark of this style at most. -/
theorem isNative_of_colon {line : Line} (hline : IsOneLine line) (hcolon : ':' ∈ line)
    (hopens : line.head? ≠ some ':') : IsNative .google line := by
  intro other hother
  cases other with
  | rest =>
    rw [isMark, hline.trimmed]
    exact isFieldLine_of_head? hopens
  | google => exact absurd rfl hother
  | numpy =>
    rw [isMark, hline.trimmed]
    exact Numpy.not_underline_of_mem hcolon (by decide)
  | plain => rfl

theorem isNative_wholeEntry {lead t : Text} (n : Nat) (hlead : IsOneLine lead) (hcolon : ':' ∈ lead)
    (hopens : lead.head? ≠ some ':') (ht : IsDescription t)
    (hquiet : ∀ line ∈ splitLines t, IsQuiet line) :
    ∀ line ∈ Layout.wholeEntry lead n t, IsNative .google line := by
  intro line hline
  rcases List.mem_cons.mp hline with rfl | hline
  · refine isNative_of_colon (Layout.isOneLine_beside hlead ht) ?_ ?_
    · rw [Layout.beside_eq_aside _ hlead.nonempty]
      exact List.mem_append_left _ hcolon
    · rw [head?_beside _ hlead.nonempty]
      exact hopens
  · exact isNative_of_mem_indent (fun l hl => (hquiet l (by simp [splitLines_eq_cons, hl])).native _)
      hline

theorem isNative_headerLine (kind : SectionKind) : IsNative .google (headerLine kind) :=
  isNative_of_colon (isOneLine_headerLine kind) (by cases kind <;> decide)
    (by cases kind <;> decide)

theorem head?_of_cutAtColon? {t : Text} (h : cutAtColon? t = none) : t.head? ≠ some ':' := by
  cases t with
  | nil => simp
  | cons c rest =>
    intro hc
    obtain rfl : c = ':' := by simpa using hc
    simp [cutAtColon?, cutAtColonFrom?] at h

theorem exists_paramLead (p : Parameter) :
    ∃ suffix, paramLead p = p.display ++ suffix ∧ ':' ∈ suffix := by
  unfold paramLead
  cases p.type with
  | none => exact ⟨[':'], rfl, by simp⟩
  | some type => exact ⟨" (".toList ++ type ++ "):".toList, by simp, by simp⟩

variable {d : Document}

theorem isNative_param (htidy : Tidy d) (hquiet : d.IsQuiet) {p : Parameter}
    (hp : p ∈ d.parameters) : ∀ line ∈ sectioning.param p, IsNative .google line := by
  have hname := htidy.document.names p hp
  have hdisplay := Parameter.isOneLine_display hname
  obtain ⟨suffix, hlead, hcolon⟩ := exists_paramLead p
  refine isNative_wholeEntry bodyIndent
    (isOneLine_paramLead hname fun t ht => (htidy.paramTypes p hp t ht).1)
    (hlead ▸ List.mem_append_right _ hcolon) ?_
    (htidy.document.param_description hp) (hquiet.param hp)
  rw [hlead, List.head?_append_of_ne_nil _ hdisplay.nonempty]
  exact fun hhead => Parameter.notMem_display hname (by decide) (by decide)
    (List.mem_of_mem_head? hhead)

theorem isNative_raise (htidy : Tidy d) (hquiet : d.IsQuiet) {r : RaiseEntry}
    (hr : r ∈ d.raises) : ∀ line ∈ sectioning.raise r, IsNative .google line := by
  have hline := htidy.document.exceptions r hr
  refine isNative_wholeEntry bodyIndent (isOneLine_colon hline) (by simp) ?_
    (htidy.document.raise_description hr)
    (Document.IsQuiet.of_getD fun t ht => hquiet.raise hr (by simp [Option.mem_def.mp ht]))
  rw [List.head?_append_of_ne_nil _ hline.nonempty]
  exact head?_of_cutAtColon? (htidy.exceptions r hr).2

theorem isNative_value (htidy : Tidy d) (hquiet : d.IsQuiet) {doc : ReturnDoc}
    (hdoc : doc ∈ d.values) : ∀ line ∈ sectioning.value doc, IsNative .google line := by
  have htext : ∀ line ∈ splitLines (doc.description.getD []), IsQuiet line :=
    Document.IsQuiet.of_getD fun t ht => hquiet.value hdoc (by simp [Option.mem_def.mp ht])
  change ∀ line ∈ wholeValue doc, IsNative .google line
  unfold wholeValue
  cases htype : doc.type with
  | some type =>
    have hline := htidy.isOneLine_valueType hdoc (t := type) (by simp [htype])
    refine isNative_wholeEntry 0 (isOneLine_colon hline) (by simp) ?_
      (htidy.document.value_description hdoc) htext
    rw [List.head?_append_of_ne_nil _ hline.nonempty]
    exact head?_of_cutAtColon? (htidy.valueTypes doc hdoc type (by simp [htype])).2.2.2
  | none =>
    dsimp only
    split
    · simp
    · rw [wholeEntry_nil_zero]
      exact fun line hl => (htext line hl).native _

theorem isNative_whole (htidy : Tidy d) (hquiet : d.IsQuiet) {block : List Line}
    (hblock : block ∈ sectioning.whole d) : ∀ line ∈ block, IsNative .google line := by
  refine Sectioning.isNative_whole hquiet (fun _ hp => isNative_param htidy hquiet hp)
    (fun _ hdoc => isNative_value htidy hquiet hdoc)
    (fun _ hr => isNative_raise htidy hquiet hr) (fun kind body hbody line hline => ?_) hblock
  rcases List.mem_cons.mp hline with rfl | hline
  · exact isNative_headerLine kind
  · exact isNative_of_mem_indent hbody hline

theorem countSignatures_whole (htidy : Tidy d) (hstructured : d.IsStructured) :
    0 < countSignatures .google (Layout.separate (sectioning.whole d)) := by
  obtain ⟨kind, body, hmem, hbody⟩ := sectioning.exists_body IsBlock hstructured
    (fun hne => Layout.isBlock_flatMap hne fun p hp => htidy.isBlock_param hp)
    (fun hne => Layout.isBlock_flatMap hne fun r hr => htidy.isBlock_raise hr)
    (fun doc hdoc hblank => (htidy.value_cases hdoc).resolve_left fun hnil => by
      change wholeValue doc = [] at hnil
      unfold wholeValue at hnil
      cases htype : doc.type with
      | some type => simp [htype, Layout.wholeEntry] at hnil
      | none =>
        have hink : isBlank (doc.description.getD []) = false := by
          simpa [ReturnDoc.isBlank, htype, isBlank] using hblank
        simp [htype, hink, Layout.wholeEntry] at hnil)
  obtain ⟨first, rest, rfl, hfirst⟩ := hbody.exists_cons
  have hunder : sectioning.under kind (first :: rest) =
      headerLine kind :: (spaces bodyIndent ++ first) :: indent bodyIndent rest :=
    congrArg _ (indent_cons_of_ne _ _ (ne_nil_of_opensWithInk hfirst))
  have hinfix := Layout.isInfix_separate (List.mem_append_right (Layout.wholeHead d) hmem)
  rw [hunder] at hinfix
  refine countSignatures_pos_of_isInfix hinfix ?_
  have hdeep : 0 < indentWidth (spaces bodyIndent ++ first) := by
    rw [indentWidth_spaces_append _ (by simp [indentOf_of_opensWithInk hfirst])]
    exact Nat.add_pos_left (by decide) _
  simp [isSignature, isGoogleSignature, header?_headerLine, not_blank_of_opensWithInk hfirst, hdeep]

end Docstring.Google
