-- The marks of a document that is written in the NumPy style: its underlines, and no others.
import Docstring.Proofs.Document.Mark
import Docstring.Proofs.Numpy.RoundTrip

namespace Docstring.Numpy

open Text

variable {d : Document}

theorem isNative_headerLines {kind : SectionKind} {line : Line} (h : line ∈ headerLines kind) :
    IsNative .numpy line := by
  intro other hother
  cases other with
  | numpy => exact absurd rfl hother
  | plain => rfl
  | rest => revert line; cases kind <;> decide
  | google => revert line; cases kind <;> decide

theorem isNative_wholeDescription {t : Text} (hquiet : ∀ line ∈ splitLines t, IsQuiet line) :
    ∀ line ∈ wholeDescription t, IsNative .numpy line := by
  intro line hline
  unfold wholeDescription at hline
  split at hline
  · simp at hline
  · exact isNative_of_mem_indent (fun l hl => (hquiet l hl).native _) hline

/-- The name of a parameter comes first, and no section header has more behind its colon. -/
theorem isNative_paramHead (htidy : Tidy d) {p : Parameter} (hp : p ∈ d.parameters) :
    IsNative .numpy (paramHead p) := by
  have hline := htidy.isOneLine_paramHead hp
  have hname := htidy.document.names p hp
  have hcolon : ':' ∉ p.display := Parameter.notMem_display hname (by decide) (by decide)
  have hdisplay := (Parameter.isOneLine_display hname).nonempty
  have hopens : (paramHead p).head? ≠ some ':' := by
    have hhead : (paramHead p).head? = p.display.head? := by
      cases hs : paramSuffix p with
      | none => rw [(paramHead_of_none hs).1]
      | some suffix =>
        rw [paramHead_of_suffix hs]
        exact List.head?_append_of_ne_nil _ hdisplay
    rw [hhead]
    exact fun hhead => hcolon (List.mem_of_mem_head? hhead)
  have hclosed : Google.opensSection (paramHead p) = false := by
    rw [Bool.eq_false_iff]
    intro hsection
    obtain ⟨title, htitle, hnone⟩ := Google.colon_of_opensSection hsection
    cases hs : paramSuffix p with
    | none =>
      rw [(paramHead_of_none hs).1] at htitle
      exact hcolon (by simp [htitle])
    | some suffix =>
      have hdrop := congrArg List.dropLast htitle
      rw [paramHead_of_suffix hs, List.dropLast_concat] at hdrop
      refine hnone ?_
      rw [← hdrop, List.dropLast_append_of_ne_nil (by simp)]
      simp
  intro other hother
  cases other with
  | rest =>
    rw [isMark, hline.trimmed]
    exact isFieldLine_of_head? hopens
  | google =>
    rw [isMark, hline.trimmed]
    exact hclosed
  | numpy => exact absurd rfl hother
  | plain => rfl

theorem isNative_param (htidy : Tidy d) (hquiet : d.IsQuiet) {p : Parameter}
    (hp : p ∈ d.parameters) : ∀ line ∈ sectioning.param p, IsNative .numpy line := by
  intro line hline
  rcases List.mem_cons.mp hline with rfl | hline
  · exact isNative_paramHead htidy hp
  · exact isNative_wholeDescription (hquiet.param hp) line hline

theorem isNative_value (htidy : Tidy d) (hquiet : d.IsQuiet) {doc : ReturnDoc}
    (hdoc : doc ∈ d.values) : ∀ line ∈ sectioning.value doc, IsNative .numpy line := by
  intro line hline
  rcases List.mem_append.mp hline with htype | hline
  · have hsplit : splitLines line = [line] :=
      splitLines_of_notMem (htidy.valueTypes doc hdoc line (by simpa using htype)).1.newline
    exact (hquiet.value hdoc (List.mem_append_left _ htype) line (by simp [hsplit])).native _
  · exact isNative_wholeDescription (Document.IsQuiet.of_getD fun t ht =>
      hquiet.value hdoc (by simp [Option.mem_def.mp ht])) line hline

theorem isNative_raise (htidy : Tidy d) (hquiet : d.IsQuiet) {r : RaiseEntry}
    (hr : r ∈ d.raises) : ∀ line ∈ sectioning.raise r, IsNative .numpy line := by
  intro line hline
  rcases List.mem_cons.mp hline with rfl | hline
  · have hsplit := splitLines_of_notMem (htidy.document.exceptions r hr).newline
    exact (hquiet.raise hr (List.mem_cons_self ..) r.exception (by simp [hsplit])).native _
  · exact isNative_wholeDescription (Document.IsQuiet.of_getD fun t ht =>
      hquiet.raise hr (by simp [Option.mem_def.mp ht])) line hline

theorem isNative_whole (htidy : Tidy d) (hquiet : d.IsQuiet) {block : List Line}
    (hblock : block ∈ sectioning.whole d) : ∀ line ∈ block, IsNative .numpy line := by
  refine Sectioning.isNative_whole hquiet (fun _ hp => isNative_param htidy hquiet hp)
    (fun _ hdoc => isNative_value htidy hquiet hdoc)
    (fun _ hr => isNative_raise htidy hquiet hr) (fun kind body hbody line hline => ?_) hblock
  rcases List.mem_append.mp hline with hline | hline
  · exact isNative_headerLines hline
  · exact hbody line hline

theorem countSignatures_whole (hstructured : d.IsStructured) :
    0 < countSignatures .numpy (Layout.separate (sectioning.whole d)) := by
  obtain ⟨kind, body, hmem, -⟩ := sectioning.exists_body (fun _ => True) hstructured
    (fun _ => trivial) (fun _ => trivial) fun _ _ _ => trivial
  refine countSignatures_pos_of_isInfix
    (Layout.isInfix_separate (List.mem_append_right (Layout.wholeHead d) hmem)) ?_
  cases kind <;> decide

end Docstring.Numpy
