-- Lines that are set in: written below the first line of an entry or below a header, they do not start
-- with ink, and so open nothing. And what the parameters of a document have in common, however many
-- entries they were gathered from.
import Docstring.Proofs.Document.Value

namespace Docstring

open Text

/-! ## Lines that are set in -/

/-- A line that does not start with ink. -/
def IsSetIn (line : Line) : Prop := '\n' ∉ line ∧ opensWithInk line = false

theorem isSetIn_nil : IsSetIn [] := ⟨by simp, rfl⟩

namespace Layout

variable {columns : Nat} {lines : List Line} {line : Line}

theorem isSetIn_of_mem_indent (hcolumns : 0 < columns) (h : ∀ line ∈ lines, '\n' ∉ line)
    (hline : line ∈ indent columns lines) : IsSetIn line := by
  refine ⟨?_, Bool.eq_false_iff.mpr (not_opensWithInk_of_mem_indent hcolumns hline)⟩
  rcases mem_indent hline with rfl | ⟨inner, hinner, _, rfl⟩
  · simp
  · simpa [spaces] using h inner hinner

theorem isSetIn_of_mem_verbatim (hcolumns : 0 < columns) {t : Text}
    (hline : line ∈ verbatim columns t) : IsSetIn line := by
  refine isSetIn_of_mem_indent hcolumns (fun raw hraw => ?_) hline
  obtain ⟨inner, hinner, rfl⟩ := List.mem_map.mp hraw
  exact fun hmem => newline_notMem_of_mem_splitLines hinner (mem_of_mem_trimEnd hmem)

theorem isSetIn_of_mem_wrapProse (hcolumns : 0 < columns) {t : Text} {width : Nat}
    (hline : line ∈ indent columns (wrapProse width t)) : IsSetIn line :=
  isSetIn_of_mem_indent hcolumns (fun _ hraw => (keepsProse_of_mem_wrapProse hraw).newline) hline

theorem prefix_beside (lead first : Text) : lead <+: beside lead first := by
  by_cases hlead : lead = []
  · exact hlead ▸ List.nil_prefix
  · rw [beside_eq_aside first hlead]
    exact List.prefix_append _ _

/-- An entry is a line with its lead, and lines below that are set in. -/
theorem exists_hanging_below (column : Nat) {lead : Text} (t : Text) (width : Nat) {continuation : Nat}
    (hlead : '\n' ∉ lead) (hcontinuation : 0 < continuation) : ∃ first below,
      hanging column lead t width continuation = (spaces column ++ first) :: below ∧
      lead <+: first ∧ '\n' ∉ first ∧ ∀ line ∈ below, IsSetIn line := by
  obtain ⟨piece, others, hpieces, _, hn, _, hothers⟩ :=
    entryPieces_keeps column lead t width continuation
  refine ⟨beside lead piece, _, hanging_eq_pieces column lead t width continuation hpieces,
    prefix_beside lead piece, ?_, fun line hline =>
      isSetIn_of_mem_indent hcontinuation (fun l hl => (hothers l hl).newline) hline⟩
  unfold beside
  split
  · exact hlead
  · split
    · exact hn
    · simp [hlead, hn]

/-- An entry that is itself set in. -/
theorem isSetIn_of_mem_hanging {column : Nat} {lead t : Text} {width continuation : Nat}
    (hcolumn : 0 < column) (hlead : '\n' ∉ lead) (hcontinuation : 0 < continuation)
    (hline : line ∈ hanging column lead t width continuation) : IsSetIn line := by
  obtain ⟨first, below, hlines, _, hn, hbelow⟩ :=
    exists_hanging_below column t width hlead hcontinuation
  rw [hlines] at hline
  rcases List.mem_cons.mp hline with rfl | hline
  · obtain ⟨n, rfl⟩ := Nat.exists_eq_succ_of_ne_zero hcolumn.ne'
    exact ⟨by simpa [spaces] using hn, rfl⟩
  · exact hbelow line hline

end Layout

/-! ## Parameters -/

/-- The name of a parameter is part of what is documented. -/
theorem ParamKind.splitName_subset (raw : Text) : (splitName raw).2 ⊆ raw := by
  have hkept : (trim raw).filter (· ≠ '\\') ⊆ raw := fun c hc =>
    mem_of_mem_trim (List.mem_of_mem_filter hc)
  unfold splitName
  split
  · rename_i name hname
    rw [hname] at hkept
    exact fun c hc => hkept (by simp [hc])
  · rename_i name hname
    rw [hname] at hkept
    exact fun c hc => hkept (by simp [hc])
  · exact hkept

namespace Document

variable {P : Parameter → Prop} {params : List Parameter}

theorem forall_updateFirst {name : Text} {f : Parameter → Parameter} (hf : ∀ q, P q → P (f q))
    (h : ∀ q ∈ params, P q) : ∀ q ∈ updateFirst name f params, P q := by
  induction params with
  | nil => exact h
  | cons first params ih =>
    obtain ⟨hfirst, hrest⟩ := List.forall_mem_cons.mp h
    rw [updateFirst]
    split
    · exact List.forall_mem_cons.mpr ⟨hf first hfirst, hrest⟩
    · exact List.forall_mem_cons.mpr ⟨hfirst, ih hrest⟩

/-- What holds of a parameter and of all others, and is kept when two are merged, holds of all once it
is added. -/
theorem forall_addParameter {d : Document} {p : Parameter} (hmerge : ∀ q, P q → P (q.merge p))
    (h : ∀ q ∈ d.parameters, P q) (hp : P p) : ∀ q ∈ (d.addParameter p).parameters, P q := by
  rw [parameters_addParameter, insertParameter]
  split
  · exact forall_updateFirst hmerge h
  · exact List.forall_mem_append.mpr ⟨h, List.forall_mem_singleton.mpr hp⟩

end Document

end Docstring
