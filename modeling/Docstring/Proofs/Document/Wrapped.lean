-- A document that was wrapped is its own wrapping: the texts of a document, broken where a style
-- breaks them, are written as before at the same width and at every greater one.
import Docstring.Proofs.Document.Whole
import Docstring.Proofs.Text.Wrap

namespace Docstring.Layout

open Text

/-! ## Prose -/

/-- A line of prose that is not broken at a width, nor at any greater one. -/
structure KeepsProse (width : Nat) (line : Line) : Prop where
  whole : ∀ wider, width ≤ wider → wrapProseLine wider line = [line]
  newline : '\n' ∉ line

theorem keepsProse_of_keeps {line : Line} {width : Nat} (h : Keeps width line) :
    KeepsProse width line := by
  refine ⟨fun wider hwider => ?_, h.newline⟩
  unfold wrapProseLine
  rw [h.ink, h.whole wider wider hwider]
  simp

theorem keepsProse_of_mem {line piece : Line} {width : Nat} (hn : '\n' ∉ line)
    (h : piece ∈ wrapProseLine width line) : KeepsProse width piece := by
  unfold wrapProseLine at h
  split at h
  · rw [List.mem_singleton.mp h]
    exact ⟨fun _ _ => rfl, by simp⟩
  · rename_i hink
    split at h
    · rename_i hpre
      rw [List.mem_singleton.mp h]
      exact ⟨fun _ _ => by simp [wrapProseLine, hink, hpre], hn⟩
    · obtain ⟨first, others, hpieces, hfirst, hothers, _⟩ :=
        keeps_wrapLine width width (by simpa using hink) hn
      rw [hpieces] at h
      rcases List.mem_cons.mp h with rfl | h
      · exact keepsProse_of_keeps hfirst
      · exact keepsProse_of_keeps (hothers piece h)

theorem flatMap_of_keepsProse {lines : List Line} {width wider : Nat} (hwider : width ≤ wider)
    (h : ∀ line ∈ lines, KeepsProse width line) : lines.flatMap (wrapProseLine wider) = lines := by
  induction lines with
  | nil => rfl
  | cons line lines ih =>
    rw [List.flatMap_cons, (h line (by simp)).whole wider hwider,
      ih fun l hl => h l (by simp [hl])]
    rfl

/-- A line is blank if its pieces are. -/
theorem all_isBlank_wrapProseLine {line : Line} (width : Nat) (hn : '\n' ∉ line) :
    (wrapProseLine width line).all isBlank = isBlank line := by
  unfold wrapProseLine
  split
  · rename_i hb
    rw [hb]
    rfl
  · rename_i hink
    split
    · simp
    · obtain ⟨first, others, hpieces, hfirst, _⟩ :=
        keeps_wrapLine width width (by simpa using hink) hn
      rw [hpieces, List.all_cons, hfirst.ink]
      simp [hink]

theorem all_isBlank_flatMap {lines : List Line} (width : Nat) (hn : ∀ line ∈ lines, '\n' ∉ line) :
    (lines.flatMap (wrapProseLine width)).all isBlank = lines.all isBlank := by
  induction lines with
  | nil => rfl
  | cons line lines ih =>
    rw [List.flatMap_cons, List.all_append, List.all_cons,
      all_isBlank_wrapProseLine width (hn line (by simp)), ih fun l hl => hn l (by simp [hl])]

/-! ## Ways to break a text -/

/-- A way to break the lines of a text. What it gave once it does not change, and it neither adds
to an empty text nor makes one blank. -/
structure Breaking where
  apply : Text → Text
  nil : apply [] = []
  again : ∀ t, apply (apply t) = apply t
  blank : ∀ t, isBlank (apply t) = isBlank t

theorem keepsProse_of_mem_wrapProse {t : Text} {width : Nat} {piece : Line}
    (h : piece ∈ wrapProse width t) : KeepsProse width piece := by
  obtain ⟨line, hline, hpiece⟩ := List.mem_flatMap.mp h
  exact keepsProse_of_mem (newline_notMem_of_mem_splitLines hline) hpiece

theorem wrapProse_ne_nil (width : Nat) (t : Text) : wrapProse width t ≠ [] := by
  intro hnil
  have hfirst : wrapProseLine width (firstLine t) = [] := by
    rw [wrapProse, splitLines_eq_cons, List.flatMap_cons] at hnil
    exact (List.append_eq_nil_iff.mp hnil).1
  have hn : '\n' ∉ firstLine t :=
    newline_notMem_of_mem_splitLines (t := t) (by simp [splitLines_eq_cons])
  have hall := all_isBlank_wrapProseLine width hn
  rw [hfirst] at hall
  unfold wrapProseLine at hfirst
  rw [← hall] at hfirst
  simp at hfirst

/-- Prose that was wrapped is its own wrapping. -/
theorem wrapProse_joinLines {width wider : Nat} (t : Text) (hwider : width ≤ wider) :
    wrapProse wider (joinLines (wrapProse width t)) = wrapProse width t := by
  have hkept := fun piece (h : piece ∈ wrapProse width t) => keepsProse_of_mem_wrapProse h
  rw [wrapProse, splitLines_joinLines (wrapProse_ne_nil width t)
    fun piece h => (hkept piece h).newline]
  exact flatMap_of_keepsProse hwider hkept

/-- Breaking prose at a width. -/
def Breaking.prose (width : Nat) : Breaking where
  apply t := joinLines (wrapProse width t)
  nil := rfl
  again t := by rw [wrapProse_joinLines t (le_refl _)]
  blank t := by
    rw [isBlank_joinLines, isBlank_eq_all t]
    exact all_isBlank_flatMap width fun line hl => newline_notMem_of_mem_splitLines hl

/-! ## Entries -/

/-- The columns that are left beside the lead of an entry. -/
def room (column : Nat) (lead : Text) (width : Nat) : Nat :=
  if lead.isEmpty then width - column else width - (column + lead.length + 1)

/-- The pieces of the line beside the lead. -/
def firstPieces (room rest : Nat) (first : Line) : List Line :=
  if first.isEmpty then [[]] else wrapLine first room rest

/-- The lines of a description once they are broken to stand in an entry. -/
def entryPieces (column : Nat) (lead t : Text) (width continuation : Nat) : List Line :=
  firstPieces (room column lead width) (width - continuation) (trim (firstLine t)) ++
    (laterLines t).flatMap (wrapProseLine (width - continuation))

theorem firstPieces_keeps {first : Line} (room rest : Nat) (htrim : trim first = first)
    (hn : '\n' ∉ first) :
    ∃ piece others, firstPieces room rest first = piece :: others ∧ trim piece = piece ∧
      '\n' ∉ piece ∧ (∀ wider rest', room ≤ wider → firstPieces wider rest' piece = [piece]) ∧
      ∀ other ∈ others, Keeps rest other := by
  unfold firstPieces
  by_cases hfirst : first = []
  · subst hfirst
    exact ⟨[], [], rfl, rfl, by simp, fun _ _ _ => rfl, by simp⟩
  · have hink : isBlank first = false := not_blank_of_opensWithInk (ink_of_trim htrim hfirst).1
    obtain ⟨piece, others, hpieces, hpiece, hothers, hends⟩ := keeps_wrapLine room rest hink hn
    refine ⟨piece, others, by simp [hfirst, hpieces], hends htrim, hpiece.newline,
      fun wider rest' hwider => ?_, hothers⟩
    rw [hpiece.whole wider rest' hwider, ite_eq_right_iff]
    intro hnil
    rw [List.isEmpty_iff.mp hnil]

theorem all_isBlank_firstPieces {first : Line} (room rest : Nat) (htrim : trim first = first)
    (hn : '\n' ∉ first) : (firstPieces room rest first).all isBlank = isBlank first := by
  unfold firstPieces
  by_cases hfirst : first = []
  · subst hfirst
    rfl
  · have hink : isBlank first = false := not_blank_of_opensWithInk (ink_of_trim htrim hfirst).1
    obtain ⟨piece, others, hpieces, hpiece, _⟩ := keeps_wrapLine room rest hink hn
    simp [hfirst, hpieces, hpiece.ink, hink]

section Entry

variable (column : Nat) (lead t : Text) (width continuation : Nat)

theorem newline_notMem_trim_firstLine : '\n' ∉ trim (firstLine t) := by
  intro h
  exact newline_notMem_of_mem_splitLines (t := t) (by simp [splitLines_eq_cons])
    (mem_of_mem_trim h)

theorem newline_notMem_laterLines : ∀ line ∈ laterLines t, '\n' ∉ line := fun line hl =>
  newline_notMem_of_mem_splitLines (t := t) (by simp [splitLines_eq_cons, hl])

/-- The pieces of an entry are kept when the entry is written again. -/
theorem entryPieces_keeps :
    ∃ piece others, entryPieces column lead t width continuation = piece :: others ∧
      trim piece = piece ∧ '\n' ∉ piece ∧
      (∀ wider rest, room column lead width ≤ wider → firstPieces wider rest piece = [piece]) ∧
      ∀ other ∈ others, KeepsProse (width - continuation) other := by
  obtain ⟨piece, others, hpieces, htrim, hn, hwhole, hothers⟩ := firstPieces_keeps
    (room column lead width) (width - continuation) (trim_trim (firstLine t))
    (newline_notMem_trim_firstLine t)
  refine ⟨piece, others ++ (laterLines t).flatMap (wrapProseLine (width - continuation)),
    by rw [entryPieces, hpieces, List.cons_append], htrim, hn, hwhole, ?_⟩
  intro other ho
  rcases List.mem_append.mp ho with ho | ho
  · exact keepsProse_of_keeps (hothers other ho)
  · obtain ⟨line, hline, hother⟩ := List.mem_flatMap.mp ho
    exact keepsProse_of_mem (newline_notMem_laterLines t line hline) hother

theorem room_le {wider : Nat} (h : width ≤ wider) :
    room column lead width ≤ room column lead wider := by
  unfold room
  split <;> omega

theorem entryPieces_joinLines {wider : Nat} (h : width ≤ wider) :
    entryPieces column lead (joinLines (entryPieces column lead t width continuation)) wider
        continuation =
      entryPieces column lead t width continuation := by
  obtain ⟨piece, others, hpieces, htrim, hn, hwhole, hothers⟩ :=
    entryPieces_keeps column lead t width continuation
  have hlines : splitLines (joinLines (piece :: others)) = piece :: others := by
    apply splitLines_joinLines (by simp)
    intro line hl
    rcases List.mem_cons.mp hl with rfl | hl
    · exact hn
    · exact (hothers line hl).newline
  have hrest : width - continuation ≤ wider - continuation := by omega
  rw [hpieces, entryPieces, firstLine, laterLines, hlines, List.headD_cons, List.tail_cons, htrim,
    hwhole _ _ (room_le column lead width h), flatMap_of_keepsProse hrest hothers]
  rfl

theorem isBlank_joinLines_entryPieces :
    isBlank (joinLines (entryPieces column lead t width continuation)) = isBlank t := by
  rw [isBlank_joinLines, entryPieces, List.all_append,
    all_isBlank_firstPieces _ _ (trim_trim _) (newline_notMem_trim_firstLine t),
    all_isBlank_flatMap _ (newline_notMem_laterLines t), isBlank_trim, isBlank_eq_all t,
    splitLines_eq_cons, List.all_cons]

/-- Breaking a description that stands in an entry. -/
def Breaking.entry : Breaking where
  apply t := joinLines (entryPieces column lead t width continuation)
  nil := rfl
  again t := by rw [entryPieces_joinLines column lead t width continuation (le_refl _)]
  blank t := isBlank_joinLines_entryPieces column lead t width continuation

theorem hangingFirst_eq_pieces {first : Line} (htrim : trim first = first) (hn : '\n' ∉ first) :
    ∃ piece others, firstPieces (room column lead width) (width - continuation) first =
        piece :: others ∧
      hangingFirst column lead first width continuation =
        (spaces column ++ beside lead piece) :: indent continuation others := by
  by_cases hfirst : first = []
  · subst hfirst
    exact ⟨[], [], rfl, rfl⟩
  · have hink : isBlank first = false := not_blank_of_opensWithInk (ink_of_trim htrim hfirst).1
    obtain ⟨piece, others, hpieces, hpiece, _⟩ :=
      keeps_wrapLine (room column lead width) (width - continuation) hink hn
    have hne : piece ≠ [] := by
      rintro rfl
      exact absurd hpiece.ink (by decide)
    refine ⟨piece, others, by simp [firstPieces, hfirst, hpieces], ?_⟩
    unfold room at hpieces
    by_cases hlead : lead = []
    · simp only [hlead, List.isEmpty_nil, if_true] at hpieces
      simp [hangingFirst, hfirst, hlead, hpieces, indentFirst, beside]
    · simp only [List.isEmpty_iff, hlead, if_false] at hpieces
      simp [hangingFirst, hfirst, hlead, hpieces, hne, beside]

/-- An entry is written as the pieces of its description, the first beside the lead. -/
theorem hanging_eq_pieces {piece : Line} {others : List Line}
    (h : entryPieces column lead t width continuation = piece :: others) :
    hanging column lead t width continuation =
      (spaces column ++ beside lead piece) :: indent continuation others := by
  obtain ⟨first, rest, hpieces, hfirst⟩ := hangingFirst_eq_pieces column lead width continuation
    (trim_trim (firstLine t)) (newline_notMem_trim_firstLine t)
  rw [entryPieces, hpieces, List.cons_append] at h
  injection h with hpiece hothers
  rw [hanging, splitLines_eq_cons, ← hpiece, ← hothers]
  simp [hfirst, indent]

/-- An entry whose description was broken is written as the entry was. -/
theorem hanging_entry {wider : Nat} (h : width ≤ wider) :
    hanging column lead ((Breaking.entry column lead width continuation).apply t) wider
        continuation =
      hanging column lead t width continuation := by
  obtain ⟨piece, others, hpieces, _⟩ := entryPieces_keeps column lead t width continuation
  have hagain := entryPieces_joinLines column lead t width continuation h
  rw [hanging_eq_pieces column lead t width continuation hpieces]
  exact hanging_eq_pieces column lead _ wider continuation (hagain.trans hpieces)

end Entry

end Docstring.Layout

namespace Docstring

open Text Layout

/-! ## Documents -/

/-- How a style breaks the texts of a document: descriptions according to what they stand beside. -/
structure Wrapping where
  head : Breaking
  param : Parameter → Breaking
  param_congr : ∀ {p q : Parameter}, p.display = q.display → p.type = q.type → param p = param q
  returns : Option Text → Breaking
  yields : Option Text → Breaking
  raise : Text → Breaking
  free : Breaking

theorem Layout.Breaking.getD_map (b : Breaking) (t : Option Text) :
    (t.map b.apply).getD [] = b.apply (t.getD []) := by
  cases t with
  | none => exact b.nil.symm
  | some t => rfl

theorem Layout.Breaking.map_map (b : Breaking) (t : Option Text) :
    (t.map b.apply).map b.apply = t.map b.apply := by
  cases t with
  | none => rfl
  | some t => exact congrArg some (b.again t)

def Parameter.broken (k : Wrapping) (p : Parameter) : Parameter :=
  { p with description := p.description.map (k.param p).apply }

def ReturnDoc.broken (k : Option Text → Breaking) (doc : ReturnDoc) : ReturnDoc :=
  { doc with description := doc.description.map (k doc.type).apply }

def RaiseEntry.broken (k : Text → Breaking) (r : RaiseEntry) : RaiseEntry :=
  { r with description := r.description.map (k r.exception).apply }

namespace Document

/-- A document with its lines broken. -/
def broken (k : Wrapping) (d : Document) : Document :=
  { d with
    summary := k.head.apply d.summary
    extended := d.extended.map k.head.apply
    parameters := d.parameters.map (Parameter.broken k)
    returns := d.returns.map (ReturnDoc.broken k.returns)
    yields := d.yields.map (ReturnDoc.broken k.yields)
    raises := d.raises.map (RaiseEntry.broken k.raise)
    notes := d.notes.map k.free.apply
    warnings := d.warnings.map k.free.apply
    seeAlso := d.seeAlso.map k.free.apply
    references := d.references.map k.free.apply }

theorem freeTexts_broken (k : Wrapping) (d : Document) (kind : SectionKind) :
    Layout.freeTexts (d.broken k) kind = (Layout.freeTexts d kind).map k.free.apply := by
  have hfilter : ∀ texts : List Text, (texts.map k.free.apply).filter (fun t => !isBlank t) =
      (texts.filter fun t => !isBlank t).map k.free.apply := by
    intro texts
    rw [List.filter_map]
    simp [Function.comp_def, k.free.blank]
  unfold Layout.freeTexts
  rw [← hfilter]
  cases kind <;> rfl

theorem headBlocks_broken (k : Wrapping) {width wider : Nat} (d : Document)
    (hk : k.head = .prose width) (h : width ≤ wider) :
    headBlocks (d.broken k) wider = headBlocks d width := by
  have hprose : ∀ t, wrapProse wider (k.head.apply t) = wrapProse width t := by
    intro t
    rw [hk]
    exact wrapProse_joinLines t h
  simp only [headBlocks, broken, k.head.getD_map, k.head.blank, hprose]

end Document

end Docstring
