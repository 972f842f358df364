-- The marks of a document that is written as a field list: its field lines, and no others.
import Docstring.Proofs.Document.Mark
import Docstring.Proofs.Rest.RoundTrip

namespace Docstring.Rest

open Text

variable {d : Document}

/-- A line that starts with a colon is a mark of this style at most. -/
theorem isNative_of_colon {rest : Line} (hline : IsOneLine (':' :: rest)) :
    IsNative .rest (':' :: rest) := by
  intro other hother
  cases other with
  | rest => exact absurd rfl hother
  | google =>
    rw [isMark, hline.trimmed, Bool.eq_false_iff]
    intro hsection
    obtain ⟨title, htitle, hnone⟩ := Google.colon_of_opensSection hsection
    cases title with
    | nil =>
      rw [htitle] at hsection
      exact absurd hsection (by decide)
    | cons c title =>
      obtain rfl : ':' = c := (List.cons.inj htitle).1
      exact hnone (List.mem_cons_self ..)
  | numpy =>
    rw [isMark, hline.trimmed]
    exact Numpy.not_underline_of_head rest (by decide)
  | plain => rfl

theorem isNative_item {i : Item} (h : i.Tidy) (hbelow : ∀ line ∈ i.below, IsQuiet line) :
    ∀ line ∈ i.lines, IsNative .rest line := by
  intro line hline
  rcases List.mem_cons.mp hline with rfl | hline
  · have hhead := h.isOneLine_head
    have hlead : i.lead ≠ [] := (Item.isOneLine_lead h.line).nonempty
    rw [Layout.beside_eq_aside _ hlead] at hhead ⊢
    exact isNative_of_colon hhead
  · exact isNative_of_mem_indent (fun l hl => (hbelow l hl).native _) hline

/-- Below the first line of a field stands text of the document. -/
theorem isQuiet_below (hquiet : d.IsQuiet) {kind : SectionKind} {i : Item}
    (hi : i ∈ items d kind) : ∀ line ∈ i.below, IsQuiet line := by
  have hlater : ∀ {t : Text}, (∀ line ∈ splitLines t, IsQuiet line) →
      ∀ line ∈ laterLines t, IsQuiet line :=
    fun h line hl => h line (by simp [splitLines_eq_cons, hl])
  have hvalues : ∀ {doc : ReturnDoc} (name typeName : Text), doc ∈ d.values →
      i ∈ valueItems name typeName doc → ∀ line ∈ i.below, IsQuiet line := by
    intro doc name typeName hdoc hi
    rcases List.mem_append.mp hi with hi | hi
    · split at hi
      · rw [List.mem_singleton.mp hi]
        exact hlater (Document.IsQuiet.of_getD fun t ht =>
          hquiet.value hdoc (by simp [Option.mem_def.mp ht]))
      · simp at hi
    · obtain ⟨type, _, rfl⟩ := List.mem_map.mp hi
      simp [Item.typing]
  have hfree : ∀ kind : SectionKind, i ∈ (Layout.freeTexts d kind).map
      (Item.holding (blockName kind)) → ∀ line ∈ i.below, IsQuiet line := by
    intro kind hi
    obtain ⟨t, ht, rfl⟩ := List.mem_map.mp hi
    exact hquiet.freeText ht
  cases kind with
  | params =>
    obtain ⟨p, hp, hi⟩ := List.mem_flatMap.mp hi
    rcases List.mem_cons.mp hi with rfl | hi
    · exact hlater (hquiet.param hp)
    · obtain ⟨type, _, rfl⟩ := List.mem_map.mp hi
      simp [Item.typing]
  | returns =>
    obtain ⟨doc, hdoc, hi⟩ := List.mem_flatMap.mp hi
    exact hvalues _ _ (List.mem_append_left _ hdoc) hi
  | yields =>
    obtain ⟨doc, hdoc, hi⟩ := List.mem_flatMap.mp hi
    exact hvalues _ _ (List.mem_append_right _ hdoc) hi
  | raises =>
    obtain ⟨r, hr, rfl⟩ := List.mem_map.mp hi
    exact hlater (Document.IsQuiet.of_getD fun t ht =>
      hquiet.raise hr (by simp [Option.mem_def.mp ht]))
  | examples =>
    obtain ⟨t, ht, rfl⟩ := List.mem_map.mp hi
    exact hquiet.exampleText ht
  | notes => exact hfree .notes hi
  | warnings => exact hfree .warnings hi
  | seeAlso => exact hfree .seeAlso hi
  | references => exact hfree .references hi

theorem isNative_whole (htidy : Tidy d) (hquiet : d.IsQuiet) {block : List Line}
    (hblock : block ∈ whole d) : ∀ line ∈ block, IsNative .rest line := by
  have hitems : ∀ i ∈ listed d ++ apart d, ∀ line ∈ i.lines, IsNative .rest line := by
    intro i hi
    refine isNative_item (htidy.all_items i hi) ?_
    simp only [listed, apart, List.mem_append, List.mem_flatMap] at hi
    rcases hi with ⟨kind, _, hi⟩ | ⟨kind, _, hi⟩ <;> exact isQuiet_below hquiet hi
  intro line hline
  rcases List.mem_append.mp hblock with hblock | hblock
  · exact (hquiet.head hblock hline).native _
  rcases List.mem_append.mp hblock with hblock | hblock
  · split at hblock
    · simp at hblock
    · rw [List.mem_singleton.mp hblock] at hline
      obtain ⟨i, hi, hline⟩ := List.mem_flatMap.mp hline
      exact hitems i (List.mem_append_left _ hi) line hline
  · obtain ⟨i, hi, rfl⟩ := List.mem_map.mp hblock
    exact hitems i (List.mem_append_right _ hi) line hline

/-- The first line of a field says which field it is. -/
theorem isFieldLine_head {i : Item} (h : i.Tidy) (hname : isFieldContent i.name = true) :
    isFieldLine (Layout.beside i.lead i.first) = true := by
  have hcolon : ∀ x ∈ i.name, (x == ':') = false :=
    fun x hx => beq_eq_false_iff_ne.mpr fun hx' => h.colon (hx' ▸ hx)
  have hline : Layout.beside i.lead i.first = ':' :: (i.name ++ ':' :: Layout.aside i.first) := by
    rw [Layout.beside_eq_aside _ (Item.isOneLine_lead h.line).nonempty]
    simp [Item.lead]
  have hafter : ((Layout.aside i.first).head?.map isSpace).getD true = true := by
    unfold Layout.aside
    split <;> rfl
  rw [hline]
  simp only [isFieldLine, cutAt?_append (Layout.aside i.first) hcolon (c := ':') rfl, hname, hafter,
    Bool.and_self]

theorem isFieldContent_append (keyword : Text) {argument : Text}
    (hkeyword : keyword.any isSpace = false)
    (hknown : isOneOf keyword argumentFields = true ∨ isOneOf keyword raiseFields = true)
    (hargument : argument ≠ []) : isFieldContent (keyword ++ ' ' :: argument) = true := by
  have hcut := cutAt?_append argument (by simpa using hkeyword) isSpace_space
  unfold isFieldContent
  split
  · rfl
  · rw [hcut]
    simpa [hargument] using hknown

/-- A field of the list whose name is known to be one. -/
theorem exists_field (htidy : Tidy d) (hstructured : d.IsStructured) :
    ∃ i ∈ listed d, isFieldContent i.name = true := by
  have hlisted : ∀ (kind : SectionKind) {i : Item}, kind ∈ fieldSections → i ∈ items d kind →
      i ∈ listed d := fun _ _ hkind hi => List.mem_flatMap.mpr ⟨_, hkind, hi⟩
  rcases hstructured with hp | hr | ⟨doc, hdoc, -⟩
  · obtain ⟨p, hp⟩ := List.exists_mem_of_ne_nil _ hp
    refine ⟨.describing ("param ".toList ++ p.display) (p.description.getD []),
      hlisted .params (by decide) (List.mem_flatMap.mpr ⟨p, hp, by simp [paramItems]⟩), ?_⟩
    exact isFieldContent_append "param".toList (by decide) (.inl (by decide))
      (Parameter.isOneLine_display (htidy.document.names p hp)).nonempty
  · obtain ⟨r, hr⟩ := List.exists_mem_of_ne_nil _ hr
    refine ⟨raiseItem r, hlisted .raises (by decide) (List.mem_map.mpr ⟨r, hr, rfl⟩), ?_⟩
    exact isFieldContent_append "raises".toList (by decide) (.inr (by decide))
      (htidy.document.exceptions r hr).nonempty
  · have hvalue : ∀ name typeName : Text, isFieldContent name = true →
        isFieldContent typeName = true →
        ∃ i ∈ valueItems name typeName doc, isFieldContent i.name = true := by
      intro name typeName hname htypeName
      unfold valueItems
      cases htype : doc.type with
      | none => exact ⟨.describing name (doc.description.getD []), by simp, hname⟩
      | some type => exact ⟨.typing typeName type, by simp, htypeName⟩
    rcases List.mem_append.mp hdoc with hmem | hmem
    · obtain ⟨i, hi, hname⟩ := hvalue "returns".toList "rtype".toList (by decide) (by decide)
      exact ⟨i, hlisted .returns (by decide) (List.mem_flatMap.mpr ⟨doc, hmem, hi⟩), hname⟩
    · obtain ⟨i, hi, hname⟩ := hvalue "yields".toList "ytype".toList (by decide) (by decide)
      exact ⟨i, hlisted .yields (by decide) (List.mem_flatMap.mpr ⟨doc, hmem, hi⟩), hname⟩

theorem countSignatures_whole (htidy : Tidy d) (hstructured : d.IsStructured) :
    0 < countSignatures .rest (Layout.separate (whole d)) := by
  obtain ⟨i, hi, hname⟩ := exists_field htidy hstructured
  have hitem := htidy.all_items i (List.mem_append_left _ hi)
  have hblock : (listed d).flatMap Item.lines ∈ whole d := by
    simp [whole, wholeBlocks, List.ne_nil_of_mem hi]
  have hmem : Layout.beside i.lead i.first ∈ Layout.separate (whole d) :=
    (Layout.isInfix_separate hblock).subset
      (List.mem_flatMap.mpr ⟨i, hi, List.mem_cons_self ..⟩)
  obtain ⟨n, hn⟩ := List.getElem?_of_mem hmem
  refine countSignatures_pos hn ?_
  rw [isSignature, trimStart_of_opensWithInk hitem.isOneLine_head.opens]
  exact isFieldLine_head hitem hname

end Docstring.Rest
