-- The fields of a written document are found again by their markers.
import Docstring.Proofs.Document.Head
import Docstring.Proofs.Rest.Written
import Docstring.Proofs.Text.Search

namespace Docstring

open Text

namespace Rest

/-! ## Markers -/

theorem markerBody?_aside {first : Text} (h : trim first = first) :
    markerBody? (Layout.aside first) = some first := by
  unfold Layout.aside
  by_cases hf : first = []
  · simp [hf, markerBody?]
  · have hopen := (ink_of_trim h hf).1
    simp [hf, markerBody?, trimStart_of_opensWithInk hopen]

/-- The first line of a field is read as its name and the text beside it. -/
theorem field?_item {i : Item} (h : i.Tidy) :
    field? (Layout.beside i.lead i.first) = some (i.name, i.first) := by
  obtain ⟨c, rest, hname, hc⟩ := exists_of_opensWithInk h.line.opens
  have hcolon : ∀ x ∈ i.name, (x == ':') = false := by
    intro x hx
    rw [beq_eq_false_iff_ne]
    rintro rfl
    exact h.colon hx
  have hcut := cutAt?_append (Layout.aside i.first) hcolon (c := ':') rfl
  have hline : Layout.beside i.lead i.first =
      ':' :: (i.name ++ ':' :: Layout.aside i.first) := by
    rw [Layout.beside_eq_aside _ (Item.isOneLine_lead h.line).nonempty]
    simp [Item.lead]
  have hfirst : (c == ':') = false := hcolon c (by simp [hname])
  have htrim := h.line.trimmed
  rw [hname] at hcut hline htrim ⊢
  rw [List.cons_append] at hcut hline
  rw [hline]
  simp only [field?, hc, hcut, markerBody?_aside h.trimmed, htrim]
  simpa using hfirst

theorem classify_item {i : Item} (h : i.Tidy) :
    classify (Layout.beside i.lead i.first) = some (classifyField i.name, i.first) := by
  rw [classify, field?_item h]

/-! ## Fields -/

/-- What a field says, wherever it stands. -/
def Field.shape (f : Field) : Marker × Text × List Line := (f.marker, f.text, f.body)

/-- What a written field says. -/
def Item.shape (i : Item) : Marker × Text × List Line :=
  (classifyField i.name, i.first, indent continuationIndent i.below)

theorem field?_of_head {line : Line} (h : line.head? ≠ some ':') : field? line = none := by
  unfold field?
  split
  · simp at h
  · rfl

theorem takes_of_mem_indent {lines : List Line} {line : Line} (f : Field)
    (hclean : ∀ l ∈ lines, IsClean l) (h : line ∈ indent continuationIndent lines) :
    f.takes line = true := by
  unfold Field.takes
  split
  · have hhead : line.head? ≠ some ':' := by
      rcases mem_indent h with rfl | ⟨inner, _, _, rfl⟩
      · simp
      · change some ' ' ≠ some ':'
        decide
    simp [field?_of_head hhead]
  · rcases deep_of_mem_indent hclean h with hb | hd
    · simp [hb]
    · have hpos : 0 < indentWidth line := lt_of_lt_of_le (by decide) hd
      simp [hpos]

theorem takes_empty (f : Field) : f.takes [] = true := by
  unfold Field.takes
  split <;> rfl

/-- No field takes the first line of another one. -/
theorem not_takes_item {i : Item} (f : Field) (h : i.Tidy) :
    f.takes (Layout.beside i.lead i.first) = false := by
  have hopen := h.isOneLine_head.opens
  unfold Field.takes
  split
  · simp [field?_item h]
  · simp [not_blank_of_opensWithInk hopen, indentWidth_of_opensWithInk hopen]

/-- Lines that a field takes go to its end. -/
theorem outlineFrom_append {lines : List Line} (n : Nat) (f : Field) (rest : List Line)
    (h : ∀ line ∈ lines, ∀ f : Field, f.takes line = true) :
    outlineFrom n (some f) (lines ++ rest) =
      outlineFrom (n + lines.length) (some { f with body := f.body ++ lines }) rest := by
  induction lines generalizing n f with
  | nil => simp
  | cons line lines ih =>
    have hpush := ih (n + 1) (f.push line) fun l hl => h l (by simp [hl])
    rw [List.cons_append, outlineFrom]
    simp only [Option.any_some, h line (by simp) f, if_true, Option.map_some]
    rw [hpush]
    simp [Field.push, Nat.add_assoc, Nat.add_comm 1]

/-- A written field is taken as a whole, whatever follows. -/
theorem outlineFrom_item {i : Item} (n : Nat) (current : Option Field) (rest : List Line)
    (h : i.Tidy) :
    outlineFrom n current (i.lines ++ rest) =
      let found := outlineFrom (n + 1 + (indent continuationIndent i.below).length)
        (some ⟨classifyField i.name, i.first, n, indent continuationIndent i.below⟩) rest
      (current.toList ++ found.1, found.2) := by
  have htakes : current.any (fun f => f.takes (Layout.beside i.lead i.first)) = false := by
    cases current with
    | none => rfl
    | some f => exact not_takes_item f h
  have hbody := outlineFrom_append (n + 1) ⟨classifyField i.name, i.first, n, []⟩ rest
    fun line hl f => takes_of_mem_indent f h.clean hl
  rw [Item.lines, List.cons_append, outlineFrom]
  simp only [htakes, h.isOneLine_head.not_blank, Bool.false_eq_true, if_false, classify_item h,
    hbody, List.nil_append]

theorem close_shape {i : Item} (n : Nat) (h : i.Tidy) :
    (Field.mk (classifyField i.name) i.first n (indent continuationIndent i.below)).close.shape =
      i.shape := by
  simp [Field.close, Field.shape, Item.shape,
    dropBlankEnd_of_endsInk (endsInk_indent continuationIndent h.ends)]

/-- The lines of a field, with an empty line above it where it stands apart. -/
def spaced (s : Bool × Item) : List Line := (if s.1 then [[]] else []) ++ s.2.lines

/-- Fields below an open one: the open one is closed, and the others follow in their order. -/
theorem outlineFrom_spaced (items : List (Bool × Item)) (n : Nat) (f : Field)
    (h : ∀ s ∈ items, s.2.Tidy) :
    let found := outlineFrom n (some f) (items.flatMap spaced)
    found.1.map (fun f => f.close.shape) = f.close.shape :: items.map (fun s => s.2.shape) ∧
      found.2 = none := by
  induction items generalizing n f with
  | nil => exact ⟨rfl, rfl⟩
  | cons s items ih =>
    have hitem : s.2.Tidy := h s (by simp)
    have hrest : ∀ x ∈ items, x.2.Tidy := fun x hx => h x (by simp [hx])
    -- The empty line goes to the open field and is dropped when that is closed.
    have hgap : ∃ m g, g.close.shape = f.close.shape ∧
        outlineFrom n (some f) ((s :: items).flatMap spaced) =
          outlineFrom m (some g) (s.2.lines ++ items.flatMap spaced) := by
      cases hs : s.1 with
      | false => exact ⟨n, f, rfl, by simp [spaced, hs]⟩
      | true =>
        refine ⟨n + 1, f.push [], ?_, ?_⟩
        · simp [Field.push, Field.close, Field.shape]
        · simp [spaced, hs, outlineFrom, takes_empty]
    obtain ⟨m, g, hclose, hlines⟩ := hgap
    obtain ⟨hshapes, hstop⟩ := ih (m + 1 + (indent continuationIndent s.2.below).length)
      ⟨classifyField s.2.name, s.2.first, m, indent continuationIndent s.2.below⟩ hrest
    rw [hlines, outlineFrom_item m (some g) _ hitem]
    refine ⟨?_, hstop⟩
    rw [List.map_append, hshapes, close_shape m hitem]
    simp [hclose]

/-- The fields of a written document, found again. -/
theorem outline_spaced {items : List (Bool × Item)} (n : Nat) (first : Item)
    (hfirst : first.Tidy) (h : ∀ s ∈ items, s.2.Tidy) :
    let found := outline n (first.lines ++ items.flatMap spaced)
    found.1.map Field.shape = first.shape :: items.map (fun s => s.2.shape) ∧
      found.2 = none := by
  obtain ⟨hshapes, hstop⟩ := outlineFrom_spaced items
    (n + 1 + (indent continuationIndent first.below).length)
    ⟨classifyField first.name, first.first, n, indent continuationIndent first.below⟩ h
  rw [close_shape n hfirst] at hshapes
  simp only [outline, outlineFrom_item n none _ hfirst]
  exact ⟨by simpa [Function.comp_def] using hshapes, hstop⟩

/-- The field list and the fields that stand apart, line by line: only those that stand apart have
an empty line above. -/
theorem separate_wholeBlocks {d : Document} (first : Item) (rest : List Item)
    (h : listed d ++ apart d = first :: rest) :
    ∃ items : List (Bool × Item), items.map Prod.snd = rest ∧
      Layout.separate (wholeBlocks d) = first.lines ++ items.flatMap spaced := by
  have hne : ∀ block ∈ (apart d).map Item.lines, block ≠ [] := by
    intro block hb
    obtain ⟨i, _, rfl⟩ := List.mem_map.mp hb
    simp [Item.lines]
  have hapart : ∀ is : List Item, (is.map Item.lines).flatMap (fun b => [] :: b) =
      (is.map fun i => (true, i)).flatMap spaced := by
    intro is
    simp only [List.flatMap_map, spaced]
    rfl
  have hlisted : ∀ is : List Item, is.flatMap Item.lines =
      (is.map fun i => (false, i)).flatMap spaced := by
    intro is
    simp only [List.flatMap_map, spaced]
    rfl
  cases hl : listed d with
  | nil =>
    rw [hl, List.nil_append] at h
    refine ⟨rest.map fun i => (true, i), by simp [Function.comp_def], ?_⟩
    rw [h] at hne
    rw [wholeBlocks, hl, h, ← hapart]
    simp only [List.isEmpty_nil, if_true, List.nil_append, List.map_cons]
    exact Layout.separate_eq_append _ (by simp [Item.lines])
      fun b hb => hne b (by simp [List.mem_map.mp hb])
  | cons i is =>
    rw [hl, List.cons_append] at h
    injection h with hi hrest
    refine ⟨is.map (fun i => (false, i)) ++ (apart d).map fun i => (true, i),
      by simp [← hrest, Function.comp_def], ?_⟩
    rw [wholeBlocks, hl, ← hi, List.flatMap_append, ← hapart, ← hlisted]
    simp only [List.isEmpty_cons, Bool.false_eq_true, if_false, List.flatMap_cons,
      List.singleton_append]
    rw [Layout.separate_eq_append _ (by simp [Item.lines]) hne, List.append_assoc]

end Rest

end Docstring
