-- The outline of lines under headers. A header opens a section, the lines below it go to the section
-- that is open, and above the first header stand only blank lines. Whatever a header is like, the
-- sections that are found stand in the text where they say, they tile it, and every header starts
-- one of them.
import Docstring.Proofs.Document.Walk
import Docstring.Proofs.Text.Words
import Mathlib.Algebra.GroupWithZero.Nat

namespace Docstring

open Text

/-- A section as it stands in a text: the line where its header starts, and the lines below the
header. -/
structure HeadedSection where
  kind : SectionKind
  first : Nat
  body : List Line

namespace HeadedSection

def push (s : HeadedSection) (line : Line) : HeadedSection := { s with body := s.body ++ [line] }

/-- The section without the blank lines at its end. -/
def close (s : HeadedSection) : HeadedSection := { s with body := dropBlankEnd s.body }

end HeadedSection

/-- What the headers of a style are like: how many lines one takes up, and what it opens. -/
structure Headers where
  size : Nat
  atHeader : List Line → Bool
  openedAt? : List Line → Option SectionKind
  size_pos : 0 < size
  not_nil : atHeader [] = false
  /-- The last line of a header is not blank. -/
  ink {lines : List Line} {n : Nat} {kind : SectionKind} :
    openedAt? (lines.drop n) = some kind → ∃ line ∈ lines[n + size - 1]?, isBlank line = false
  /-- Within a header no other one starts. -/
  single {lines : List Line} {n i : Nat} {kind : SectionKind} :
    openedAt? (lines.drop n) = some kind → n < i → i < n + size → atHeader (lines.drop i) = false

namespace Headers

variable (headers : Headers) (lines : List Line)

def span (s : HeadedSection) : SectionSpan :=
  ⟨s.kind, s.first, s.first + headers.size + (dropBlankEnd s.body).length⟩

/-- The number of words in a section, its header included. -/
def wordCount (s : HeadedSection) : Nat :=
  Text.wordCount ((lines.drop s.first).take headers.size) + Text.wordCount s.body

/-- An outline from line `n` on that comes to the end of the lines: the sections that it finds, where
`current` is open above line `n`. -/
inductive Outlined : Nat → Option HeadedSection → List HeadedSection → Prop where
  | finish {n : Nat} {current : Option HeadedSection} (hend : lines.drop n = []) :
    Outlined n current current.toList
  | opens {n : Nat} {current : Option HeadedSection} {kind : SectionKind}
    {found : List HeadedSection} (hopens : headers.openedAt? (lines.drop n) = some kind)
    (hbelow : Outlined (n + headers.size) (some ⟨kind, n, []⟩) found) :
    Outlined n current (current.toList ++ found)
  | push {n : Nat} {s : HeadedSection} {line : Line} {rest : List Line}
    {found : List HeadedSection} (hline : lines.drop n = line :: rest)
    (hnone : headers.atHeader (line :: rest) = false)
    (hbelow : Outlined (n + 1) (some (s.push line)) found) : Outlined n (some s) found
  | gap {n : Nat} {line : Line} {rest : List Line} {found : List HeadedSection}
    (hline : lines.drop n = line :: rest) (hnone : headers.atHeader (line :: rest) = false)
    (hblank : isBlank line = true) (hbelow : Outlined (n + 1) none found) : Outlined n none found

/-- An open section that ends above line `n`. -/
structure Stands (n : Nat) (s : HeadedSection) : Prop where
  header : headers.openedAt? (lines.drop s.first) = some s.kind
  body : StandsAt lines (s.first + headers.size) s.body
  length : s.first + headers.size + s.body.length = n

variable {headers lines} {n i : Nat} {current : Option HeadedSection} {s : HeadedSection}
  {found : List HeadedSection}

/-! ## What an open section is like -/

theorem Stands.first_le (h : headers.Stands lines n s) : s.first ≤ n := by
  have hlength := h.length
  omega

/-- Where its header stands, a section is opened without lines. -/
theorem stands_opened {kind : SectionKind} (h : headers.openedAt? (lines.drop n) = some kind) :
    headers.Stands lines (n + headers.size) ⟨kind, n, []⟩ :=
  ⟨h, List.nil_prefix, rfl⟩

theorem Stands.push {line : Line} {rest : List Line} (h : headers.Stands lines n s)
    (hline : lines.drop n = line :: rest) : headers.Stands lines (n + 1) (s.push line) where
  header := h.header
  body := h.body.concat (by rw [h.length]; exact hline)
  length := by
    have hlength := h.length
    simp only [HeadedSection.push, List.length_append, List.length_singleton]
    omega

theorem Stands.tiled (h : headers.Stands lines n s) :
    Tiled headers.openedAt? lines s.first n [headers.span s] := by
  have htiled := tiled_section h.header headers.size_pos (headers.ink h.header) h.body
  rwa [h.length] at htiled

/-! ## What is found -/

/-- The sections that are found stand in the text where they say. -/
theorem Outlined.standsAt (h : headers.Outlined lines n current found)
    (hcurrent : ∀ s ∈ current, headers.Stands lines n s) :
    ∀ s ∈ found, StandsAt lines (s.first + headers.size) s.body := by
  induction h with
  | finish hend => exact fun s hs => (hcurrent s (Option.mem_toList.mp hs)).body
  | @opens n current kind found hopens hbelow ih =>
    refine List.forall_mem_append.mpr
      ⟨fun s hs => (hcurrent s (Option.mem_toList.mp hs)).body, ih ?_⟩
    rintro s ⟨⟩
    exact stands_opened hopens
  | @push n s line rest found hline hnone hbelow ih =>
    refine ih ?_
    rintro s ⟨⟩
    exact (hcurrent _ rfl).push hline
  | gap hline hnone hblank hbelow ih => exact ih (by simp)

/-- The sections that are found tile the lines to their end. -/
theorem Outlined.tiled (h : headers.Outlined lines n current found)
    (hcurrent : ∀ s ∈ current, headers.Stands lines n s) :
    Tiled headers.openedAt? lines (current.elim n HeadedSection.first) lines.length
      (found.map headers.span) := by
  have hopened : ∀ {n : Nat} {current : Option HeadedSection},
      (∀ s ∈ current, headers.Stands lines n s) → current.elim n HeadedSection.first ≤ n ∧
        Tiled headers.openedAt? lines (current.elim n HeadedSection.first) n
          (current.toList.map headers.span) := fun h =>
    tiled_toList _ _ (fun s hs => (h s hs).first_le) fun s hs => (h s hs).tiled
  induction h with
  | finish hend => exact (hopened hcurrent).2.to_end (List.drop_eq_nil_iff.mp hend)
  | @opens n current kind found hopens hbelow ih =>
    have htiled := ih (by rintro s ⟨⟩; exact stands_opened hopens)
    have hlt : n < lines.length := by
      obtain ⟨line, hline, _⟩ := headers.ink hopens
      have hpos := headers.size_pos
      have hlast := (List.getElem?_eq_some_iff.mp hline).1
      omega
    obtain ⟨hle, habove⟩ := hopened hcurrent
    rw [List.map_append]
    exact habove.append htiled hle hlt.le
  | @push n s line rest found hline hnone hbelow ih =>
    refine ih ?_
    rintro s ⟨⟩
    exact (hcurrent _ rfl).push hline
  | @gap n line rest found hline hnone hblank hbelow ih =>
    exact (ih (by simp)).below_gap (isGap_succ hline hblank) (Nat.le_succ n)
      (lt_length_of_drop hline)

/-- The section that is open is found. -/
theorem Outlined.exists_first (h : headers.Outlined lines n current found) :
    ∀ s ∈ current, ∃ t ∈ found, t.first = s.first := by
  induction h with
  | finish hend => exact fun s hs => ⟨s, Option.mem_toList.mpr hs, rfl⟩
  | opens hopens hbelow ih =>
    exact fun s hs => ⟨s, List.mem_append_left _ (Option.mem_toList.mpr hs), rfl⟩
  | push hline hnone hbelow ih =>
    rintro s ⟨⟩
    exact ih (HeadedSection.push _ _) rfl
  | gap hline hnone hblank hbelow ih => simp

/-- Every header starts a section. -/
theorem Outlined.exists_of_atHeader (h : headers.Outlined lines n current found) (hle : n ≤ i)
    (hheader : headers.atHeader (lines.drop i) = true) : ∃ s ∈ found, s.first = i := by
  have hlater : ∀ {n : Nat} {line : Line} {rest : List Line}, lines.drop n = line :: rest →
      headers.atHeader (line :: rest) = false → n ≤ i → n + 1 ≤ i := by
    intro n line rest hline hnone hle
    refine Nat.lt_of_le_of_ne hle ?_
    rintro rfl
    rw [hline, hnone] at hheader
    cases hheader
  induction h with
  | finish hend =>
    rw [drop_eq_nil_of_drop hend hle, headers.not_nil] at hheader
    cases hheader
  | @opens n current kind found hopens hbelow ih =>
    rcases Nat.eq_or_lt_of_le hle with rfl | hlt
    · obtain ⟨s, hs, hfirst⟩ := hbelow.exists_first _ rfl
      exact ⟨s, List.mem_append_right _ hs, hfirst⟩
    · have hbelow' : n + headers.size ≤ i := by
        by_contra hinside
        rw [headers.single hopens hlt (Nat.lt_of_not_le hinside)] at hheader
        cases hheader
      obtain ⟨s, hs, hfirst⟩ := ih hbelow'
      exact ⟨s, List.mem_append_right _ hs, hfirst⟩
  | push hline hnone hbelow ih => exact ih (hlater hline hnone hle)
  | gap hline hnone hblank hbelow ih => exact ih (hlater hline hnone hle)

/-- No word below line `n` is outside of the sections that are found. -/
theorem Outlined.sum_wordCount (h : headers.Outlined lines n current found) :
    (found.map (headers.wordCount lines)).sum =
      (current.toList.map (headers.wordCount lines)).sum + Text.wordCount (lines.drop n) := by
  induction h with
  | finish hend => rw [hend, wordCount_nil, Nat.add_zero]
  | @opens n current kind found hopens hbelow ih =>
    have hhead : headers.wordCount lines ⟨kind, n, []⟩ =
        Text.wordCount ((lines.drop n).take headers.size) := rfl
    have hlines : Text.wordCount (lines.drop n) =
        Text.wordCount ((lines.drop n).take headers.size) +
          Text.wordCount (lines.drop (n + headers.size)) := by
      rw [← List.drop_drop, ← wordCount_append, List.take_append_drop]
    rw [List.map_append, List.sum_append, ih, hlines, Option.toList_some, List.map_singleton,
      List.sum_singleton, hhead]
  | @push n s line rest found hline hnone hbelow ih =>
    have hpush : headers.wordCount lines (s.push line) =
        headers.wordCount lines s + (words line).length := by
      simp [wordCount, HeadedSection.push, Nat.add_assoc]
    rw [ih, drop_succ_of_drop hline, hline, wordCount_cons]
    simp [hpush, Nat.add_assoc]
  | gap hline hnone hblank hbelow ih =>
    rw [ih, drop_succ_of_drop hline, hline, wordCount_cons, words_of_blank hblank]
    simp

/-! ## What is recorded -/

/-- The sections of the lines from line `lo` on, without the blank lines at their ends. -/
structure Divides (headers : Headers) (lines : List Line) (lo : Nat)
    (sections : List HeadedSection) : Prop where
  stands : ∀ s ∈ sections, StandsAt lines (s.first + headers.size) s.body
  ends : ∀ s ∈ sections, EndsInk s.body
  tiled : Tiled headers.openedAt? lines lo lines.length (sections.map headers.span)
  words : (sections.map (headers.wordCount lines)).sum = Text.wordCount (lines.drop lo)
  headed : ∀ i, lo ≤ i → headers.atHeader (lines.drop i) = true → ∃ s ∈ sections, s.first = i

theorem span_comp_close (headers : Headers) :
    headers.span ∘ HeadedSection.close = headers.span := by
  funext s
  simp [span, HeadedSection.close, dropBlankEnd_of_endsInk (endsInk_dropBlankEnd s.body)]

theorem wordCount_comp_close (headers : Headers) (lines : List Line) :
    headers.wordCount lines ∘ HeadedSection.close = headers.wordCount lines := by
  funext s
  simp [wordCount, HeadedSection.close, Text.wordCount, flatMap_words_dropBlankEnd]

theorem Outlined.divides (h : headers.Outlined lines n none found) :
    headers.Divides lines n (found.map HeadedSection.close) where
  stands := by
    rw [List.forall_mem_map]
    exact fun s hs => (h.standsAt (by simp) s hs).of_part (List.rdropWhile_prefix _ _)
  ends := by
    rw [List.forall_mem_map]
    exact fun s _ => endsInk_dropBlankEnd s.body
  tiled := by
    rw [List.map_map, span_comp_close]
    exact h.tiled (by simp)
  words := by
    rw [List.map_map, wordCount_comp_close, h.sum_wordCount]
    exact Nat.zero_add _
  headed i hle hheader := by
    obtain ⟨s, hs, hfirst⟩ := h.exists_of_atHeader hle hheader
    exact ⟨s.close, List.mem_map_of_mem hs, hfirst⟩

/-- Below its own header, a section has none. -/
theorem Divides.atHeader_eq_false {sections : List HeadedSection}
    (h : headers.Divides lines n sections) (hs : s ∈ sections) (hfirst : s.first < i)
    (hlast : i < s.first + headers.size + s.body.length) : headers.atHeader (lines.drop i) = false := by
  by_contra hheader
  rw [Bool.not_eq_false] at hheader
  have hspan : headers.span s ∈ sections.map headers.span := List.mem_map_of_mem hs
  have hlt : i < (headers.span s).last := by
    rwa [span, dropBlankEnd_of_endsInk (h.ends s hs)]
  obtain ⟨t, ht, rfl⟩ := h.headed i ((h.tiled.first _ hspan).trans hfirst.le) hheader
  have htspan : headers.span t ∈ sections.map headers.span := List.mem_map_of_mem ht
  have hsame := h.tiled.eq_of_mem hspan htspan ⟨hfirst.le, hlt⟩
    ⟨Nat.le_refl _, h.tiled.nonempty _ htspan⟩
  exact absurd (congrArg SectionSpan.first hsame) hfirst.ne

end Headers

/-- A walk over sections under headers: where a header ends the head, an outline that comes to the end
of the lines is one of the sections below it, and adding a section records where it stands. -/
structure Walk.IsHeaded {Item : Type} (w : Walk Item Document) (headers : Headers)
    (heading : Item → HeadedSection) (span : Item → SectionSpan) : Prop where
  start : w.start = id
  finish : w.finish = id
  endsSummary : w.endsSummary = headers.atHeader
  endsProse : w.endsProse = headers.atHeader
  outlined {lines rest : List Line} {n : Nat} : lines.drop n = rest →
    (rest = [] ∨ headers.atHeader rest = true) → (w.outline n rest).2 = none →
      ∃ found, headers.Outlined lines n none found ∧
        (w.outline n rest).1.map heading = found.map HeadedSection.close ∧
        (w.outline n rest).1.map span = found.map headers.span
  add {d d' : Document} {b : Item} : w.add d b = .ok d' →
    d'.metadata.sections = d.metadata.sections ++ [span b]

namespace Walk.IsHeaded

variable {Item : Type} {w : Walk Item Document} {headers : Headers} {heading : Item → HeadedSection}
  {span : Item → SectionSpan} {lines : List Line} {d : Document}

/-- A docstring that is read is divided into the sections that are added. -/
theorem exists_divides (hw : w.IsHeaded headers heading span) (h : w.read lines = .ok d) :
    let items := (w.outline (w.head lines).length (w.head lines).rest).1
    items.foldlM w.add ((w.head lines).document w.style) = .ok d ∧
      headers.Divides lines (w.head lines).length (items.map heading) ∧
      d.metadata.sections = (items.map heading).map headers.span := by
  intro items
  obtain ⟨hstop, s, hfold, rfl⟩ := read_eq_ok_iff.mp h
  rw [hw.start, id] at hfold
  rw [hw.finish, id]
  have hbelow : lines.drop (w.head lines).length = (w.head lines).rest := Head.drop_cut _ _ lines
  have hmark : (w.head lines).rest = [] ∨ w.endsProse (w.head lines).rest = true :=
    Head.mark_cut _ _ lines
  obtain ⟨found, houtlined, hitems, hspans⟩ := hw.outlined hbelow (hw.endsProse ▸ hmark) hstop
  refine ⟨hfold, hitems ▸ houtlined.divides, ?_⟩
  have hsections := foldlM_map (fun d => d.metadata.sections) (fun _ _ _ hb => hw.add hb) hfold
  rw [hsections, hspans, hitems, List.map_map, headers.span_comp_close]
  rfl

/-- The recorded sections tile the lines. -/
theorem tiled (hw : w.IsHeaded headers heading span) (h : w.read lines = .ok d) :
    ∃ lo, Tiled headers.openedAt? lines lo lines.length d.metadata.sections := by
  obtain ⟨_, hdivides, hsections⟩ := hw.exists_divides h
  exact ⟨_, hsections ▸ hdivides.tiled⟩

/-- Every header starts a section that is recorded. -/
theorem exists_of_atHeader (hw : w.IsHeaded headers heading span) (h : w.read lines = .ok d) {i : Nat}
    (hheader : headers.atHeader (lines.drop i) = true) :
    ∃ s ∈ d.metadata.sections, s.first = i := by
  obtain ⟨_, hdivides, hsections⟩ := hw.exists_divides h
  have hle : (w.head lines).length ≤ i :=
    Head.length_cut_le_of_mark (fun tail hmark => by rwa [hw.endsSummary, ← hw.endsProse])
      (hw.endsProse.symm ▸ hheader)
  obtain ⟨s, hs, hfirst⟩ := hdivides.headed i hle hheader
  rw [hsections]
  exact ⟨headers.span s, List.mem_map_of_mem hs, hfirst⟩

end Walk.IsHeaded

end Docstring
