-- Where sections open once lines of a docstring are replaced. The lines of a docstring are normalised
-- again before they are read, which trims the first one and takes a margin off the others. A line
-- that opens a section has no margin, so that it is found where it stood, unless it was replaced.
import Docstring.Proofs.Literal.Margin

namespace Docstring

open Text

/-! ## Reading normal lines -/

/-- Some lines with the first one trimmed. -/
def trimFirst : List Line → List Line
  | [] => []
  | first :: rest => trim first :: rest

@[simp] theorem length_trimFirst (lines : List Line) : (trimFirst lines).length = lines.length := by
  cases lines <;> rfl

theorem getElem?_trimFirst_succ (lines : List Line) (i : Nat) :
    (trimFirst lines)[i + 1]? = lines[i + 1]? := by
  cases lines <;> simp [trimFirst]

/-- A line that starts with ink is not changed by trimming, even when it is the first. -/
theorem getElem?_trimFirst {lines : List Line} {line : Line} {i : Nat}
    (hclean : ∀ l ∈ lines, IsClean l) (hline : lines[i]? = some line)
    (hink : opensWithInk line = true) : (trimFirst lines)[i]? = some line := by
  cases i with
  | succ i => rw [getElem?_trimFirst_succ, hline]
  | zero =>
    have hmem : line ∈ lines := List.mem_of_getElem? hline
    cases lines with
    | nil => simp at hline
    | cons first rest =>
      obtain rfl : first = line := by simpa using hline
      simp [trimFirst, trim_of_ink hink (hclean first hmem).trimmed]

theorem IsNormal.trim_ne_nil {first : Line} {rest : List Line} (h : IsNormal (first :: rest)) :
    trim first ≠ [] := by
  intro hnil
  have hblank : isBlank first = true := by
    rw [← isBlank_trim, hnil]
    rfl
  exact h.opens first rfl ((h.clean first (by simp)).blank_iff.mp hblank)

/-- When normal lines are read again, only the first one is sure to keep its place. -/
theorem exists_normalLines_joinLines {first : Line} {rest : List Line}
    (h : IsNormal (first :: rest)) :
    ∃ rest', normalLines (joinLines (first :: rest)) = trim first :: rest' := by
  rw [normalLines_joinLines_of_clean (by simp) h.clean, stripMargin,
    trimEmptyLines_cons _ h.trim_ne_nil]
  exact ⟨_, rfl⟩

/-- When normal lines are read again, the first one is trimmed and the others lose their margin. -/
theorem normalLines_joinLines_of_normal {first : Line} {rest : List Line}
    (h : IsNormal (first :: rest)) : normalLines (joinLines (first :: rest)) =
      trim first :: rest.map (stripColumns ((bodyMargin? (first :: rest)).getD 0)) := by
  rw [normalLines_joinLines_of_clean (by simp) h.clean, stripMargin]
  apply trimEmptyLines_of_ends
  · rintro _ ⟨⟩
    exact h.trim_ne_nil
  · intro last hlast hnil
    rcases List.eq_nil_or_concat' rest with rfl | ⟨init, inner, rfl⟩
    · obtain rfl : trim first = last := by simpa using hlast
      exact h.trim_ne_nil hnil
    · obtain rfl : stripColumns _ inner = last := by
        simpa [List.getLast?_cons] using hlast
      have hblank : isBlank inner = true := by
        rw [← isBlank_stripColumns, hnil]
        rfl
      refine h.ends inner (by simp [List.getLast?_cons]) ?_
      exact (h.clean inner (by simp)).blank_iff.mp hblank

/-- The first line, read again, is only trimmed. -/
theorem headD_normalLines_joinLines {old : List Line} (h : IsNormal old) :
    (normalLines (joinLines old)).headD [] = trim (old.headD []) := by
  cases old with
  | nil => rfl
  | cons first rest => rw [normalLines_joinLines_of_normal h, List.headD_cons, List.headD_cons]

/-- Normal lines without a margin are read as they stand but for the first one. -/
theorem normalLines_joinLines_of_margin {first : Line} {rest : List Line}
    (h : IsNormal (first :: rest)) (hmargin : (bodyMargin? (first :: rest)).getD 0 = 0) :
    normalLines (joinLines (first :: rest)) = trim first :: rest := by
  have hid : stripColumns 0 = id := funext stripColumns_zero
  rw [normalLines_joinLines_of_normal h, hmargin, hid, List.map_id]

/-- Below a first line, normal lines of which one starts with ink are read as they stand. -/
theorem normalLines_joinLines_of_ink {first line : Line} {rest : List Line}
    (h : IsNormal (first :: rest)) (hline : line ∈ rest) (hink : opensWithInk line = true) :
    normalLines (joinLines (first :: rest)) = trim first :: rest :=
  normalLines_joinLines_of_margin h (bodyMargin?_of_hasNoMargin (.inl ⟨line, hline, hink⟩))

/-- A line that starts with ink is found in its place when normal lines are read again. -/
theorem getElem?_normalLines_joinLines {lines : List Line} {line : Line} {i : Nat}
    (h : IsNormal lines) (hline : lines[i]? = some line) (hink : opensWithInk line = true) :
    (normalLines (joinLines lines))[i]? = some line := by
  cases lines with
  | nil => simp at hline
  | cons first rest =>
    cases i with
    | zero =>
      obtain ⟨rest', hrest'⟩ := exists_normalLines_joinLines h
      obtain rfl : first = line := by simpa using hline
      rw [hrest', List.getElem?_cons_zero, trim_of_ink hink (h.clean first (by simp)).trimmed]
    | succ i =>
      rw [List.getElem?_cons_succ] at hline
      rw [normalLines_joinLines_of_ink h (List.mem_of_getElem? hline) hink,
        List.getElem?_cons_succ, hline]

theorem length_normalLines_joinLines_le {lines : List Line} (h : IsNormal lines) :
    (normalLines (joinLines lines)).length ≤ lines.length := by
  cases lines with
  | nil => decide
  | cons first rest =>
    rw [normalLines_joinLines_of_clean (by simp) h.clean]
    refine (isInfix_trimEmptyLines _).length_le.trans ?_
    simp [stripMargin]

/-- Blank lines at the end have no part in the margin. -/
theorem bodyMargin?_append_blank {lines below : List Line} (hne : lines ≠ [])
    (hbelow : ∀ line ∈ below, isBlank line = true) :
    bodyMargin? (lines ++ below) = bodyMargin? lines := by
  obtain ⟨first, rest, rfl⟩ := List.exists_cons_of_ne_nil hne
  have hnone : below.filter (fun line => !isBlank line) = [] :=
    List.filter_eq_nil_iff.mpr fun line hl => by simp [hbelow line hl]
  simp [bodyMargin?, hnone]

/-- Clean lines are read with the first one trimmed, without the margin of the others and without the
empty lines at the end. -/
theorem exists_below_of_clean {first : Line} {rest : List Line} (hne : first ≠ [])
    (hclean : ∀ l ∈ first :: rest, IsClean l) :
    ∃ below : List Line, (∀ l ∈ below, l = []) ∧
      trim first :: rest.map (stripColumns ((bodyMargin? (first :: rest)).getD 0)) =
        normalLines (joinLines (trimEmptyLines (first :: rest))) ++ below := by
  have hnormal : IsNormal (trimEmptyLines (first :: rest)) :=
    ⟨fun l hl => hclean l ((isInfix_trimEmptyLines _).subset hl), opens_trimEmptyLines _,
      ends_trimEmptyLines _⟩
  have hbelow : ∀ l ∈ rest.rtakeWhile List.isEmpty, l = [] :=
    fun l hl => List.isEmpty_iff.mp (List.mem_rtakeWhile_imp hl)
  have hsplit : rest.rdropWhile List.isEmpty ++ rest.rtakeWhile List.isEmpty = rest :=
    List.rdropWhile_append_rtakeWhile
  have hkept : bodyMargin? (first :: rest.rdropWhile List.isEmpty) =
      bodyMargin? (first :: rest) := by
    conv => rhs; rw [← hsplit, ← List.cons_append]
    exact (bodyMargin?_append_blank (List.cons_ne_nil _ _) fun l hl => by rw [hbelow l hl]; rfl).symm
  rw [trimEmptyLines_cons rest hne] at hnormal ⊢
  rw [normalLines_joinLines_of_normal hnormal, hkept]
  refine ⟨(rest.rtakeWhile List.isEmpty).map
    (stripColumns ((bodyMargin? (first :: rest)).getD 0)), fun l hl => ?_, ?_⟩
  · obtain ⟨inner, hinner, rfl⟩ := List.mem_map.mp hl
    rw [hbelow inner hinner]
    simp [stripColumns]
  · rw [List.cons_append, ← List.map_append, hsplit]

/-- Clean lines without a margin are read as they stand but for the first one and for empty lines at
the end. -/
theorem exists_below_of_margin {first : Line} {rest : List Line} (hne : first ≠ [])
    (hclean : ∀ l ∈ first :: rest, IsClean l)
    (hmargin : (bodyMargin? (first :: rest)).getD 0 = 0) :
    ∃ below : List Line, (∀ l ∈ below, l = []) ∧
      trim first :: rest = normalLines (joinLines (trimEmptyLines (first :: rest))) ++ below := by
  have hid : stripColumns 0 = id := funext stripColumns_zero
  have hread := exists_below_of_clean hne hclean
  rwa [hmargin, hid, List.map_id] at hread

/-- Lines are replaced by new ones, and what there is then has no margin. The first line may be a
new one if it starts with ink. -/
theorem exists_below_of_replaced {old new : List Line} {first last : Nat}
    (hnormal : IsNormal old) (hclean : ∀ l ∈ new, IsClean l) (hfirst : first ≤ old.length)
    (hhead : first = 0 → ∃ l ∈ new.head?, opensWithInk l = true)
    (hmargin : (bodyMargin? (old.take first ++ new ++ old.drop last)).getD 0 = 0) :
    ∃ below : List Line, (∀ l ∈ below, l = []) ∧
      (trimFirst old).take first ++ (new ++ old.drop last) =
        normalLines (joinLines (trimEmptyLines (old.take first ++ new ++ old.drop last))) ++
          below := by
  have hclean' : ∀ l ∈ old.take first ++ new ++ old.drop last, IsClean l := by
    intro l hl
    simp only [List.mem_append] at hl
    rcases hl with (hl | hl) | hl
    · exact hnormal.clean l (List.mem_of_mem_take hl)
    · exact hclean l hl
    · exact hnormal.clean l (List.mem_of_mem_drop hl)
  cases first with
  | zero =>
    obtain ⟨l, hl, hopens⟩ := hhead rfl
    obtain ⟨rest, rfl⟩ : ∃ rest, new = l :: rest := ⟨new.tail, List.eq_cons_of_mem_head? hl⟩
    have hread := exists_below_of_margin (ne_nil_of_opensWithInk hopens) hclean' hmargin
    rwa [trim_of_ink hopens (hclean l (by simp)).trimmed] at hread
  | succ first =>
    cases old with
    | nil => simp at hfirst
    | cons l rest =>
      have hread := exists_below_of_margin (hnormal.opens l rfl) hclean' hmargin
      simpa [trimFirst, List.append_assoc] using hread

/-! ## Lines that are found again -/

/-- Lines are found at a place of others, empty ones at the end apart. -/
def Shown (lines all : List Line) (place : Nat) : Prop :=
  ∃ above below : List Line, above.length = place ∧ (∀ line ∈ below, line = []) ∧
    all ++ below = above ++ lines

theorem Shown.getElem? {lines all : List Line} {place n : Nat} {line : Line}
    (h : Shown lines all place) (hline : lines[n]? = some line) (hne : line ≠ []) :
    all[place + n]? = some line := by
  obtain ⟨above, below, rfl, hbelow, hall⟩ := h
  have hget : (all ++ below)[above.length + n]? = some line := by
    rw [hall, List.getElem?_append_right (Nat.le_add_right _ n), Nat.add_sub_cancel_left, hline]
  rcases Nat.lt_or_ge (above.length + n) all.length with hlt | hge
  · rwa [List.getElem?_append_left hlt] at hget
  · rw [List.getElem?_append_right hge] at hget
    exact absurd (hbelow line (List.mem_of_getElem? hget)) hne

/-! ## What opens a section -/

/-- How a section is opened: by a line that starts with ink and, in some styles, a second such line
below it, which can complete a title. -/
structure Opener where
  opens : Line → Option Line → Option SectionKind
  completes : Line → Prop
  ink : ∀ {line next kind}, opens line next = some kind → opensWithInk line = true
  ink_of_completes : ∀ {line}, completes line → opensWithInk line = true
  alone_or_completed : ∀ {line next kind}, opens line next = some kind →
    (∀ other, opens line other = some kind) ∨ ∃ line ∈ next, completes line

namespace Opener

/-- Sections that one line opens, whatever stands below it. -/
def ofLine (opens : Line → Option SectionKind)
    (ink : ∀ {line kind}, opens line = some kind → opensWithInk line = true) : Opener where
  opens line _ := opens line
  completes _ := False
  ink := ink
  ink_of_completes := False.elim
  alone_or_completed h := .inl fun _ => h

variable (o : Opener)

/-- The section that is opened at a line. -/
def at? (lines : List Line) (i : Nat) : Option SectionKind :=
  lines[i]?.bind fun line => o.opens line lines[i + 1]?

variable {o}

theorem at?_eq_some {lines : List Line} {i : Nat} {kind : SectionKind}
    (h : o.at? lines i = some kind) :
    ∃ line, lines[i]? = some line ∧ opensWithInk line = true ∧
      o.opens line lines[i + 1]? = some kind := by
  obtain ⟨line, hline, hopens⟩ := Option.bind_eq_some_iff.mp h
  exact ⟨line, hline, o.ink hopens, hopens⟩

/-- A section is opened wherever the line stands that opens it, with the one that completes it. -/
theorem at?_of_getElem? {lines lines' : List Line} {i j : Nat} {kind : SectionKind}
    (h : o.at? lines i = some kind) (hline : ∀ line ∈ lines[i]?, lines'[j]? = some line)
    (hnext : ∀ line ∈ lines[i + 1]?, o.completes line → lines'[j + 1]? = some line) :
    o.at? lines' j = some kind := by
  obtain ⟨line, hfirst, _, hopens⟩ := at?_eq_some h
  rw [at?, hline line hfirst, Option.bind_some]
  rcases o.alone_or_completed hopens with halone | ⟨next, hbelow, hcompletes⟩
  · exact halone _
  · rw [hnext next hbelow hcompletes, ← Option.mem_def.mp hbelow]
    exact hopens

theorem at?_append {lines below : List Line} {i : Nat} {kind : SectionKind}
    (h : o.at? lines i = some kind) : o.at? (lines ++ below) i = some kind := by
  have hkept : ∀ (n : Nat) line, lines[n]? = some line → (lines ++ below)[n]? = some line := by
    intro n line hline
    rw [List.getElem?_append_left (List.getElem?_eq_some_iff.mp hline).1, hline]
  exact at?_of_getElem? h (hkept i) fun line hline _ => hkept (i + 1) line hline

/-- Where lines are found again, no section is opened that they do not open. -/
theorem at?_of_shown {lines all : List Line} {place n : Nat} {kind : SectionKind}
    (hshown : Shown lines all place) (h : o.at? all (place + n) = some kind) :
    o.at? lines n = some kind := by
  obtain ⟨above, below, rfl, _, hall⟩ := hshown
  have hwhole : o.at? (all ++ below) (above.length + n) = some kind := at?_append h
  have hget : ∀ m, (all ++ below)[above.length + m]? = lines[m]? := by
    intro m
    rw [hall, List.getElem?_append_right (Nat.le_add_right _ m), Nat.add_sub_cancel_left]
  exact at?_of_getElem? hwhole (fun line hline => (hget n).symm.trans hline)
    fun line hline _ => (hget (n + 1)).symm.trans hline

/-- A section that is opened below a first line that is trimmed is found there again. -/
theorem at?_normalLines_joinLines {lines : List Line} {i : Nat} {kind : SectionKind}
    (hnormal : IsNormal lines) (h : o.at? (trimFirst lines) i = some kind) :
    o.at? (normalLines (joinLines lines)) i = some kind := by
  cases lines with
  | nil => simp [at?, trimFirst] at h
  | cons first rest =>
    by_cases hlevel : ∃ line ∈ rest, opensWithInk line = true
    · obtain ⟨line, hline, hink⟩ := hlevel
      rwa [normalLines_joinLines_of_ink hnormal hline hink]
    · obtain ⟨rest', hrest'⟩ := exists_normalLines_joinLines hnormal
      have hbelow : ∀ n line, (trimFirst (first :: rest))[n + 1]? = some line →
          opensWithInk line = true → False := by
        intro n line hline hink
        refine hlevel ⟨line, List.mem_of_getElem? (i := n) ?_, hink⟩
        simpa [trimFirst] using hline
      rw [hrest']
      cases i with
      | zero =>
        exact at?_of_getElem? h (by simp [trimFirst]) fun line hline hcompletes =>
          (hbelow 0 line hline (o.ink_of_completes hcompletes)).elim
      | succ i =>
        obtain ⟨line, hline, hink, _⟩ := at?_eq_some h
        exact (hbelow i line hline hink).elim

/-- Once lines from `first` up to `last` are replaced, a section that is opened somewhere was opened
outside of these lines, or it is opened in the new ones. -/
theorem at?_replaced {old new : List Line} {first last i : Nat} {kind : SectionKind}
    (hclean : ∀ line ∈ old, IsClean line) (hfirst : first ≤ old.length) (hne : new ≠ [])
    (hcompletes : ∀ line ∈ new.head?, ¬o.completes line)
    (h : o.at? ((trimFirst old).take first ++ (new ++ old.drop last)) i = some kind) :
    (∃ j, (j < first ∨ last ≤ j) ∧ o.at? (trimFirst old) j = some kind) ∨
      ∃ j < new.length, i = first + j ∧ o.at? (new ++ old.drop last) j = some kind := by
  have hlength : ((trimFirst old).take first).length = first := by simp [hfirst]
  rcases Nat.lt_or_ge i first with habove | hbelow
  · refine .inl ⟨i, .inl habove, at?_of_getElem? h (fun line hline => ?_)
      fun line hline hnext => ?_⟩
    · rwa [Option.mem_def, List.getElem?_append_left (by omega),
        List.getElem?_take_of_lt habove] at hline
    · rcases Nat.lt_or_ge (i + 1) first with hinner | hedge
      · rwa [Option.mem_def, List.getElem?_append_left (by omega),
          List.getElem?_take_of_lt hinner] at hline
      · refine absurd hnext (hcompletes line ?_)
        rw [Option.mem_def, List.getElem?_append_right (by omega), hlength,
          List.getElem?_append_left (by have := List.length_pos_of_ne_nil hne; omega)] at hline
        rw [Option.mem_def, List.head?_eq_getElem?, ← hline]
        congr 1
        omega
  · obtain ⟨j, rfl⟩ := Nat.exists_eq_add_of_le hbelow
    have hright : ∀ n, ((trimFirst old).take first ++ (new ++ old.drop last))[first + n]? =
        (new ++ old.drop last)[n]? := by
      intro n
      rw [List.getElem?_append_right (by omega), hlength, Nat.add_sub_cancel_left]
    have hrest : o.at? (new ++ old.drop last) j = some kind :=
      at?_of_getElem? h (fun line hline => by rwa [Option.mem_def, hright] at hline)
        fun line hline _ => by rwa [Option.mem_def, Nat.add_assoc, hright] at hline
    rcases Nat.lt_or_ge j new.length with hnew | hold
    · exact .inr ⟨j, hnew, rfl, hrest⟩
    · obtain ⟨k, rfl⟩ := Nat.exists_eq_add_of_le hold
      have hkept : ∀ n, (new ++ old.drop last)[new.length + n]? = old[last + n]? := by
        intro n
        rw [List.getElem?_append_right (by omega), Nat.add_sub_cancel_left, List.getElem?_drop]
      refine .inl ⟨last + k, .inr (Nat.le_add_right last k), at?_of_getElem? hrest ?_ ?_⟩
      · intro line hline
        obtain ⟨line', hline', hink, _⟩ := at?_eq_some hrest
        obtain rfl : line' = line := Option.some.inj (hline'.symm.trans hline)
        exact getElem?_trimFirst hclean ((hkept k).symm.trans hline) hink
      · intro line hline _
        rw [getElem?_trimFirst_succ]
        rwa [Option.mem_def, Nat.add_assoc, hkept, ← Nat.add_assoc] at hline

end Opener

end Docstring
