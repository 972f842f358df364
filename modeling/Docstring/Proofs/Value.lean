-- What docstrings of any style say about the value that is returned or yielded: where a section on it
-- is opened, when it says a type, and which types are read back from where they are written.
import Docstring.Proofs.Detection
import Docstring.Proofs.Document.Rewritten
import Docstring.Proofs.Google.Value
import Docstring.Proofs.Numpy.Value
import Docstring.Proofs.Rest.Value
import Docstring.Proofs.Tiled

namespace Docstring

open Text

/-- Nothing opens a section. -/
def Opener.never : Opener := .ofLine (fun _ => none) nofun

/-- A line that starts with a colon is no section header of the Google style. -/
theorem Google.isHeader_colon (rest : Text) : Google.isHeader (':' :: rest) = false := by
  cases rest with
  | nil => decide
  | cons c rest =>
    rw [isHeader, header?, List.dropLast_cons_cons, headerOfTitle?_of_colon List.mem_cons_self,
      ite_self]
    rfl

namespace Rest

variable {old : List Line} {d : Document} {kind : SectionKind} {s : SectionSpan} {line : Line}

theorem isHeader_of_field? (h : (field? line).isSome = true) : Google.isHeader line = false := by
  have hcolon : line.head? = some ':' := by
    by_contra hhead
    rw [field?_of_head hhead] at h
    cases h
  obtain ⟨rest, rfl⟩ := List.head?_eq_some_iff.mp hcolon
  exact Google.isHeader_colon rest

section Margin

variable {above : Line} {rest : List Line} {n : Nat}

/-- The first line of a section on a value that starts the docstring is no section header. -/
theorem isHeader_first (hkind : kind = .returns ∨ kind = .yields)
    (hnormal : IsNormal (above :: rest)) (h : parse (joinLines (above :: rest)) = .ok d)
    (hs : s ∈ d.metadata.sections) (hsame : s.kind = kind) (hfirst : s.first = 0) :
    Google.isHeader (trim above) = false := by
  obtain ⟨lo, htiled⟩ := (tiled_parse h).1
  have hopened := htiled.opened s hs
  rw [hfirst, List.drop_zero, normalLines_joinLines_of_normal hnormal, openedAt?, List.head?_cons,
    Option.bind_some, Option.bind_eq_some_iff] at hopened
  obtain ⟨found, hclassify, hfound⟩ := hopened
  exact isHeader_of_field? (field?_of_value hkind hclassify (hsame ▸ hfound))

/-- Below the first section, a line that is not empty belongs to a section that opens there, at the
margin. -/
theorem exists_opened_below (hnormal : IsNormal (above :: rest))
    (h : parse (joinLines (above :: rest)) = .ok d) (hs : s ∈ d.metadata.sections)
    (hlast : s.last = n + 1) (hbelow : ∃ l ∈ rest.drop n, l ≠ []) :
    ∃ l ∈ rest.drop n, isBlank l = false ∧
      indentWidth l ≤ (bodyMargin? (above :: rest)).getD 0 := by
  obtain ⟨lo, htiled⟩ := (tiled_parse h).1
  have hread := normalLines_joinLines_of_normal hnormal
  have hclean : ∀ l ∈ rest, IsClean l := fun l hl => hnormal.clean l (by simp [hl])
  obtain ⟨l, hl, hne⟩ := hbelow
  obtain ⟨k, hk⟩ := List.mem_iff_getElem?.mp hl
  have hink : isBlank l = false := Bool.eq_false_iff.mpr fun hblank =>
    hne ((hclean l (List.mem_of_mem_drop hl)).blank_iff.mp hblank)
  rw [List.getElem?_drop] at hk
  have hplace : (normalLines (joinLines (above :: rest)))[n + k + 1]? =
      some (stripColumns ((bodyMargin? (above :: rest)).getD 0) l) := by
    rw [hread, List.getElem?_cons_succ, List.getElem?_map, hk]
    rfl
  have hnonempty := htiled.nonempty s hs
  obtain ⟨t, ht, hle, hlt⟩ := htiled.covers (n + k + 1) _
    ((htiled.first s hs).trans (by omega)) (List.getElem?_eq_some_iff.mp hplace).1 hplace
    (by rw [isBlank_stripColumns, hink])
  have hapart := htiled.apart_of_ne hs ht fun hsame => by
    subst hsame
    omega
  obtain ⟨m, hm⟩ : ∃ m, t.first = m + 1 := ⟨t.first - 1, by omega⟩
  have hopened := htiled.opened t ht
  rw [hm, hread, List.drop_succ_cons, openedAt?, List.head?_drop, List.getElem?_map,
    Option.bind_eq_some_iff] at hopened
  obtain ⟨found, hclassify, _⟩ := hopened
  obtain ⟨_, hstripped, hclassify⟩ := Option.bind_eq_some_iff.mp hclassify
  obtain ⟨l', hl', rfl⟩ := Option.map_eq_some_iff.mp hstripped
  have hopens := opensWithInk_of_classify hclassify
  refine ⟨l', ?_, ?_, ?_⟩
  · obtain ⟨j, rfl⟩ : ∃ j, m = n + j := ⟨m - n, by omega⟩
    exact List.mem_of_getElem? (List.getElem?_drop.trans hl')
  · rw [← isBlank_stripColumns]
    exact not_blank_of_opensWithInk hopens
  · have hwidth := indentWidth_of_opensWithInk hopens
    rw [indentWidth_stripColumns _ (hclean l' (List.mem_of_getElem? hl')).tab] at hwidth
    exact Nat.sub_eq_zero_iff_le.mp hwidth

end Margin

/-- Below the first section, the margin of the lines is that of all: another section opens there
without any indentation behind it. -/
theorem bodyMargin?_below (hkind : kind = .returns ∨ kind = .yields) (hnormal : IsNormal old)
    (h : parse (joinLines old) = .ok d) (hs : s ∈ d.metadata.sections) (hsame : s.kind = kind)
    (hfirst : s.first = 0) (hline : Google.isHeader (trim line) = false) :
    (∀ l ∈ old.drop s.last, l = []) ∨
      (bodyMargin? (line :: old.drop s.last)).getD 0 = (bodyMargin? old).getD 0 := by
  by_cases hempty : ∀ l ∈ old.drop s.last, l = []
  · exact .inl hempty
  right
  obtain ⟨above, rest, rfl⟩ : ∃ above rest, old = above :: rest := by
    cases old with
    | nil => exact absurd (by simp) hempty
    | cons above rest => exact ⟨above, rest, rfl⟩
  obtain ⟨lo, htiled⟩ := (tiled_parse h).1
  have hlast : 0 < s.last := hfirst ▸ htiled.nonempty s hs
  obtain ⟨n, hn⟩ := Nat.exists_eq_succ_of_ne_zero hlast.ne'
  rw [hn, List.drop_succ_cons] at hempty ⊢
  have habove := isHeader_first hkind hnormal h hs hsame hfirst
  obtain ⟨l, hl, hink, hflush⟩ := exists_opened_below hnormal h hs hn (by simpa using hempty)
  apply Nat.le_antisymm
  · exact (bodyMargin?_le line hl hink).trans ((marginOf_le _ _).trans hflush)
  · rcases exists_bodyMargin? line (rest.drop n) with ⟨inner, hinner, hinner', hmargin⟩ | ⟨hblank, _⟩
    · rw [← hmargin, hline, ← habove]
      exact bodyMargin?_le above (List.mem_of_mem_drop hinner) hinner'
    · rw [hblank l hl] at hink
      cases hink

end Rest

namespace Style

/-- How a style opens sections; plain text has none. -/
def opener : Style → Opener
  | .rest => Rest.opener
  | .google => Google.opener
  | .numpy => Numpy.opener
  | .plain => .never

/-- The section on a value that opens at a line says a type. -/
def TypedAt : Style → List Line → Nat → Prop
  | .rest => Rest.TypedAt
  | .google => Google.TypedAt
  | .numpy => Numpy.TypedAt
  | .plain => fun _ _ => False

/-- The section on a value that opens at a line takes no type away that another one says. -/
def FitsAt : Style → List Line → Nat → Prop
  | .rest => Rest.FitsAt
  | .google => Google.TypedAt
  | .numpy => Numpy.TypedAt
  | .plain => fun _ _ => False

/-- A type is read back from where it is written: it is on one line, and what a style takes for the
start of a description does not look like a part of it. -/
def ReadsType (style : Style) (type : Text) : Prop :=
  IsOneLine type ∧
    match style with
    | .rest => True
    | .google => Google.SaysType (type ++ [':'])
    | .numpy => Numpy.NamesType type
    | .plain => False

variable {style : Style} {text : Text} {d : Document} {kind : SectionKind} {lines : List Line}

theorem typedAt_of_shown {all : List Line} {place j : Nat} (hshown : Shown lines all place)
    (h : style.TypedAt lines j) : style.TypedAt all (place + j) := by
  cases style
  case rest => exact Rest.typedAt_of_shown hshown h
  case google => exact Google.typedAt_of_shown hshown h
  case numpy => exact Numpy.typedAt_of_shown hshown h
  case plain => exact h.elim

theorem fitsAt_of_shown {all : List Line} {place j : Nat} (hshown : Shown lines all place)
    (h : style.FitsAt lines j) : style.FitsAt all (place + j) := by
  cases style
  case rest => exact Rest.fitsAt_of_shown hshown h
  case google => exact Google.typedAt_of_shown hshown h
  case numpy => exact Numpy.typedAt_of_shown hshown h
  case plain => exact h.elim

/-! ## Reading -/

section Reading

variable (hkind : kind = .returns ∨ kind = .yields) (h : style.parse text = .ok d)

include hkind h

theorem exists_span {i : Nat} (hopens : style.opener.at? (normalLines text) i = some kind) :
    ∃ s ∈ d.metadata.sections, s.kind = kind ∧ s.first ≤ i ∧ i < s.last := by
  cases style
  case rest =>
    rw [parse_rest] at h
    exact Rest.exists_span hkind h hopens
  case google =>
    rw [parse_google] at h
    obtain ⟨s, hs, hsame, rfl, hlast⟩ := Google.exists_span h hopens
    exact ⟨s, hs, hsame, Nat.le_refl _, hlast⟩
  case numpy =>
    rw [parse_numpy] at h
    obtain ⟨s, hs, hsame, rfl, hlast⟩ := Numpy.exists_span h hopens
    exact ⟨s, hs, hsame, Nat.le_refl _, hlast⟩
  case plain =>
    obtain ⟨_, _, _, hnone⟩ := Opener.at?_eq_some hopens
    cases hnone

/-- A document has a section on a value if one is opened. -/
theorem isSome_value_iff : (d.value kind).isSome = true ↔
    ∃ i, style.opener.at? (normalLines text) i = some kind := by
  cases style
  case rest =>
    rw [parse_rest] at h
    exact Rest.isSome_value_iff hkind h
  case google =>
    rw [parse_google] at h
    exact Google.isSome_value_iff hkind h
  case numpy =>
    rw [parse_numpy] at h
    exact Numpy.isSome_value_iff hkind h
  case plain =>
    cases h
    refine iff_of_false (by rcases hkind with rfl | rfl <;> exact Bool.false_ne_true)
      fun ⟨_, hopens⟩ => ?_
    obtain ⟨_, _, _, hnone⟩ := Opener.at?_eq_some hopens
    cases hnone

/-- A document has a type for a value if some section says one and no other takes it away. -/
theorem isSome_documentedType
    (htyped : ∃ i, style.opener.at? (normalLines text) i = some kind ∧
      style.TypedAt (normalLines text) i)
    (hfits : ∀ i, style.opener.at? (normalLines text) i = some kind →
      style.FitsAt (normalLines text) i) : (Fix.documentedType d kind).isSome = true := by
  rw [documentedType_eq]
  cases style
  case rest =>
    rw [parse_rest] at h
    exact Rest.isSome_type_of_typedAt hkind h htyped hfits
  case google =>
    rw [parse_google] at h
    exact Google.isSome_type_of_typedAt hkind h (htyped.imp fun _ => And.left) hfits
  case numpy =>
    rw [parse_numpy] at h
    exact Numpy.isSome_type_of_typedAt hkind h (htyped.imp fun _ => And.left) hfits
  case plain => exact htyped.choose_spec.2.elim

/-- What is said about a value is read from clean lines. -/
theorem isClean_value : ∀ doc ∈ d.value kind, doc.IsClean := by
  cases style
  case rest =>
    rw [parse_rest] at h
    exact Rest.isClean_value hkind h
  case google =>
    rw [parse_google] at h
    exact Google.isClean_value hkind h
  case numpy =>
    rw [parse_numpy] at h
    exact Numpy.isClean_value hkind h
  case plain =>
    cases h
    rcases hkind with rfl | rfl <;> exact fun _ hdoc => nomatch hdoc

end Reading

theorem tiled_parse (h : style.parse text = .ok d) : ∃ lo,
    Tiled style.openedAt? (normalLines text) lo (normalLines text).length d.metadata.sections := by
  cases style
  case rest =>
    rw [parse_rest] at h
    exact (Rest.tiled_parse h).1
  case google =>
    rw [parse_google] at h
    exact Google.tiled_parse h
  case numpy =>
    rw [parse_numpy] at h
    exact Numpy.tiled_parse h
  case plain =>
    cases h
    exact ⟨_, tiled_nil (isGap_self _ _)⟩

/-- No line that would complete a title stands at the start of a section or right below one. -/
theorem not_completes_of_span {old : List Line} (hnormal : IsNormal old)
    (h : style.parse (joinLines old) = .ok d) {s : SectionSpan} (hs : s ∈ d.metadata.sections) :
    (∀ line ∈ old[s.first]?, ¬style.opener.completes line) ∧
      ∀ line ∈ old[s.last]?, ¬style.opener.completes line := by
  cases style
  case numpy =>
    rw [parse_numpy] at h
    exact Numpy.not_completes_of_span hnormal h hs
  all_goals exact ⟨fun _ _ => id, fun _ _ => id⟩

/-- A section that says a type is a signature of its style. -/
theorem countSignatures_pos_of_typedAt {i : Nat} (hclean : ∀ line ∈ lines, IsClean line)
    (hopens : style.opener.at? lines i = some kind) (htyped : style.TypedAt lines i) :
    0 < countSignatures style lines := by
  obtain ⟨line, hline, hsignature⟩ : ∃ line, lines[i]? = some line ∧
      isSignature style line lines[i + 1]? = true := by
    cases style
    case rest => exact Rest.isSignature_of_typedAt htyped
    case google => exact Google.isSignature_of_typedAt hopens htyped
    case numpy => exact Numpy.isSignature_of_opened hclean hopens
    case plain => exact htyped.elim
  exact countSignatures_pos hline hsignature

/-! ## Writing -/

section Writing

variable (hkind : kind = .returns ∨ kind = .yields) {doc : ReturnDoc} {type : Text}
  (hdoc : d.value kind = some doc) (htype : doc.type = some type) (hreads : style.ReadsType type)
  (hclean : doc.IsClean) (width : Nat)

include hkind hdoc htype hreads hclean

theorem isSection_sectionLines :
    style.opener.IsSection style.TypedAt style.FitsAt kind (style.sectionLines d kind width) := by
  obtain ⟨hline, hstyle⟩ := hreads
  cases style
  case rest => exact Rest.isSection_sectionLines hkind hdoc htype hline hclean width
  case google => exact Google.isSection_sectionLines hkind hdoc htype hline hstyle hclean width
  case numpy => exact Numpy.isSection_sectionLines hkind hdoc htype hline hstyle hclean width
  case plain => exact hstyle.elim

/-- A section that comes first has no margin below its first line, unless the type is a section title
or the only line and what follows has a margin. -/
theorem bodyMargin?_sectionLines {rest : List Line}
    (htitle : style = .google → Google.headerOfTitle? type = none)
    (hrest : style = .rest → doc.description = none → IsLevel rest) :
    (bodyMargin? (style.sectionLines d kind width ++ rest)).getD 0 = 0 := by
  obtain ⟨hline, hstyle⟩ := hreads
  cases style
  case rest => exact Rest.bodyMargin?_sectionLines hkind hdoc htype hline hclean width (hrest rfl)
  case google =>
    exact Google.bodyMargin?_sectionLines hkind hdoc htype hline hclean (htitle rfl) width rest
  case numpy => exact Numpy.bodyMargin?_sectionLines hkind hdoc htype hclean width rest
  case plain => exact hstyle.elim

end Writing

end Style

end Docstring
