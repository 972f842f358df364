-- Breaking the lines of a document moves its words to lines of their own and changes nothing else:
-- a block stays a block, and a document in good order stays one and says what it said, up to white
-- space.
import Docstring.Proofs.Document.Wrapped
import Docstring.Proofs.Text.Words
import Mathlib.Data.List.Forall2

namespace Docstring

open Text

/-! ## The pieces of a line -/

namespace Text

/-- Filling lines moves words and keeps them in order. -/
theorem flatMap_words_fill {lead : Text} {width used : Nat} {line : Line} {more : List Text}
    (rest : Nat) (hlead : ∀ c ∈ lead, isSpace c = true)
    (hmore : ∀ word ∈ more, word ≠ [] ∧ ∀ c ∈ word, isSpace c = false) :
    (fill lead rest width line used more).flatMap words = words line ++ more := by
  induction more generalizing width used line with
  | nil => simp [fill]
  | cons word more ih =>
    obtain ⟨hne, hword⟩ := hmore word (by simp)
    have hrest := fun w (hw : w ∈ more) => hmore w (by simp [hw])
    rw [fill]
    split
    · rw [List.flatMap_cons, ih hrest, words_append_of_blank word hlead, words_of_ink hne hword]
      simp
    · rw [ih hrest, words_append_space line word (by decide), words_of_ink hne hword]
      simp

theorem flatMap_words_wrapLine (line : Line) (first rest : Nat) :
    (wrapLine line first rest).flatMap words = words line := by
  unfold wrapLine
  dsimp only
  split
  · simp
  · cases hwords : words line with
    | nil => rfl
    | cons word more =>
      have hlead : ∀ c ∈ indentOf line, isSpace c = true := fun c hc =>
        isSpace_of_isIndent (List.mem_takeWhile_imp hc)
      obtain ⟨hne, hword⟩ := mem_words (show word ∈ words line by simp [hwords])
      have hmore : ∀ w ∈ more, w ≠ [] ∧ ∀ c ∈ w, isSpace c = false := fun w hw =>
        mem_words (t := line) (by simp [hwords, hw])
      dsimp only
      rw [flatMap_words_fill _ hlead hmore, words_append_of_blank word hlead,
        words_of_ink hne hword]
      rfl

/-- A line with ink at both ends is broken into such lines. -/
theorem isOneLine_of_mem_wrapLine {line : Line} (first rest : Nat) (h : IsOneLine line) :
    wrapLine line first rest ≠ [] ∧ ∀ piece ∈ wrapLine line first rest, IsOneLine piece := by
  unfold wrapLine
  dsimp only
  split
  · exact ⟨by simp, fun piece hp => by rwa [List.mem_singleton.mp hp]⟩
  · obtain ⟨word, more, hwords⟩ := List.exists_cons_of_ne_nil (words_ne_nil h.not_blank)
    have hmore : ∀ w ∈ more, w ≠ [] ∧ ∀ c ∈ w, isSpace c = false := fun w hw =>
      mem_words (t := line) (by simp [hwords, hw])
    have hfirst := mem_words (show word ∈ words line by simp [hwords])
    obtain ⟨piece, others, hfill, hpiece, hothers⟩ := filled_fill (max rest minWrapWidth) hmore
      (filled_word [] (max first minWrapWidth) hfirst)
    have hline : ∀ {w : Nat} {p : Line}, Filled [] w p → IsOneLine p := by
      rintro w p ⟨t, ht, rfl, _⟩
      exact ht
    rw [indentOf_of_opensWithInk h.opens, hwords]
    simp only [List.nil_append, List.length_nil, Nat.zero_add] at hfill ⊢
    rw [hfill]
    refine ⟨by simp, fun p hp => ?_⟩
    rcases List.mem_cons.mp hp with rfl | hp
    · exact hline hpiece
    · exact hline (hothers p hp)

/-- What a clean line may be broken into: clean lines, which have ink where it had some. -/
structure Pieces (line : Line) (pieces : List Line) : Prop where
  nonempty : pieces ≠ []
  clean : ∀ piece ∈ pieces, IsClean piece
  ink : isBlank line = false → ∀ piece ∈ pieces, isBlank piece = false
  opens : opensWithInk line = true → ∀ piece ∈ pieces, opensWithInk piece = true

theorem pieces_self {line : Line} (h : IsClean line) : Pieces line [line] := by
  refine ⟨by simp, ?_, ?_, ?_⟩ <;> simp [h]

theorem pieces_wrapLine {line : Line} (first rest : Nat) (h : IsOneLine line) :
    Pieces line (wrapLine line first rest) := by
  obtain ⟨hne, hpieces⟩ := isOneLine_of_mem_wrapLine first rest h
  exact ⟨hne, fun piece hp => (hpieces piece hp).isClean,
    fun _ piece hp => (hpieces piece hp).not_blank, fun _ piece hp => (hpieces piece hp).opens⟩

theorem isClean_of_mem_pieces {lines : List Line} {pieces : List (List Line)} {line : Line}
    (hpieces : List.Forall₂ Pieces lines pieces) (h : line ∈ pieces.flatten) : IsClean line := by
  induction hpieces with
  | nil => simp at h
  | cons hfirst _ ih =>
    rw [List.flatten_cons] at h
    rcases List.mem_append.mp h with h | h
    · exact hfirst.clean line h
    · exact ih h

/-- The last piece of the last line has ink if that line has. -/
theorem endsInk_pieces {lines : List Line} {pieces : List (List Line)}
    (hpieces : List.Forall₂ Pieces lines pieces) (h : EndsInk lines) :
    EndsInk pieces.flatten := by
  induction hpieces with
  | nil => simp [EndsInk]
  | @cons line piece lines pieces hfirst hrest ih =>
    rw [List.flatten_cons]
    cases hrest with
    | nil =>
      intro last hlast
      rw [List.flatten_nil, List.append_nil] at hlast
      exact hfirst.ink (h line (by simp)) last (List.mem_of_mem_getLast? hlast)
    | @cons next nextPiece lines pieces hnext hrest =>
      have hne : (nextPiece :: pieces).flatten ≠ [] := by simp [hnext.nonempty]
      apply endsInk_append piece (ih _) hne
      intro last hlast
      apply h last
      rw [← List.singleton_append, List.getLast?_append_of_ne_nil _ (by simp)]
      exact hlast

/-- A block stays a block when its lines are broken. -/
theorem IsBlock.pieces {lines : List Line} {pieces : List (List Line)} (h : IsBlock lines)
    (hpieces : List.Forall₂ Pieces lines pieces) : IsBlock pieces.flatten := by
  refine ⟨?_, endsInk_pieces hpieces h.ends, fun line hl => isClean_of_mem_pieces hpieces hl⟩
  cases hpieces with
  | nil => exact absurd h.opens (by decide)
  | @cons line piece lines pieces hfirst _ =>
    obtain ⟨first, more, hpiece⟩ := List.exists_cons_of_ne_nil hfirst.nonempty
    have hopen := hfirst.opens (by simpa using h.opens) first (by simp [hpiece])
    simpa [hpiece] using hopen

/-- Lines that end in a clean one with ink end so when they are joined. -/
theorem trimEnd_joinLines {lines : List Line} (hne : lines ≠ []) (hends : EndsInk lines)
    (hclean : ∀ line ∈ lines, IsClean line) :
    joinLines lines ≠ [] ∧ trimEnd (joinLines lines) = joinLines lines := by
  induction lines with
  | nil => exact absurd rfl hne
  | cons line lines ih =>
    cases lines with
    | nil =>
      have hink : isBlank line = false := hends line (by simp)
      refine ⟨?_, (hclean line (by simp)).trimmed⟩
      rintro rfl
      simp [isBlank] at hink
    | cons next lines =>
      obtain ⟨hnonempty, htrim⟩ := ih (by simp)
        (fun last hlast => hends last (by simpa using hlast))
        fun l hl => hclean l (by simp [hl])
      rw [joinLines_cons line (by simp), ← List.singleton_append, ← List.append_assoc]
      exact ⟨by simp, trimEnd_append _ htrim hnonempty⟩

/-- A text block has no white space at its ends. -/
theorem IsTextBlock.trim {t : Text} (h : IsTextBlock t) : Text.trim t = t := by
  have hopen : opensWithInk t = true := by
    obtain ⟨first, rest, hlines, hfirst⟩ := IsBlock.exists_cons h
    rw [← joinLines_splitLines t, hlines]
    cases rest with
    | nil => exact hfirst
    | cons next rest => exact opensWithInk_append _ hfirst
  have hend := (trimEnd_joinLines (splitLines_ne_nil t) h.ends h.clean).2
  rw [joinLines_splitLines] at hend
  exact trim_of_ink hopen hend

theorem IsDescription.trim {t : Text} (h : IsDescription t) : Text.trim t = t := by
  rcases h with rfl | h
  · rfl
  · exact h.trim

end Text

namespace Layout

/-! ## The pieces of a text -/

theorem pieces_wrapProseLine {line : Line} (width : Nat) (h : IsClean line) :
    Pieces line (wrapProseLine width line) := by
  unfold wrapProseLine
  split
  · rename_i hb
    rw [h.blank_iff.mp hb]
    exact pieces_self isClean_nil
  · split
    · exact pieces_self h
    · rename_i hink hplain
      have hopen : opensWithInk line = true := by
        cases line with
        | nil => simp [isBlank] at hink
        | cons c line =>
          simp only [isPreformatted, List.head?_cons, Option.map_some, Option.getD_some,
            Bool.or_eq_true, not_or] at hplain
          simpa [opensWithInk] using hplain.1.1
      exact pieces_wrapLine width width
        ⟨ne_nil_of_opensWithInk hopen, trim_of_ink hopen h.trimmed, h.newline⟩

theorem forall₂_wrapProseLine {lines : List Line} (width : Nat)
    (h : ∀ line ∈ lines, IsClean line) :
    List.Forall₂ Pieces lines (lines.map (wrapProseLine width)) := by
  rw [List.forall₂_map_right_iff, List.forall₂_same]
  exact fun line hl => pieces_wrapProseLine width (h line hl)

theorem isBlock_wrapProse {t : Text} (width : Nat) (h : IsTextBlock t) :
    IsBlock (wrapProse width t) := by
  rw [wrapProse, List.flatMap_def]
  exact IsBlock.pieces h (forall₂_wrapProseLine width h.clean)

theorem isBlock_entryPieces {t : Text} (column : Nat) (lead : Text) (width continuation : Nat)
    (h : IsTextBlock t) : IsBlock (entryPieces column lead t width continuation) := by
  have hlines : IsBlock (firstLine t :: laterLines t) := by
    rw [← splitLines_eq_cons]
    exact h
  have hopen : opensWithInk (firstLine t) = true := by simpa using hlines.opens
  have hclean : IsClean (firstLine t) := hlines.clean _ (by simp)
  have htrim : trim (firstLine t) = firstLine t := trim_of_ink hopen hclean.trimmed
  have hfirst : Pieces (firstLine t)
      (firstPieces (room column lead width) (width - continuation) (trim (firstLine t))) := by
    have hne : firstLine t ≠ [] := ne_nil_of_opensWithInk hopen
    rw [htrim, firstPieces, if_neg (by simpa using hne)]
    exact pieces_wrapLine _ _ ⟨hne, htrim, hclean.newline⟩
  have hlater := forall₂_wrapProseLine (width - continuation)
    fun line hl => hlines.clean line (List.mem_cons_of_mem _ hl)
  have hblock := hlines.pieces (.cons hfirst hlater)
  rwa [List.flatten_cons, ← List.flatMap_def] at hblock

theorem flatMap_words_wrapProseLine (width : Nat) (line : Line) :
    (wrapProseLine width line).flatMap words = words line := by
  unfold wrapProseLine
  split
  · rename_i hb
    rw [words_of_blank hb]
    rfl
  · split
    · simp
    · exact flatMap_words_wrapLine line width width

theorem flatMap_words_lines (width : Nat) (lines : List Line) :
    (lines.flatMap (wrapProseLine width)).flatMap words = lines.flatMap words := by
  rw [List.flatMap_assoc]
  exact List.flatMap_congr fun line _ => flatMap_words_wrapProseLine width line

theorem flatMap_words_glue (above below : List Line) :
    (glue above below).flatMap words = above.flatMap words ++ below.flatMap words := by
  unfold glue
  split
  · rename_i hnil
    rw [List.isEmpty_iff.mp hnil]
    rfl
  · split
    · rename_i hnil
      rw [List.isEmpty_iff.mp hnil, List.flatMap_nil, List.append_nil]
    · rw [List.flatMap_append, List.flatMap_cons]
      rfl

theorem flatMap_words_firstPieces (room rest : Nat) (first : Line) :
    (firstPieces room rest first).flatMap words = words first := by
  unfold firstPieces
  split
  · rename_i hnil
    rw [List.isEmpty_iff.mp hnil]
    rfl
  · exact flatMap_words_wrapLine first room rest

/-! ## Breaking that only moves words -/

/-- A way to break a text that keeps its words and leaves a block of a block. -/
structure Breaking.Fair (b : Breaking) : Prop where
  words : ∀ t, Text.words (b.apply t) = Text.words t
  block : ∀ t, IsTextBlock t → IsTextBlock (b.apply t)

theorem isTextBlock_joinLines {lines : List Line} (h : IsBlock lines) :
    IsTextBlock (joinLines lines) := by
  unfold IsTextBlock
  rw [splitLines_joinLines h.ne_nil fun line hl => (h.clean line hl).newline]
  exact h

theorem Breaking.fair_prose (width : Nat) : (Breaking.prose width).Fair where
  words t := by
    change Text.words (joinLines (wrapProse width t)) = Text.words t
    rw [words_joinLines, wrapProse, flatMap_words_lines, flatMap_words_splitLines]
  block t ht := isTextBlock_joinLines (isBlock_wrapProse width ht)

theorem Breaking.fair_entry (column : Nat) (lead : Text) (width continuation : Nat) :
    (Breaking.entry column lead width continuation).Fair where
  words t := by
    change Text.words (joinLines (entryPieces column lead t width continuation)) = Text.words t
    rw [words_joinLines, entryPieces, List.flatMap_append, flatMap_words_firstPieces,
      flatMap_words_lines, words_trim, ← List.flatMap_cons, ← splitLines_eq_cons,
      flatMap_words_splitLines]
  block t ht := isTextBlock_joinLines (isBlock_entryPieces column lead width continuation ht)

namespace Breaking.Fair

variable {b : Breaking}

theorem description (h : b.Fair) {t : Text} (ht : IsDescription t) : IsDescription (b.apply t) := by
  rcases ht with rfl | ht
  · exact Or.inl b.nil
  · exact Or.inr (h.block t ht)

theorem collapse (h : b.Fair) {t : Text} (ht : IsDescription t) :
    Text.collapse (b.apply t) = Text.collapse t :=
  collapse_congr (h.description ht).trim ht.trim (h.words t)

end Breaking.Fair

/-- Breaking an entry puts nothing on the first line of its description that was not there. -/
theorem mem_firstLine_of_mem_entry {column width continuation : Nat} {lead t : Text} {c : Char}
    (hc : isSpace c = false)
    (h : c ∈ firstLine ((Breaking.entry column lead width continuation).apply t)) :
    c ∈ firstLine t := by
  obtain ⟨piece, others, hpieces, _, hn, _⟩ := firstPieces_keeps (room column lead width)
    (width - continuation) (trim_trim (firstLine t)) (newline_notMem_trim_firstLine t)
  have hfirst : firstLine ((Breaking.entry column lead width continuation).apply t) = piece := by
    change firstLine (joinLines (entryPieces column lead t width continuation)) = piece
    rw [entryPieces, hpieces, List.cons_append]
    cases others ++ (laterLines t).flatMap (wrapProseLine (width - continuation)) with
    | nil => rw [joinLines_singleton, firstLine, splitLines_of_notMem hn, List.headD_cons]
    | cons next rest =>
      rw [joinLines_cons piece (by simp), firstLine, splitLines_append_newline hn, List.headD_cons]
  obtain ⟨word, hword, hmem⟩ := exists_word_of_mem (hfirst ▸ h) hc
  have hwords := flatMap_words_firstPieces (room column lead width) (width - continuation)
    (trim (firstLine t))
  rw [hpieces, words_trim] at hwords
  refine mem_of_mem_word ?_ hmem
  rw [← hwords]
  exact List.mem_flatMap.mpr ⟨piece, by simp, hword⟩

end Layout

/-! ## Documents -/

/-- Ways to break the texts of a document that only move words. -/
structure Wrapping.Fair (k : Wrapping) : Prop where
  head : ∃ width, k.head = .prose width
  param : ∀ p, (k.param p).Fair
  returns : ∀ type, (k.returns type).Fair
  yields : ∀ type, (k.yields type).Fair
  raise : ∀ exception, (k.raise exception).Fair
  free : k.free.Fair

theorem Wrapping.Fair.fair_head {k : Wrapping} (h : k.Fair) : k.head.Fair := by
  obtain ⟨width, hhead⟩ := h.head
  rw [hhead]
  exact Layout.Breaking.fair_prose width

namespace Document

/-- The words before the first section. -/
def headWords (d : Document) : List Text := words d.summary ++ words (d.extended.getD [])

theorem headWords_broken {k : Wrapping} (hk : k.Fair) (d : Document) :
    (d.broken k).headWords = d.headWords := by
  have hextended := k.head.getD_map d.extended
  simp only [headWords, broken, hextended, hk.fair_head.words]

/-- The words of a line before the first section are among those of the head. -/
theorem mem_headWords {d : Document} {line : Line} (h : line ∈ d.headLines) {word : Text}
    (hword : word ∈ words line) : word ∈ d.headWords := by
  have hmem : ∀ {t : Text}, line ∈ splitLines t → word ∈ words t := by
    intro t hl
    rw [← flatMap_words_splitLines]
    exact List.mem_flatMap.mpr ⟨line, hl, hword⟩
  unfold headLines at h
  rcases List.mem_append.mp h with h | h
  · exact List.mem_append_left _ (hmem h)
  · obtain ⟨t, ht, hl⟩ := List.mem_flatMap.mp h
    have hextended : d.extended = some t := by simpa using ht
    apply List.mem_append_right
    rw [hextended]
    exact hmem hl

theorem exists_of_mem_values {k : Wrapping} {d : Document} {doc : ReturnDoc}
    (h : doc ∈ (d.broken k).values) :
    ∃ old ∈ d.values, doc = old.broken k.returns ∨ doc = old.broken k.yields := by
  simp only [values, List.mem_append, Option.mem_toList] at h
  rcases h with h | h
  · obtain ⟨old, hold, rfl⟩ := Option.map_eq_some_iff.mp h
    exact ⟨old, by simp [values, hold], Or.inl rfl⟩
  · obtain ⟨old, hold, rfl⟩ := Option.map_eq_some_iff.mp h
    exact ⟨old, by simp [values, hold], Or.inr rfl⟩

/-- The descriptions of a document with broken lines are those of the document, each broken in a
way that only moves words. -/
theorem exists_of_mem_descriptions {k : Wrapping} (hk : k.Fair) {d : Document} {t : Text}
    (h : t ∈ (d.broken k).descriptions) :
    ∃ b : Layout.Breaking, b.Fair ∧ ∃ old ∈ d.descriptions, t = b.apply old := by
  simp only [descriptions, List.mem_append, List.mem_map]
  simp only [descriptions, List.mem_append, List.mem_map] at h
  rcases h with (⟨q, hq, rfl⟩ | ⟨doc, hdoc, rfl⟩) | ⟨r, hr, rfl⟩
  · obtain ⟨p, hp, rfl⟩ := List.mem_map.mp hq
    exact ⟨k.param p, hk.param p, p.description.getD [], Or.inl (Or.inl ⟨p, hp, rfl⟩),
      (k.param p).getD_map _⟩
  · obtain ⟨old, hold, rfl | rfl⟩ := exists_of_mem_values hdoc
    · exact ⟨k.returns old.type, hk.returns _, old.description.getD [],
        Or.inl (Or.inr ⟨old, hold, rfl⟩), (k.returns old.type).getD_map _⟩
    · exact ⟨k.yields old.type, hk.yields _, old.description.getD [],
        Or.inl (Or.inr ⟨old, hold, rfl⟩), (k.yields old.type).getD_map _⟩
  · obtain ⟨old, hold, rfl⟩ := List.mem_map.mp hr
    exact ⟨k.raise old.exception, hk.raise _, old.description.getD [],
      Or.inr ⟨old, hold, rfl⟩, (k.raise old.exception).getD_map _⟩

/-- A document in good order stays in good order when its lines are broken. -/
theorem Tidy.broken {k : Wrapping} {d : Document} (hk : k.Fair) (h : d.Tidy) :
    (d.broken k).Tidy where
  summary := by
    obtain ⟨width, hhead⟩ := hk.head
    intro piece hp
    have hsummary : splitLines (d.broken k).summary = Layout.wrapProse width d.summary := by
      change splitLines (k.head.apply d.summary) = _
      rw [hhead]
      exact splitLines_joinLines (Layout.wrapProse_ne_nil width d.summary)
        fun p hp => (Layout.keepsProse_of_mem_wrapProse hp).newline
    rw [hsummary] at hp
    obtain ⟨line, hline, hpiece⟩ := List.mem_flatMap.mp hp
    have hpieces :=
      Layout.pieces_wrapProseLine width (h.summary_block.clean line hline)
    have hopen := hpieces.opens (h.summary line hline).1 piece hpiece
    exact ⟨hopen, closesWithInk_of_trimEnd (hpieces.clean piece hpiece).trimmed
      (ne_nil_of_opensWithInk hopen)⟩
  extended t ht := by
    obtain ⟨old, hold, rfl⟩ := Option.map_eq_some_iff.mp ht
    exact hk.fair_head.block old (h.extended old hold)
  distinct := by
    have hnames : (d.broken k).parameters.map Parameter.name = d.parameters.map Parameter.name := by
      simp [Document.broken, Parameter.broken, Function.comp_def]
    rw [hnames]
    exact h.distinct
  names p hp := by
    obtain ⟨old, hold, rfl⟩ := List.mem_map.mp hp
    exact h.names old hold
  descriptions t ht := by
    obtain ⟨b, hb, old, hold, rfl⟩ := exists_of_mem_descriptions hk ht
    exact hb.description (h.descriptions old hold)
  exceptions r hr := by
    obtain ⟨old, hold, rfl⟩ := List.mem_map.mp hr
    exact h.exceptions old hold
  examples := h.examples
  freeTexts kind hkind t ht := by
    rw [freeTexts_broken] at ht
    obtain ⟨old, hold, rfl⟩ := List.mem_map.mp ht
    exact hk.free.block old (h.freeTexts kind hkind old hold)

/-! ## What is left when white space does not count -/

/-- A document with every run of white space in its prose made one space. -/
def collapsed (d : Document) : Document :=
  { d with
    summary := collapse d.summary
    extended := d.extended.map collapse
    parameters := d.parameters.map fun p => { p with description := p.description.map collapse }
    returns := d.returns.map fun doc => { doc with description := doc.description.map collapse }
    yields := d.yields.map fun doc => { doc with description := doc.description.map collapse }
    raises := d.raises.map fun r => { r with description := r.description.map collapse }
    notes := d.notes.map collapse
    warnings := d.warnings.map collapse
    seeAlso := d.seeAlso.map collapse
    references := d.references.map collapse }

theorem collapsed_meaning_withoutDefaults (d : Document) :
    d.withoutDefaults.meaning.collapsed = d.meaning.collapsed.withoutDefaults := by
  simp only [withoutDefaults, meaning, collapsed, List.map_map]
  rfl

/-- A document with broken lines says what the document says, up to white space. -/
theorem collapsed_meaning_broken {k : Wrapping} {d : Document} (hk : k.Fair) (h : d.Tidy) :
    (d.broken k).meaning.collapsed = d.meaning.collapsed := by
  have hdescription : ∀ {b : Layout.Breaking} {t : Option Text}, b.Fair →
      IsDescription (t.getD []) → collapse ((t.map b.apply).getD []) = collapse (t.getD []) := by
    intro b t hb ht
    rw [b.getD_map, hb.collapse ht]
  have hsummary : collapse (k.head.apply d.summary) = collapse d.summary :=
    hk.fair_head.collapse (Or.inr h.summary_block)
  have hextended : (d.extended.map k.head.apply).map collapse = d.extended.map collapse := by
    rw [Option.map_map]
    exact Option.map_congr fun t ht => hk.fair_head.collapse (Or.inr (h.extended t ht))
  have hvalue : ∀ {f : Option Text → Layout.Breaking} {doc : Option ReturnDoc},
      (∀ type, (f type).Fair) → (∀ x ∈ doc, x ∈ d.values) →
      ((doc.map (ReturnDoc.broken f)).map ReturnDoc.meaning).map (fun x : ReturnDoc =>
          { x with description := x.description.map collapse }) =
        (doc.map ReturnDoc.meaning).map fun x : ReturnDoc =>
          { x with description := x.description.map collapse } := by
    intro f doc hf hdoc
    cases doc with
    | none => rfl
    | some x =>
      have hx := hdescription (hf x.type) (h.value_description (hdoc x rfl))
      simp only [Option.map_some, ReturnDoc.broken, ReturnDoc.meaning, hx]
  have hfree : ∀ kind ∈ SectionKind.order,
      (Layout.freeTexts (d.broken k) kind).map collapse =
        (Layout.freeTexts d kind).map collapse := by
    intro kind hkind
    rw [freeTexts_broken, List.map_map]
    exact List.map_congr_left fun t ht => hk.free.collapse (Or.inr (h.freeTexts kind hkind t ht))
  simp only [collapsed, meaning, Document.mk.injEq]
  refine ⟨hsummary, hextended, ?_, ?_, ?_, ?_, rfl, hfree _ (by decide), hfree _ (by decide),
    hfree _ (by decide), hfree _ (by decide), trivial⟩
  · simp only [Document.broken, List.map_map]
    apply List.map_congr_left
    intro p hp
    have hp := hdescription (hk.param p) (h.param_description hp)
    simp only [Function.comp_apply, Parameter.broken, Parameter.meaning, Option.map_some, hp]
    rfl
  · exact hvalue hk.returns fun x hx => by simp [values, Option.mem_def.mp hx]
  · exact hvalue hk.yields fun x hx => by simp [values, Option.mem_def.mp hx]
  · simp only [Document.broken, List.map_map]
    apply List.map_congr_left
    intro r hr
    have hr := hdescription (hk.raise r.exception) (h.raise_description hr)
    simp only [Function.comp_apply, RaiseEntry.broken, RaiseEntry.meaning, Option.map_some, hr]

end Document

end Docstring
