-- Converting twice. What a conversion writes is read again by the next one, which leaves it alone
-- exactly when reading and writing give the same text back; for a document that the style can
-- carry once its lines are broken, they do.
import Docstring.Conversion
import Docstring.Proofs.Google.RoundTrip
import Docstring.Proofs.Google.Wrapped
import Docstring.Proofs.Numpy.RoundTrip
import Docstring.Proofs.Numpy.Wrapped
import Docstring.Proofs.Rest.RoundTrip
import Docstring.Proofs.Rest.Wrapped
import Docstring.Proofs.Settling

namespace Docstring

open Text

/-! ## Styles that carry a document -/

namespace Style

/-- The documents that a style can carry; plain text is not asked for any. -/
def Carries (style : Style) (d : Document) : Prop :=
  match style with
  | .rest => Rest.Tidy d
  | .google => Google.Tidy d
  | .numpy => Numpy.Tidy d
  | .plain => False

instance (style : Style) : DecidablePred style.Carries := fun d =>
  match style with
  | .rest => inferInstanceAs (Decidable (Rest.Tidy d))
  | .google => inferInstanceAs (Decidable (Google.Tidy d))
  | .numpy => inferInstanceAs (Decidable (Numpy.Tidy d))
  | .plain => inferInstanceAs (Decidable False)

/-- How a style reads parameters back: only the NumPy style writes defaults. -/
def rereadParam : Style → Parameter → Parameter
  | .numpy => Parameter.meaning
  | _ => Parameter.reread

/-- How a style reads values back. -/
def rereadValue : Style → ReturnDoc → ReturnDoc
  | .rest => Rest.rereadValue
  | _ => ReturnDoc.reread

/-- A document as a style reads it back. -/
def reread (style : Style) (d : Document) : Document :=
  d.reread style.rereadParam style.rereadValue

theorem rereadsParam (style : Style) : RereadsParam style.rereadParam := by
  cases style with
  | numpy => exact rereadsParam_meaning
  | _ => exact rereadsParam_reread

theorem rereadsValue_rereadValue : RereadsValue Rest.rereadValue where
  type _ := rfl
  blank doc := by
    unfold Rest.rereadValue ReturnDoc.isBlank
    cases doc.type <;> simp
  again doc := by
    unfold Rest.rereadValue
    cases doc.type <;> simp
  fixed doc b h := by
    unfold Rest.rereadValue
    cases doc.type with
    | none => exact congrArg some (b.fixed_getD h)
    | some type => exact h

theorem rereadsValue (style : Style) : RereadsValue style.rereadValue := by
  cases style with
  | rest => exact rereadsValue_rereadValue
  | _ => exact rereadsValue_reread

/-- What a style leaves out of a document does not show when it is written. -/
theorem render_reread {style : Style} (hstyle : style ≠ .plain) (d : Document) (width : Nat) :
    style.render (style.reread d) width = style.render d width := by
  cases style with
  | rest => exact Rest.render_reread d width
  | google => exact Google.render_reread d width
  | numpy => exact Numpy.render_reread d width
  | plain => exact absurd rfl hstyle

theorem parse_render_of_whole {style : Style} {d : Document} {width : Nat}
    (blocks : List (List Line)) (hd : d.Tidy) (hblocks : ∀ block ∈ blocks, IsBlock block)
    (hrender : ∀ w, Layout.Fits (Layout.wholeHead d ++ blocks) w →
      style.render d w = Layout.assemble (Layout.wholeHead d ++ blocks))
    (hparse : ∃ d', style.parse (Layout.assemble (Layout.wholeHead d ++ blocks)) = .ok d' ∧
      d'.content = style.reread d)
    (hwidth : style.Unwrapped d width) :
    normalText (style.render d width) = style.render d width ∧
      ∃ d', style.parse (style.render d width) = .ok d' ∧ d'.content = style.reread d := by
  rw [render_of_unwrapped style hrender hwidth]
  exact ⟨Layout.normalText_wholeHead_append hd hblocks, hparse⟩

/-- Text that a document was written as without wrapping is in normal form, and reading it gives
the document back. -/
theorem parse_render {style : Style} {d : Document} {width : Nat} (hcarries : style.Carries d)
    (hwidth : style.Unwrapped d width) :
    normalText (style.render d width) = style.render d width ∧
      ∃ d', style.parse (style.render d width) = .ok d' ∧ d'.content = style.reread d := by
  cases style with
  | rest =>
    have htidy : Rest.Tidy d := hcarries
    obtain ⟨d', hparse, hcontent⟩ := Rest.parse_text htidy
    exact parse_render_of_whole (Rest.wholeBlocks d) htidy.document
      (fun _ hb => Rest.isBlock_of_mem_wholeBlocks htidy.all_items hb)
      (fun _ => Rest.render_of_fits htidy)
      ⟨d', hparse, hcontent⟩ hwidth
  | google =>
    have htidy : Google.Tidy d := hcarries
    obtain ⟨d', hparse, hcontent⟩ := Google.parse_text htidy
    exact parse_render_of_whole (Google.sectioning.blocks d) htidy.document
      (fun _ hb => htidy.isBlock_of_mem_blocks hb) (fun _ => Google.render_of_fits htidy)
      ⟨d', hparse, hcontent⟩ hwidth
  | numpy =>
    have htidy : Numpy.Tidy d := hcarries
    obtain ⟨d', hparse, hcontent⟩ := Numpy.parse_text htidy
    exact parse_render_of_whole (Numpy.sectioning.blocks d) htidy.document
      (fun _ hb => htidy.isBlock_of_mem_blocks hb) (fun _ => Numpy.render_of_fits htidy)
      ⟨d', hparse, hcontent⟩ hwidth
  | plain => exact hcarries.elim

/-! ## Broken lines -/

/-- How a style breaks texts; plain text has prose only. -/
def wrapping : Style → Nat → Wrapping
  | .rest => Rest.wrapping
  | .google => Google.wrapping
  | .numpy | .plain => Numpy.wrapping

/-- A document with its lines broken where a style breaks them at a width. -/
def broken (style : Style) (width : Nat) (d : Document) : Document :=
  d.broken (style.wrapping width)

theorem render_broken {style : Style} {width wider : Nat} (hstyle : style ≠ .plain) (d : Document)
    (h : width ≤ wider) :
    style.render (style.broken width d) wider = style.render d width := by
  cases style with
  | rest => exact Rest.render_broken h d
  | google => exact Google.render_broken h d
  | numpy => exact Numpy.render_broken h d
  | plain => exact absurd rfl hstyle

/-- No line is wrapped where lines were broken before. -/
theorem unwrapped_broken {style : Style} (hstyle : style ≠ .plain) (d : Document) (width : Nat) :
    style.Unwrapped (style.broken width d) width := by
  intro wider hwider
  rw [render_broken hstyle d hwider, render_broken hstyle d (le_refl _)]

/-- Writing a document at a width and reading it back. -/
def settling (style : Style) (width : Nat) : Settling :=
  (style.wrapping width).settling style.rereadsParam style.rereadsValue

theorem render_settling {style : Style} (hstyle : style ≠ .plain) (d : Document) (width : Nat) :
    style.render ((style.settling width).apply d) width = style.render d width := by
  change style.render (style.reread (style.broken width d)) width = _
  rw [render_reread hstyle, render_broken hstyle d (le_refl _)]

end Style

/-! ## Outcomes -/

namespace Conversion

/-- The outcome and the new text of a conversion. -/
def result (c : Conversion) : Outcome × Option Text := (c.outcome, c.text)

/-- The document that a conversion goes on with. -/
def reading? (style : Style) (options : ConvertOptions) (normal : Text) : Option Document :=
  match style.parse normal with
  | .ok d => some d
  | .error failure => if options.unsafeMode then some failure.document else none

/-- A document with what the signature adds to it. -/
def enriched (symbol : Option SymbolFact) (options : ConvertOptions) (d : Document) : Document :=
  match symbol with
  | some symbol => (enrich d symbol options.types).document
  | none => d

/-- Text in normal form, read in one style and written in another. -/
def rewritten? (style target : Style) (symbol : Option SymbolFact) (options : ConvertOptions)
    (normal : Text) : Option Text :=
  (reading? style options normal).map fun d =>
    target.render (enriched symbol options d) options.maxLineWidth

/-- What becomes of text in normal form, given what is written in its place. -/
def verdict (normal : Text) : Option Text → Outcome × Option Text
  | none => (.parseFailure, none)
  | some written => if written = normal then (.alreadyCanonical, none) else (.applied, some written)

/-- Does a conversion go on with a style that it was told? -/
def TrustsNames (options : ConvertOptions) : Prop :=
  Binary64.less .one options.minConfidence = true → options.unsafeMode = true

variable {style target : Style} {symbol : Option SymbolFact} {options : ConvertOptions}

theorem result_write (htarget : target ≠ .plain) (normal : Text) (d : Document)
    (confidence : Binary64) (warnings : List Diagnostic) :
    (write normal d style target confidence symbol options warnings).result =
      verdict normal (target.render (enriched symbol options d) options.maxLineWidth) := by
  cases symbol with
  | none =>
    by_cases hsame : target.render d options.maxLineWidth = normal <;>
      simp [write, verdict, result, enriched, htarget, hsame]
  | some symbol =>
    by_cases hsame :
        target.render (enrich d symbol options.types).document options.maxLineWidth = normal <;>
      simp [write, verdict, result, enriched, htarget, hsame]

theorem result_readAndWrite (htarget : target ≠ .plain) (normal : Text) (confidence : Binary64)
    (warnings : List Diagnostic) :
    (readAndWrite normal style target confidence symbol options warnings).result =
      verdict normal (rewritten? style target symbol options normal) := by
  unfold readAndWrite rewritten? reading?
  cases style.parse normal with
  | ok d => exact result_write htarget normal d confidence _
  | error failure =>
    cases hunsafe : options.unsafeMode with
    | true => exact result_write htarget normal failure.document confidence _
    | false => rfl

theorem convert_named (text : Text) :
    convert text (.named style) target symbol options =
      if Binary64.less .one options.minConfidence then
        let low := lowConfidence style .one options.minConfidence
        if options.unsafeMode then
          readAndWrite (normalText text) style target .one symbol options [low]
        else { outcome := .lowConfidence, warnings := [low], style := style, confidence := .one }
      else readAndWrite (normalText text) style target .one symbol options [] :=
  rfl

theorem result_convert (htarget : target ≠ .plain) (text : Text) (htrusts : TrustsNames options) :
    (convert text (.named style) target symbol options).result =
      verdict (normalText text) (rewritten? style target symbol options (normalText text)) := by
  rw [convert_named]
  by_cases hless : Binary64.less .one options.minConfidence = true
  · rw [if_pos hless, if_pos (htrusts hless)]
    exact result_readAndWrite htarget _ _ _
  · rw [if_neg hless]
    exact result_readAndWrite htarget _ _ _

/-- A conversion that changes something went on with the style that it was told. -/
theorem trustsNames_of_applied {text : Text}
    (h : (convert text (.named style) target symbol options).outcome = .applied) :
    TrustsNames options := by
  intro hless
  by_contra hunsafe
  rw [convert_named, if_pos hless, if_neg hunsafe] at h
  exact Outcome.noConfusion h

theorem outcome_verdict_eq_alreadyCanonical {normal : Text} {written : Option Text} :
    (verdict normal written).1 = .alreadyCanonical ↔ written = some normal := by
  cases written with
  | none => simp [verdict]
  | some t =>
    by_cases ht : t = normal
    · simp [verdict, ht]
    · simp [verdict, ht]

theorem eq_some_of_verdict_applied {normal n : Text} {written : Option Text}
    (h : (verdict normal written).2 = some n) : written = some n := by
  cases written with
  | none => simp [verdict] at h
  | some t =>
    by_cases ht : t = normal
    · simp [verdict, ht] at h
    · simpa [verdict, ht] using h

/-! ## Converting twice -/

/-- Reading what was written for a document, and writing it again, gives the same text. -/
theorem rewritten?_render {d : Document} (htarget : target ≠ .plain)
    (hcarries : target.Carries
      (target.broken options.maxLineWidth (enriched symbol options d))) :
    let written := target.render (enriched symbol options d) options.maxLineWidth
    normalText written = written ∧
      rewritten? target target symbol options written = some written := by
  have hwhole := Style.render_broken htarget (enriched symbol options d)
    (le_refl options.maxLineWidth)
  obtain ⟨hnormal, e, hparse, hcontent⟩ :=
    Style.parse_render hcarries (Style.unwrapped_broken htarget _ _)
  rw [hwhole] at hnormal hparse
  let settling := target.settling options.maxLineWidth
  have hagain : settling.apply (enriched symbol options e) =
      settling.apply (enriched symbol options d) := by
    cases symbol with
    | none =>
      have hsame : settling.apply e.content = settling.apply (settling.apply d) :=
        congrArg settling.apply hcontent
      rw [settling.content, settling.again] at hsame
      exact hsame
    | some symbol => exact settling.apply_enrich hcontent
  refine ⟨hnormal, ?_⟩
  simp only [rewritten?, reading?, hparse, Option.map_some]
  rw [← Style.render_settling htarget (enriched symbol options e), hagain,
    Style.render_settling htarget]

/-- Converting what a conversion wrote leaves it alone exactly when reading it and writing it
again gives the same text. It does so if the text was written for a document that the style can
carry once its lines are broken where the style wraps them. -/
theorem converting_again_changes_nothing {text n : Text} {source target : Style}
    {symbol : Option SymbolFact} {options : ConvertOptions} (htarget : target ≠ .plain)
    (happlied : (convert text (.named source) target symbol options).outcome = .applied)
    (htext : (convert text (.named source) target symbol options).text = some n) :
    (∃ d, reading? source options (normalText text) = some d ∧
      n = target.render (enriched symbol options d) options.maxLineWidth) ∧
    ((convert n (.named target) target symbol options).outcome = .alreadyCanonical ↔
      rewritten? target target symbol options (normalText n) = some (normalText n)) ∧
    ∀ d, n = target.render (enriched symbol options d) options.maxLineWidth →
      target.Carries (target.broken options.maxLineWidth (enriched symbol options d)) →
      (convert n (.named target) target symbol options).outcome = .alreadyCanonical := by
  have htrusts := trustsNames_of_applied happlied
  have hfirst : rewritten? source target symbol options (normalText text) = some n := by
    apply eq_some_of_verdict_applied
    rw [← result_convert htarget text htrusts]
    exact htext
  have hexact : (convert n (.named target) target symbol options).outcome = .alreadyCanonical ↔
      rewritten? target target symbol options (normalText n) = some (normalText n) := by
    rw [← outcome_verdict_eq_alreadyCanonical, ← result_convert htarget n htrusts]
    rfl
  refine ⟨?_, hexact, ?_⟩
  · obtain ⟨d, hread, hrender⟩ := Option.map_eq_some_iff.mp hfirst
    exact ⟨d, hread, hrender.symm⟩
  · intro d hn hcarries
    obtain ⟨hnormal, hagain⟩ := rewritten?_render htarget hcarries
    rw [hexact, hn, hnormal]
    exact hagain

/-- A signature adds a parameter and a narrow width breaks a line, once. -/
theorem a_fitted_docstring_is_converted_once :
    let text := "Fit.\n\n:param xs: Points of the plane, sorted.".toList
    let n := "Fit.\n\nArgs:\n    step (int):\n    xs: Points of the plane,\n        sorted.".toList
    let symbol : SymbolFact :=
      { name := "fit".toList, qualifiedName := "fit".toList, kind := .function
        parameters := [{ name := "step".toList, hint := some "int".toList, kind := .keywordOnly },
          { name := "xs".toList }] }
    let options : ConvertOptions := { maxLineWidth := 30 }
    let d : Document :=
      { summary := "Fit.".toList
        parameters := [{ name := "xs".toList
                         description := some "Points of the plane, sorted.".toList }] }
    (convert text (.named .rest) .google symbol options).outcome = .applied ∧
      (convert text (.named .rest) .google symbol options).text = some n ∧
      Style.google.Carries (Style.google.broken 30 (enriched symbol options d)) ∧
      (convert n (.named .google) .google symbol options).outcome = .alreadyCanonical := by
  intro text n symbol options d
  have happlied : (convert text (.named .rest) .google symbol options).outcome = .applied := by
    decide +kernel
  have htext : (convert text (.named .rest) .google symbol options).text = some n := by
    decide +kernel
  have hcarries : Style.google.Carries (Style.google.broken 30 (enriched symbol options d)) := by
    decide +kernel
  have hn : n = Style.google.render (enriched symbol options d) 30 := by decide +kernel
  have hagain := converting_again_changes_nothing (by decide) happlied htext
  exact ⟨happlied, htext, hcarries, hagain.2.2 d hn hcarries⟩

/-- Prose that looks like a header of the target style is written as it stands, and read as a
header the next time; and a field list without a summary loses the indentation of its
descriptions, so that the text that was written does not even parse. -/
theorem converting_again_can_change_more :
    let text := "S.\n\nArgs:\n\n:param x: v".toList
    let n := "S.\n\nArgs:\n\nArgs:\n    x: v".toList
    let text' := "Args:\n    x: foo\n        bar".toList
    let n' := ":param x: foo\n    bar".toList
    ((convert text (.named .rest) .google none {}).result = (.applied, some n) ∧
      (convert n (.named .google) .google none {}).result =
        (.applied, some "S.\n\nArgs:\n    x: v".toList)) ∧
    (convert text' (.named .google) .rest none {}).result = (.applied, some n') ∧
      (convert n' (.named .rest) .rest none {}).result = (.parseFailure, none) := by
  decide +kernel

end Conversion

end Docstring
