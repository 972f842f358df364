-- Conversions one after the other. A document that every style can carry is written in the end as
-- if it had been written in the last style at once, whatever styles it went through before.
import Docstring.Proofs.Conversion

namespace Docstring

open Text

/-! ## Documents that every style reads back alike -/

/-- A document of which no style loses anything that another one keeps: it has no defaults, and no
value has a type with an empty description. -/
@[mk_iff]
structure Portable (d : Document) : Prop where
  rest : Rest.Tidy d
  google : Google.Tidy d
  numpy : Numpy.Tidy d
  defaults : ∀ p ∈ d.parameters, p.default = none
  values : ∀ doc ∈ d.values, doc.type.isSome = true → doc.description ≠ some []

instance : DecidablePred Portable := fun d => decidable_of_iff _ (portable_iff d).symm

theorem Portable.carries {d : Document} (h : Portable d) {style : Style}
    (hstyle : style ≠ .plain) : style.Carries d := by
  cases style with
  | rest => exact h.rest
  | google => exact h.google
  | numpy => exact h.numpy
  | plain => exact absurd rfl hstyle

theorem Rest.rereadValue_eq {doc : ReturnDoc}
    (h : doc.type.isSome = true → doc.description ≠ some []) :
    rereadValue doc = doc.reread := by
  unfold rereadValue ReturnDoc.reread
  cases htype : doc.type with
  | none => rfl
  | some type =>
    cases hd : doc.description with
    | none => rfl
    | some t =>
      have hne : t ≠ [] := fun hnil => h (by simp [htype]) (by rw [hd, hnil])
      simp [unlessEmpty_of_ne hne]

namespace Style

/-- Every style reads such a document back as the others do. -/
theorem reread_of_portable {style : Style} {d : Document} (h : Portable d) :
    style.reread d = d.reread Parameter.reread ReturnDoc.reread := by
  have hparam : ∀ p ∈ d.parameters, style.rereadParam p = p.reread := by
    intro p hp
    cases style with
    | numpy =>
      have hdefault : p.meaning.default = none := h.defaults p hp
      simp [rereadParam, Parameter.reread, ← hdefault]
    | _ => rfl
  have hvalue : ∀ doc ∈ d.values, style.rereadValue doc = doc.reread := by
    intro doc hdoc
    cases style with
    | rest => exact Rest.rereadValue_eq (h.values doc hdoc)
    | _ => rfl
  have hreturns : d.returns.map style.rereadValue = d.returns.map ReturnDoc.reread :=
    Option.map_congr fun doc hdoc => hvalue doc (by simp [Document.values, hdoc])
  have hyields : d.yields.map style.rereadValue = d.yields.map ReturnDoc.reread :=
    Option.map_congr fun doc hdoc => hvalue doc (by simp [Document.values, hdoc])
  rw [reread, Document.reread, List.map_congr_left hparam, hreturns, hyields]
  rfl

/-- No style writes what was noticed while a document was read. -/
theorem render_congr {style : Style} {d e : Document} (h : e.content = d.content) (width : Nat) :
    style.render e width = style.render d width := by
  have hcontent : ∀ d : Document, style.render d.content width = style.render d width := by
    intro d
    cases style <;> rfl
  rw [← hcontent e, h, hcontent d]

/-! ## Chains of conversions -/

/-- Reads a text in a style and writes it in the next one, and so on to the end of the chain. -/
def relay (width : Nat) (style : Style) (text : Text) : List Style → Except ParseFailure Text
  | [] => .ok text
  | next :: others =>
    match style.parse text with
    | .ok d => relay width next (next.render d width) others
    | .error failure => .error failure

variable {d : Document} {width : Nat}

/-- What one style wrote, another one writes as if it had been given the document itself. -/
theorem render_of_parse {style next : Style} (hd : Portable d) (hstyle : style ≠ .plain)
    (hnext : next ≠ .plain) (hwidth : style.Unwrapped d width) :
    ∃ e, style.parse (style.render d width) = .ok e ∧
      next.render e width = next.render d width := by
  obtain ⟨_, e, hparse, hcontent⟩ := parse_render (hd.carries hstyle) hwidth
  refine ⟨e, hparse, ?_⟩
  have hsame : e.content = (next.reread d).content := by
    rw [hcontent, reread_of_portable hd, reread_of_portable hd]
    rfl
  rw [render_congr hsame, render_reread hnext]

/-- However many conversions a document goes through, and in whatever styles, it ends as the text
that the last style writes for it. -/
theorem relay_ends_with_the_last_rendering (hd : Portable d)
    (hwidth : ∀ style : Style, style ≠ .plain → style.Unwrapped d width) (first : Style)
    (others : List Style) (hchain : Style.plain ∉ first :: others) :
    relay width first (first.render d width) others =
      .ok (((first :: others).getLast (List.cons_ne_nil _ _)).render d width) := by
  induction others generalizing first with
  | nil => rfl
  | cons next others ih =>
    simp only [List.mem_cons, not_or] at hchain
    obtain ⟨hfirst, hnext, hothers⟩ := hchain
    obtain ⟨e, hparse, hwritten⟩ :=
      render_of_parse hd (Ne.symm hfirst) (Ne.symm hnext) (hwidth first (Ne.symm hfirst))
    have hrest := ih next (by simp [hnext, hothers])
    rw [relay, hparse]
    simp only [hwritten, hrest, List.getLast_cons_cons]

theorem the_specimen_goes_through_every_style :
    let d := Document.specimen.withoutDefaults
    Portable d ∧ (∀ style : Style, style ≠ .plain → style.Unwrapped d 88) ∧
      relay 88 .rest (Style.rest.render d 88) [.numpy, .google, .google, .rest, .numpy] =
        .ok (Style.numpy.render d 88) := by
  intro d
  have hd : Portable d := by decide +kernel
  have hwidth : ∀ style : Style, style ≠ .plain → style.Unwrapped d 88 := by
    intro style hstyle
    cases style with
    | rest =>
      have hfits : Layout.Fits (Rest.whole d) 88 := by decide +kernel
      exact unwrapped_of_fits .rest (fun _ => Rest.render_of_fits hd.rest) hfits
    | google =>
      have hfits : Layout.Fits (Google.sectioning.whole d) 88 := by decide +kernel
      exact unwrapped_of_fits .google (fun _ => Google.render_of_fits hd.google) hfits
    | numpy =>
      have hfits : Layout.Fits (Numpy.sectioning.whole d) 88 := by decide +kernel
      exact unwrapped_of_fits .numpy (fun _ => Numpy.render_of_fits hd.numpy) hfits
    | plain => exact absurd rfl hstyle
  exact ⟨hd, hwidth, relay_ends_with_the_last_rendering hd hwidth .rest _ (by decide)⟩

end Style

end Docstring
