-- A field list that is read without a warning keeps the prose of its fields, unless a later field
-- takes the place of an earlier one. The sections that are recorded are runs of fields of one kind.
import Docstring.Proofs.NormalForm
import Docstring.Proofs.Rest.Place
import Docstring.Proofs.Rest.Walk

namespace Docstring.Rest

open Text

/-! ## Runs of fields -/

/-- The sections that are recorded while fields are added: each one starts at line `lo` or below,
ends with a field, and holds fields of its kind only. The open run holds all fields below its
start. -/
structure Recorded (lo : Nat) (done : List Field) (p : Progress) : Prop where
  closed : ∀ s ∈ p.document.metadata.sections, lo ≤ s.first ∧ (∃ f ∈ done, s.last ≤ f.last) ∧
    ∀ f ∈ done, s.first ≤ f.first → f.first < s.last → f.marker.sectionKind? = some s.kind
  opened : ∀ s ∈ p.group, lo ≤ s.first ∧ (∃ f ∈ done, s.last ≤ f.last) ∧
    ∀ f ∈ done, s.first ≤ f.first → f.marker.sectionKind? = some s.kind

theorem Recorded.finish {lo : Nat} {done : List Field} {p : Progress} (h : Recorded lo done p) :
    ∀ s ∈ p.finish.metadata.sections, lo ≤ s.first ∧ (∃ f ∈ done, s.last ≤ f.last) ∧
      ∀ f ∈ done, s.first ≤ f.first → f.first < s.last → f.marker.sectionKind? = some s.kind := by
  intro s hs
  unfold Progress.finish at hs
  split at hs
  · rename_i group hgroup
    rcases List.mem_append.mp hs with hs | hs
    · exact h.closed s hs
    · rw [List.mem_singleton.mp hs]
      obtain ⟨hlo, hlast, hkind⟩ := h.opened group hgroup
      exact ⟨hlo, hlast, fun f hf hfirst _ => hkind f hf hfirst⟩
  · exact h.closed s hs

theorem exists_sectionKind? {d d' : Document} {f : Field} (h : addField d f = .ok d') :
    ∃ kind, f.marker.sectionKind? = some kind := by
  cases hmarker : f.marker
  case unknownField | unknownDirective => simp [addField, hmarker] at h
  all_goals exact ⟨_, rfl⟩

/-- A field joins the open run, or it closes that one and opens its own. -/
theorem add_cases {p p' : Progress} {f : Field} (h : p.add f = .ok p') :
    ∃ d, addField d f = .ok p'.document ∧
      ((d = p.document ∧ ∃ group ∈ p.group, f.marker.sectionKind? = some group.kind ∧
          p'.group = some { group with last := f.last }) ∨
        d = p.finish ∧ ∃ kind, f.marker.sectionKind? = some kind ∧
          p'.group = some ⟨kind, f.first, f.last⟩) := by
  unfold Progress.add at h
  simp only at h
  split at h
  · rename_i d hadd
    cases h
    refine ⟨_, hadd, ?_⟩
    obtain ⟨kind, hkind⟩ := exists_sectionKind? hadd
    simp only [Progress.enter, hkind]
    split
    · rename_i hsame
      obtain ⟨group, hgroup, hsame⟩ : ∃ group ∈ p.group, group.kind = kind := by
        cases hgroup : p.group with
        | none => simp [hgroup] at hsame
        | some group => exact ⟨group, rfl, by simpa [hgroup] using hsame⟩
      exact .inl ⟨rfl, group, hgroup, by rw [hsame], by rw [Option.mem_def.mp hgroup]; rfl⟩
    · exact .inr ⟨rfl, kind, rfl, rfl⟩
  · cases h

theorem add_error {p : Progress} {f : Field} {failure : ParseFailure}
    (h : p.add f = .error failure) :
    addField (p.enter f).document f = .error failure.error ∧
      failure.document = (p.enter f).finish := by
  unfold Progress.add at h
  dsimp only at h
  split at h
  · cases h
  · rename_i error herror
    cases h
    exact ⟨herror, rfl⟩

/-- A field below all others keeps the record. -/
theorem Recorded.add {lo : Nat} {done : List Field} {p p' : Progress} {f : Field}
    (hp : Recorded lo done p) (h : p.add f = .ok p') (hlo : lo ≤ f.first)
    (hdone : ∀ g ∈ done, g.last ≤ f.first) : Recorded lo (done ++ [f]) p' := by
  have hclosed : ∀ s : SectionSpan, (lo ≤ s.first ∧ (∃ g ∈ done, s.last ≤ g.last) ∧
      ∀ g ∈ done, s.first ≤ g.first → g.first < s.last → g.marker.sectionKind? = some s.kind) →
      lo ≤ s.first ∧ (∃ g ∈ done ++ [f], s.last ≤ g.last) ∧ ∀ g ∈ done ++ [f],
        s.first ≤ g.first → g.first < s.last → g.marker.sectionKind? = some s.kind := by
    rintro s ⟨hs, ⟨g, hg, hlast⟩, hkind⟩
    refine ⟨hs, ⟨g, by simp [hg], hlast⟩, ?_⟩
    intro x hx hfirst hbefore
    rcases List.mem_append.mp hx with hx | hx
    · exact hkind x hx hfirst hbefore
    · rw [List.mem_singleton.mp hx] at hbefore
      have hle := hdone g hg
      omega
  obtain ⟨d, hadd, ⟨rfl, group, hgroup, hkind, hgroup'⟩ | ⟨rfl, kind, hkind, hgroup'⟩⟩ :=
    add_cases h
  · refine ⟨?_, ?_⟩
    · rw [(keeps_addField hadd).2]
      exact fun s hs => hclosed s (hp.closed s hs)
    · rintro s hs
      obtain rfl := Option.some.inj (hgroup'.symm.trans hs)
      obtain ⟨hs, _, hall⟩ := hp.opened group hgroup
      refine ⟨hs, ⟨f, by simp, Nat.le_refl _⟩, ?_⟩
      intro x hx hfirst
      rcases List.mem_append.mp hx with hx | hx
      · exact hall x hx hfirst
      · rw [List.mem_singleton.mp hx, hkind]
  · refine ⟨?_, ?_⟩
    · rw [(keeps_addField hadd).2]
      exact fun s hs => hclosed s (hp.finish s hs)
    · rintro s hs
      obtain rfl := Option.some.inj (hgroup'.symm.trans hs)
      refine ⟨hlo, ⟨f, by simp, Nat.le_refl _⟩, ?_⟩
      intro x hx hfirst
      rcases List.mem_append.mp hx with hx | hx
      · have hle := hdone x hx
        have hlt := x.first_lt_last
        change f.first ≤ x.first at hfirst
        omega
      · rw [List.mem_singleton.mp hx, hkind]

theorem Recorded.foldlM {lo : Nat} {done fields : List Field} {p p' : Progress}
    (hp : Recorded lo done p) (h : fields.foldlM Progress.add p = .ok p')
    (hlo : ∀ f ∈ fields, lo ≤ f.first)
    (hsorted : (done ++ fields).Pairwise fun f g => f.last ≤ g.first) :
    Recorded lo (done ++ fields) p' := by
  induction fields generalizing done p with
  | nil =>
    cases h
    simpa using hp
  | cons f fields ih =>
    rw [← List.nil_append (f :: fields)] at h
    obtain ⟨_, after, hnone, hadd, hrest⟩ := exists_of_foldlM h
    cases hnone
    have hdone : ∀ g ∈ done, g.last ≤ f.first := fun g hg =>
      (List.pairwise_append.mp hsorted).2.2 g hg f (by simp)
    rw [List.append_cons] at hsorted ⊢
    exact ih (hp.add hadd (hlo f (by simp)) hdone) hrest (fun g hg => hlo g (by simp [hg])) hsorted

/-! ## Lines of fields -/

/-- Does a line of a section name what the section documents? Marker lines do, and below a marker
for exceptions that names none and has no text, the first line does, which names the exception. An
example may hold directives. -/
def IsHead (lines : List Line) (span : SectionSpan) (i : Nat) : Prop :=
  (∃ line ∈ lines[i]?,
      if span.kind = .examples then (field? line).isSome = true
      else (classify line).isSome = true) ∨
    ∃ j < i, ∃ found ∈ lines[j]?.bind classify, found.1 = .raises none ∧ isBlank found.2 = true ∧
      ((lines.take i).drop (j + 1)).all isBlank = true

/-- A later field writes the same place as the field of a line. -/
def IsOverwritten (lines : List Line) (i : Nat) : Prop :=
  ∃ j < i, ∃ found ∈ lines[j]?.bind classify,
    (((lines.take i).drop (j + 1)).all fun l => (classify l).isNone) = true ∧
      ∃ k < lines.length, i < k ∧ ∃ later ∈ lines[k]?.bind classify,
        ∃ place ∈ found.1.written, place ∈ later.1.written

theorem keeps_finish (p : Progress) : p.document.Keeps [] p.finish := by
  unfold Progress.finish
  split
  · exact p.document.keeps_recordSection _
  · exact .refl _

theorem keeps_add {p p' : Progress} {f : Field} (h : p.add f = .ok p') :
    p.document.Keeps f.marker.written p'.document := by
  obtain ⟨d, hadd, ⟨rfl, _⟩ | ⟨rfl, _⟩⟩ := add_cases h
  · exact (keeps_addField hadd).1
  · exact (keeps_finish p).trans (keeps_addField hadd).1

/-- No directive opens examples. -/
theorem field?_of_examples {line : Line} {marker : Marker} {text : Text}
    (h : classify line = some (marker, text)) (hkind : marker.sectionKind? = some .examples) :
    (field? line).isSome = true := by
  unfold classify at h
  split at h
  · rename_i hfield
    simp [hfield]
  · obtain ⟨⟨name, body⟩, _, hname⟩ := Option.map_eq_some_iff.mp h
    cases hname
    simp only [classifyDirective] at hkind
    split_ifs at hkind <;> simp [Marker.sectionKind?] at hkind

/-- The marker line of a field in a section is a head. -/
theorem Field.At.isHead {lines : List Line} {span : SectionSpan} {f : Field} (h : f.At lines)
    (hkind : f.marker.sectionKind? = some span.kind) : IsHead lines span f.first := by
  obtain ⟨line, hline, hmarker⟩ := Option.bind_eq_some_iff.mp h.marker
  refine Or.inl ⟨line, hline, ?_⟩
  split
  · rename_i hexamples
    exact field?_of_examples hmarker (hexamples ▸ hkind)
  · simp [hmarker]

/-- Two fields that write the same place: the lines of the first one are overwritten. -/
theorem Field.At.isOverwritten {lines : List Line} {f later : Field} {i : Nat} {place : Place}
    (h : f.At lines) (hlater : later.At lines) (hfirst : f.first < i) (hlast : i < f.last)
    (hle : f.last ≤ later.first) (hplace : place ∈ f.marker.written)
    (hplace' : place ∈ later.marker.written) : IsOverwritten lines i := by
  have hexamples : f.marker ≠ .block .examples := by
    intro hmarker
    rw [hmarker] at hplace
    cases hplace
  have hlength : later.first < lines.length := by
    obtain ⟨line, hline, _⟩ := Option.bind_eq_some_iff.mp hlater.marker
    exact (List.getElem?_eq_some_iff.mp hline).1
  have habove : (lines.take i).drop (f.first + 1) <+: f.body := by
    rw [← h.body.take_drop, List.drop_take, List.drop_take]
    apply List.take_prefix_take_left
    unfold Field.last at hlast
    omega
  refine ⟨f.first, hfirst, _, h.marker, ?_, later.first, hlength, by omega, _, hlater.marker, place,
    hplace, hplace'⟩
  rw [List.all_eq_true]
  intro l hl
  simp [(Field.classify_of_takes (h.taken l (habove.subset hl))).2 hexamples]

/-! ## Docstrings -/

/-- What a docstring is read from: its fields, one by one, below its head. -/
theorem parse_cases {text : Text} {d : Document} (h : parse text = .ok d) :
    ∃ n p, (outline n ((normalLines text).drop n)).2 = none ∧
      (outline n ((normalLines text).drop n)).1.foldlM Progress.add
        ⟨(Head.cut atMarker atField (normalLines text)).document .rest, none⟩ = .ok p ∧
      d = p.finish := by
  refine ⟨(Head.cut atMarker atField (normalLines text)).length, ?_⟩
  rw [Head.drop_cut]
  obtain ⟨hstop, p, hfold, hd⟩ := parse_eq_ok_iff.mp h
  exact ⟨p, hstop, hfold, hd⟩

/-- Without a warning, a field keeps its prose to the end, unless it is overwritten. -/
theorem holdsAt_parse {text : Text} {d : Document} {span : SectionSpan} {i : Nat} {line : Line}
    (h : parse text = .ok d) (hw : d.metadata.warnings = []) (hspan : span ∈ d.metadata.sections)
    (hfirst : span.first ≤ i) (hlast : i < span.last)
    (hline : (normalLines text)[i]? = some line) (hink : isBlank line = false)
    (hhead : ¬IsHead (normalLines text) span i) (hover : ¬IsOverwritten (normalLines text) i) :
    ∃ place, d.HoldsAt place line := by
  have hn : '\n' ∉ line :=
    ((isNormal_normalLines text).clean line (List.mem_of_getElem? hline)).newline
  obtain ⟨n, p, hstop, hfold, rfl⟩ := parse_cases h
  have hlaid := laid_outline hstop
  have hrecorded : Recorded n ([] ++ (outline n ((normalLines text).drop n)).1) p := by
    refine Recorded.foldlM ⟨?_, by simp⟩ hfold hlaid.first hlaid.sorted
    exact fun s hs => absurd hs List.not_mem_nil
  obtain ⟨hlo, _, hkind⟩ := hrecorded.finish span hspan
  -- The field of the line.
  obtain ⟨f, hf, hfrom, hto⟩ := hlaid.covers i line (hlo.trans hfirst) hline hink
  have hat := hlaid.stands f hf
  have hbelow : f.first < i := by
    refine lt_of_le_of_ne hfrom ?_
    rintro rfl
    exact hhead (hat.isHead (hkind f hf hfirst hlast))
  obtain ⟨below, hbody, _⟩ := hat.body.split hbelow hto hline
  obtain ⟨_, _, hmarker⟩ := Option.bind_eq_some_iff.mp hat.marker
  have hnamed : f.marker = .raises none → isBlank f.text = false ∨
      (((normalLines text).take i).drop (f.first + 1)).all isBlank = false := by
    intro hraises
    by_contra hboth
    rw [not_or, Bool.not_eq_false, Bool.not_eq_false] at hboth
    exact hhead (Or.inr ⟨f.first, hbelow, _, hat.marker, hraises, hboth.1, hboth.2⟩)
  refine ⟨f.marker.place, (keeps_finish p).holdsAt hw List.not_mem_nil ?_⟩
  obtain ⟨above, later, hfields⟩ := List.append_of_mem hf
  rw [hfields] at hfold
  have hstep : ∀ (p : Progress) (f : Field) (p' : Progress), p.add f = .ok p' →
      p.document.Keeps f.marker.written p'.document := fun _ _ _ => keeps_add
  refine holdsAt_of_foldlM Progress.document hstep hfold ((keeps_finish p).warnings hw) ?_ ?_
  · intro before after hadd hw
    obtain ⟨d, hadd, _⟩ := add_cases hadd
    exact holdsAt_addField hadd hw hbody hn hink (opensText_classify hmarker) hnamed
  · intro x hx hplace
    have hsorted := hlaid.sorted
    rw [hfields, List.pairwise_append, List.pairwise_cons] at hsorted
    have hx' : x.At (normalLines text) := hlaid.stands x (by rw [hfields]; simp [hx])
    exact hover (hat.isOverwritten hx' hbelow hto (hsorted.2.1.1 x hx)
      (Marker.place_mem_written hplace) hplace)

end Docstring.Rest
