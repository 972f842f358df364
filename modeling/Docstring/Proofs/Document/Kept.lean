-- What becomes of a text once a reader has put it into a document. Lists of texts only grow; a
-- place that holds one text keeps it until a later part of the docstring writes there again.
-- Nothing warns of that.
import Docstring.Document.Failure
import Docstring.Document.Head
import Docstring.Proofs.Text.Prose

namespace Docstring

open Text

/-! ## Places -/

/-- A place for text in a document. -/
inductive Place where
  | returnType
  | returnText
  | yieldType
  | yieldText
  | paramType (name : Text)
  /-- Any place in a list of parameters, exceptions or texts. Such lists grow. -/
  | list
deriving DecidableEq, Repr

namespace SectionKind

/-- The places that a section under a header writes, apart from lists. -/
def written : SectionKind → List Place
  | .returns => [.returnType, .returnText]
  | .yields => [.yieldType, .yieldText]
  | _ => []

/-- The place of the text of a section below the lines that name its entries. -/
def place : SectionKind → Place
  | .returns => .returnText
  | .yields => .yieldText
  | _ => .list

end SectionKind

namespace Document

/-- All types, descriptions, examples and free texts. -/
def textFields (d : Document) : List Text :=
  (d.parameters.flatMap fun p => p.type.toList ++ p.description.toList) ++
    (d.returns.toList ++ d.yields.toList).flatMap
      (fun doc => doc.type.toList ++ doc.description.toList) ++
    (d.raises.flatMap fun r => r.exception :: r.description.toList) ++
    d.examples ++ d.notes ++ d.warnings ++ d.seeAlso ++ d.references

/-- The texts at a place. -/
def textsAt (d : Document) : Place → List Text
  | .returnType => (d.returns.bind ReturnDoc.type).toList
  | .returnText => (d.returns.bind ReturnDoc.description).toList
  | .yieldType => (d.yields.bind ReturnDoc.type).toList
  | .yieldText => (d.yields.bind ReturnDoc.description).toList
  | .paramType name => ((d.parameter? name).bind Parameter.type).toList
  | .list =>
    d.parameters.filterMap Parameter.description ++
      (d.raises.flatMap fun r => r.exception :: r.description.toList) ++
      d.examples ++ d.notes ++ d.warnings ++ d.seeAlso ++ d.references

theorem textsAt_subset (d : Document) (place : Place) : d.textsAt place ⊆ d.textFields := by
  intro t ht
  cases place <;> simp only [textsAt, Option.mem_toList, Option.bind_eq_some_iff] at ht <;>
    simp only [textFields, List.mem_append, List.mem_flatMap]
  case returnType | returnText | yieldType | yieldText =>
    obtain ⟨doc, hdoc, ht⟩ := ht
    simp [hdoc, ht]
  case paramType name =>
    obtain ⟨p, hp, ht⟩ := ht
    have hsome : ∃ p ∈ d.parameters, p.type = some t ∨ p.description = some t :=
      ⟨p, List.mem_of_find?_eq_some hp, Or.inl ht⟩
    simp only [Option.mem_toList, hsome, true_or]
  case list =>
    have hsome : (∃ p ∈ d.parameters, p.description = some t) →
        ∃ p ∈ d.parameters, p.type = some t ∨ p.description = some t :=
      fun ⟨p, hp, hdescription⟩ => ⟨p, hp, Or.inr hdescription⟩
    simp only [List.mem_append, List.mem_filterMap, List.mem_flatMap] at ht
    rcases ht with (((((ht | ht) | ht) | ht) | ht) | ht) | ht
    · simp only [Option.mem_toList, hsome ht, true_or]
    all_goals simp only [ht, true_or, or_true]

/-- A document has a line at a place. -/
def HoldsAt (d : Document) (place : Place) (line : Line) : Prop :=
  ∃ t ∈ d.textsAt place, t.Says line

theorem HoldsAt.exists_textFields {d : Document} {place : Place} {line : Line}
    (h : d.HoldsAt place line) : ∃ t ∈ d.textFields, t.Says line := by
  obtain ⟨t, ht, hheld⟩ := h
  exact ⟨t, d.textsAt_subset place ht, hheld⟩

/-! ## Steps that keep texts -/

/-- A step from one document to the next takes no warning back, and if there is none, it keeps the
texts of all places that it does not write. -/
structure Keeps (written : List Place) (d d' : Document) : Prop where
  warnings : d'.metadata.warnings = [] → d.metadata.warnings = []
  texts : d'.metadata.warnings = [] → ∀ place ∉ written, d.textsAt place ⊆ d'.textsAt place

variable {d d' d'' : Document} {written written' : List Place} {place : Place} {line : Line}

theorem Keeps.holdsAt (h : Keeps written d d') (hw : d'.metadata.warnings = [])
    (hplace : place ∉ written) (hd : d.HoldsAt place line) : d'.HoldsAt place line := by
  obtain ⟨t, ht, hheld⟩ := hd
  exact ⟨t, h.texts hw place hplace ht, hheld⟩

theorem Keeps.refl (d : Document) : Keeps [] d d := ⟨id, fun _ _ _ => List.Subset.refl _⟩

theorem Keeps.trans (h : Keeps written d d') (h' : Keeps written' d' d'') :
    Keeps (written ++ written') d d'' := by
  refine ⟨fun hw => h.warnings (h'.warnings hw), fun hw place hplace => ?_⟩
  rw [List.mem_append, not_or] at hplace
  exact List.Subset.trans (h.texts (h'.warnings hw) place hplace.1) (h'.texts hw place hplace.2)

theorem Keeps.of_warnings_eq (hw : d'.metadata.warnings = d.metadata.warnings)
    (h : ∀ place ∉ written, d.textsAt place ⊆ d'.textsAt place) : Keeps written d d' :=
  ⟨fun hnone => hw ▸ hnone, fun _ => h⟩

theorem keeps_recordSection (d : Document) (span : SectionSpan) :
    Keeps [] d (d.recordSection span) :=
  .of_warnings_eq rfl fun place _ => by cases place <;> exact List.Subset.refl _

theorem keeps_warnAll (d : Document) (ws : List Diagnostic) : Keeps [] d (d.warnAll ws) := by
  refine ⟨fun hw => (List.append_eq_nil_iff.mp hw).1, fun _ place _ => ?_⟩
  cases place <;> exact List.Subset.refl _

/-- What is said about the returned value is replaced. -/
theorem keeps_returns {doc : ReturnDoc}
    (htype : .returnType ∉ written → d.textsAt .returnType ⊆ doc.type.toList)
    (htext : .returnText ∉ written → d.textsAt .returnText ⊆ doc.description.toList) :
    Keeps written d { d with returns := some doc } := by
  refine .of_warnings_eq rfl fun place hplace => ?_
  cases place
  case returnType => exact htype hplace
  case returnText => exact htext hplace
  all_goals exact List.Subset.refl _

/-- What is said about the yielded value is replaced. -/
theorem keeps_yields {doc : ReturnDoc}
    (htype : .yieldType ∉ written → d.textsAt .yieldType ⊆ doc.type.toList)
    (htext : .yieldText ∉ written → d.textsAt .yieldText ⊆ doc.description.toList) :
    Keeps written d { d with yields := some doc } := by
  refine .of_warnings_eq rfl fun place hplace => ?_
  cases place
  case yieldType => exact htype hplace
  case yieldText => exact htext hplace
  all_goals exact List.Subset.refl _

theorem keeps_addRaise (d : Document) (entry : RaiseEntry) :
    Keeps [] d { d with raises := d.raises ++ [entry] } := by
  refine .of_warnings_eq rfl fun place _ => ?_
  cases place <;> try exact List.Subset.refl _
  intro t ht
  simp only [textsAt, List.flatMap_append, List.mem_append] at ht ⊢
  tauto

theorem keeps_addExample (d : Document) (text : Option Text) : Keeps [] d (d.addExample text) := by
  refine .of_warnings_eq rfl fun place _ => ?_
  cases place <;> try exact List.Subset.refl _
  intro t ht
  simp only [textsAt, addExample, List.mem_append] at ht ⊢
  tauto

theorem keeps_addFreeText? (d : Document) (kind : SectionKind) (text : Option Text) :
    Keeps [] d (d.addFreeText? kind text) := by
  cases text with
  | none => exact Keeps.refl d
  | some text =>
    have hw : (d.addFreeText text kind).metadata.warnings = d.metadata.warnings := by
      cases kind <;> rfl
    refine .of_warnings_eq hw fun place _ => ?_
    cases kind <;> cases place <;> try exact List.Subset.refl _
    all_goals
      intro t ht
      simp only [addFreeText?, textsAt, addFreeText, List.mem_append] at ht ⊢
      tauto

/-- A parameter is added without a warning only if its name is new. -/
theorem addParameter_of_warnings {p : Parameter}
    (hw : (d.addParameter p).metadata.warnings = []) :
    d.addParameter p = { d with parameters := d.parameters ++ [p] } ∧
      d.parameter? p.name = none := by
  unfold addParameter pushParameter at hw ⊢
  by_cases hnew : (d.parameter? p.name).isNone = true
  · have hnone : d.parameter? p.name = none := Option.isNone_iff_eq_none.mp hnew
    have hany : d.parameters.any (fun q => q.name = p.name) = false := by
      simpa [parameter?] using hnone
    simp [hnone, insertParameter, hany]
  · simp [hnew, warn] at hw

theorem keeps_addParameter (d : Document) (p : Parameter) : Keeps [] d (d.addParameter p) := by
  constructor
  · intro hw
    have heq := (addParameter_of_warnings hw).1
    rw [heq] at hw
    exact hw
  · intro hw place _
    obtain ⟨heq, _⟩ := addParameter_of_warnings hw
    rw [heq]
    cases place <;> try exact List.Subset.refl _
    · intro t ht
      simp only [textsAt, parameter?, List.find?_append, Option.mem_toList,
        Option.bind_eq_some_iff] at ht ⊢
      obtain ⟨q, hq, ht⟩ := ht
      exact ⟨q, by simp [hq], ht⟩
    · intro t ht
      simp only [textsAt, List.filterMap_append, List.mem_append] at ht ⊢
      tauto

@[simp] theorem sections_addParameter (d : Document) (p : Parameter) :
    (d.addParameter p).metadata.sections = d.metadata.sections := by
  by_cases hnew : (d.parameter? p.name).isNone = true <;>
    simp [addParameter, pushParameter, warn, hnew]

@[simp] theorem sections_addFreeText? (d : Document) (kind : SectionKind) (text : Option Text) :
    (d.addFreeText? kind text).metadata.sections = d.metadata.sections := by
  cases text with
  | none => rfl
  | some text => cases kind <;> rfl

theorem parameters_addParameter (d : Document) (p : Parameter) :
    (d.addParameter p).parameters = insertParameter d.parameters p := by
  unfold addParameter pushParameter
  dsimp only
  split <;> rfl

@[simp] theorem parameters_addFreeText? (d : Document) (kind : SectionKind) (text : Option Text) :
    (d.addFreeText? kind text).parameters = d.parameters := by
  cases text with
  | none => rfl
  | some text => cases kind <;> rfl

@[simp] theorem raises_addParameter (d : Document) (p : Parameter) :
    (d.addParameter p).raises = d.raises := by
  unfold addParameter pushParameter
  dsimp only
  split <;> rfl

@[simp] theorem raises_addFreeText? (d : Document) (kind : SectionKind) (text : Option Text) :
    (d.addFreeText? kind text).raises = d.raises := by
  cases text with
  | none => rfl
  | some text => cases kind <;> rfl

@[simp] theorem examples_recordSection (d : Document) (span : SectionSpan) :
    (d.recordSection span).examples = d.examples := rfl

@[simp] theorem examples_addParameter (d : Document) (p : Parameter) :
    (d.addParameter p).examples = d.examples := by
  by_cases hnew : (d.parameter? p.name).isNone = true <;>
    simp [addParameter, pushParameter, warn, hnew]

@[simp] theorem examples_addFreeText? (d : Document) (kind : SectionKind) (text : Option Text) :
    (d.addFreeText? kind text).examples = d.examples := by
  cases text with
  | none => rfl
  | some text => cases kind <;> rfl

/-! ## What a step adds -/

theorem holdsAt_addParameter {p : Parameter} {t : Text}
    (hw : (d.addParameter p).metadata.warnings = []) (hp : p.description = some t)
    (ht : t.Says line) : (d.addParameter p).HoldsAt .list line := by
  rw [(addParameter_of_warnings hw).1]
  exact ⟨t, by simp [textsAt, hp], ht⟩

theorem holdsAt_addRaise {entry : RaiseEntry} {t : Text}
    (hentry : t = entry.exception ∨ entry.description = some t) (ht : t.Says line) :
    HoldsAt { d with raises := d.raises ++ [entry] } .list line := by
  refine ⟨t, ?_, ht⟩
  rcases hentry with rfl | hentry
  · simp [textsAt]
  · simp [textsAt, hentry]

theorem holdsAt_addExample {t : Text} (ht : t.Says line) :
    (d.addExample (some t)).HoldsAt .list line :=
  ⟨t, by simp [textsAt, addExample], ht⟩

theorem holdsAt_addFreeText? {t : Text} {kind : SectionKind} (hkind : kind.isFreeText = true)
    (ht : t.Says line) : (d.addFreeText? kind (some t)).HoldsAt .list line := by
  refine ⟨t, ?_, ht⟩
  cases kind <;> first | exact absurd hkind (by decide) | simp [textsAt, addFreeText?, addFreeText]

end Document

/-! ## Runs -/

section Run

variable {State Item Error : Type} {step : State → Item → Except Error State}

/-- A run passes through every one of its items. -/
theorem exists_of_foldlM {above below : List Item} {item : Item} {s s' : State}
    (h : (above ++ item :: below).foldlM step s = .ok s') :
    ∃ before after, above.foldlM step s = .ok before ∧ step before item = .ok after ∧
      below.foldlM step after = .ok s' := by
  rw [List.foldlM_append] at h
  cases hbefore : above.foldlM step s with
  | error e => rw [hbefore] at h; cases h
  | ok before =>
    rw [hbefore] at h
    change (item :: below).foldlM step before = _ at h
    rw [List.foldlM_cons] at h
    cases hafter : step before item with
    | error e => rw [hafter] at h; cases h
    | ok after =>
      rw [hafter] at h
      exact ⟨before, after, rfl, hafter, h⟩

/-- What every step preserves with the items of a run is preserved by the run. -/
theorem foldlM_induction_mem {P : State → Prop} {items : List Item} {s s' : State}
    (hstep : ∀ s, ∀ item ∈ items, ∀ s', step s item = .ok s' → P s → P s')
    (h : items.foldlM step s = .ok s') (hs : P s) : P s' := by
  induction items generalizing s with
  | nil =>
    cases h
    exact hs
  | cons item items ih =>
    rw [← List.nil_append (item :: items)] at h
    obtain ⟨_, after, habove, hitem, hbelow⟩ := exists_of_foldlM h
    cases habove
    exact ih (fun s x hx => hstep s x (List.mem_cons_of_mem _ hx)) hbelow
      (hstep _ _ List.mem_cons_self _ hitem hs)

/-- What every step preserves is preserved by a run. -/
theorem foldlM_induction {P : State → Prop}
    (hstep : ∀ s item s', step s item = .ok s' → P s → P s')
    {items : List Item} {s s' : State} (h : items.foldlM step s = .ok s') (hs : P s) : P s' :=
  foldlM_induction_mem (fun s item _ => hstep s item) h hs

/-- What no step changes is unchanged by a run. -/
theorem foldlM_unchanged {α : Type} (part : State → α)
    (hstep : ∀ s item s', step s item = .ok s' → part s' = part s)
    {items : List Item} {s s' : State} (h : items.foldlM step s = .ok s') : part s' = part s :=
  foldlM_induction (P := fun t => part t = part s)
    (fun _ _ _ hitem hs => (hstep _ _ _ hitem).trans hs) h rfl

/-- A list that every step adds to. -/
theorem foldlM_flatMap {α : Type} (list : State → List α) {f : Item → List α}
    (hstep : ∀ s item s', step s item = .ok s' → list s' = list s ++ f item)
    {items : List Item} {s s' : State} (h : items.foldlM step s = .ok s') :
    list s' = list s ++ items.flatMap f := by
  induction items generalizing s with
  | nil =>
    cases h
    simp
  | cons item items ih =>
    rw [← List.nil_append (item :: items)] at h
    obtain ⟨_, after, habove, hitem, hbelow⟩ := exists_of_foldlM h
    cases habove
    rw [ih hbelow, hstep _ _ _ hitem]
    simp

/-- A list that every step adds one element to. -/
theorem foldlM_map {α : Type} (list : State → List α) {f : Item → α}
    (hstep : ∀ s item s', step s item = .ok s' → list s' = list s ++ [f item])
    {items : List Item} {s s' : State} (h : items.foldlM step s = .ok s') :
    list s' = list s ++ items.map f := by
  rw [List.map_eq_flatMap]
  exact foldlM_flatMap list hstep h

variable (document : State → Document) {written : Item → List Place}

theorem keeps_foldlM
    (hstep : ∀ s item s', step s item = .ok s' →
      (document s).Keeps (written item) (document s'))
    {items : List Item} {s s' : State} (h : items.foldlM step s = .ok s') :
    (document s).Keeps (items.flatMap written) (document s') := by
  induction items generalizing s with
  | nil =>
    cases h
    exact Document.Keeps.refl _
  | cons item items ih =>
    rw [← List.nil_append (item :: items)] at h
    obtain ⟨_, after, habove, hitem, hbelow⟩ := exists_of_foldlM h
    cases habove
    exact (hstep _ _ _ hitem).trans (ih hbelow)

theorem keeps_foldlM_of_nil
    (hstep : ∀ s item s', step s item = .ok s' → (document s).Keeps [] (document s'))
    {items : List Item} {s s' : State} (h : items.foldlM step s = .ok s') :
    (document s).Keeps [] (document s') := by
  have hrun : ∀ t item t', step t item = .ok t' → (document s).Keeps [] (document t) →
      (document s).Keeps [] (document t') :=
    fun t item t' hitem ht => ht.trans (hstep t item t' hitem)
  exact foldlM_induction hrun h (Document.Keeps.refl _)

/-- What one item adds is there at the end, if no later item writes the same place. -/
theorem holdsAt_of_foldlM
    (hstep : ∀ s item s', step s item = .ok s' →
      (document s).Keeps (written item) (document s'))
    {above below : List Item} {item : Item} {s s' : State} {place : Place} {line : Line}
    (h : (above ++ item :: below).foldlM step s = .ok s')
    (hw : (document s').metadata.warnings = [])
    (hadds : ∀ before after, step before item = .ok after →
      (document after).metadata.warnings = [] → (document after).HoldsAt place line)
    (hbelow : ∀ x ∈ below, place ∉ written x) : (document s').HoldsAt place line := by
  obtain ⟨before, after, _, hitem, hrest⟩ := exists_of_foldlM h
  have hkeeps := keeps_foldlM document hstep hrest
  refine hkeeps.holdsAt hw ?_ (hadds before after hitem (hkeeps.warnings hw))
  simpa using hbelow

end Run

/-! ## Lines that stand in a text -/

/-- Lines that stand in a text from line `n` on. -/
def StandsAt (lines : List Line) (n : Nat) (body : List Line) : Prop := body <+: lines.drop n

theorem drop_succ_of_drop {lines rest : List Line} {n : Nat} {line : Line}
    (h : lines.drop n = line :: rest) : lines.drop (n + 1) = rest := by
  rw [← List.drop_drop, h, List.drop_one, List.tail_cons]

theorem StandsAt.concat {lines body rest : List Line} {n : Nat} {line : Line}
    (h : StandsAt lines n body) (hline : lines.drop (n + body.length) = line :: rest) :
    StandsAt lines n (body ++ [line]) := by
  obtain ⟨tail, htail⟩ := h
  refine ⟨rest, ?_⟩
  rw [← List.drop_drop, ← htail, List.drop_left] at hline
  rw [← htail, hline]
  simp

theorem StandsAt.of_part {lines body part : List Line} {n : Nat} (h : StandsAt lines n body)
    (hpart : part <+: body) : StandsAt lines n part :=
  hpart.trans h

theorem StandsAt.take_drop {lines body : List Line} {n : Nat} (h : StandsAt lines n body) :
    (lines.take (n + body.length)).drop n = body := by
  rw [List.drop_take, Nat.add_sub_cancel_left]
  exact (List.prefix_iff_eq_take.mp h).symm

/-- A line of the text that is one of those lines, with the lines above and below it. -/
theorem StandsAt.split {lines body : List Line} {n i : Nat} {line : Line}
    (h : StandsAt lines n body)
    (hfirst : n ≤ i) (hlast : i < n + body.length) (hline : lines[i]? = some line) :
    ∃ below, body = (lines.take i).drop n ++ line :: below ∧
      ((lines.take i).drop n).length = i - n := by
  have hi : i < lines.length := (List.getElem?_eq_some_iff.mp hline).1
  have habove : (lines.take i).drop n = body.take (i - n) := by
    rw [← h.take_drop, List.take_drop, List.take_take]
    congr 2
    omega
  have hbody : body[i - n]? = some line := by
    rw [← h.take_drop, List.getElem?_drop, List.getElem?_take_of_lt (by omega), ← hline]
    congr 1
    omega
  obtain ⟨hlt, hget⟩ := List.getElem?_eq_some_iff.mp hbody
  refine ⟨body.drop (i - n + 1), ?_, ?_⟩
  · rw [habove, ← hget, ← List.drop_eq_getElem_cons hlt, List.take_append_drop]
  · rw [List.length_drop, List.length_take]
    omega

theorem Head.append_spanUntil (mark : List Line → Bool) (lines : List Line) :
    (spanUntil mark lines).1 ++ (spanUntil mark lines).2 = lines := by
  induction lines with
  | nil => rfl
  | cons line rest ih =>
    rw [spanUntil]
    split
    · rfl
    · exact congrArg (line :: ·) ih

/-- The marked part of a docstring stands below its head. -/
theorem Head.drop_cut (endsSummary endsProse : List Line → Bool) (lines : List Line) :
    lines.drop (Head.cut endsSummary endsProse lines).length =
      (Head.cut endsSummary endsProse lines).rest := by
  let mark := fun tail : List Line => ((tail.head?.map isBlank).getD false) || endsSummary tail
  have hsummary := append_spanUntil mark lines
  have hprose := append_spanUntil endsProse (spanUntil mark lines).2
  rw [← hprose, ← List.append_assoc] at hsummary
  have hrest := @List.drop_left _
    ((spanUntil mark lines).1 ++ (spanUntil endsProse (spanUntil mark lines).2).1)
    (spanUntil endsProse (spanUntil mark lines).2).2
  rwa [hsummary, List.length_append] at hrest

/-! ## Sections under headers -/

namespace SectionSpan

/-- The lines of a section below its header of `size` lines. -/
def body (size : Nat) (lines : List Line) (span : SectionSpan) : List Line :=
  (lines.take span.last).drop (span.first + size)

/-- Does a line of a section name what the section documents? The lines of the header do, the lines
at the first column of a section with entries, once its margin is taken off, and the first line on
what is returned or yielded. -/
def IsHead (size : Nat) (dedent : List Line → List Line) (lines : List Line) (span : SectionSpan)
    (i : Nat) : Prop :=
  i < span.first + size ∨
    match span.kind with
    | .params | .raises =>
      ∃ l ∈ (dedent (span.body size lines))[i - (span.first + size)]?, indentWidth l = 0
    | .returns | .yields => ((lines.take i).drop (span.first + size)).all isBlank = true
    | _ => False

/-- A line of a section that is no head stands in the body: deeper than the heads of entries, or
below the first line on what is returned or yielded. -/
theorem exists_split {size i : Nat} {dedent : List Line → List Line} {unindent : Line → Line}
    {lines body : List Line} {span : SectionSpan} {line : Line}
    (hbody : StandsAt lines (span.first + size) body)
    (hspan : span.last = span.first + size + body.length)
    (hdedent : dedent body = body.map unindent) (hlast : i < span.last)
    (hline : lines[i]? = some line) (hhead : ¬span.IsHead size dedent lines i) :
    ∃ above below, body = above ++ line :: below ∧
      (span.kind = .params ∨ span.kind = .raises → indentWidth (unindent line) ≠ 0) ∧
      (span.kind = .returns ∨ span.kind = .yields → above.all isBlank = false) := by
  obtain ⟨hbelow, hhead⟩ := not_or.mp hhead
  obtain ⟨below, hsplit, hlength⟩ := hbody.split (not_lt.mp hbelow) (hspan ▸ hlast) hline
  refine ⟨_, below, hsplit, ?_, ?_⟩
  · intro hkind hflush
    have hat : (dedent (span.body size lines))[i - (span.first + size)]? =
        some (unindent line) := by
      rw [SectionSpan.body, hspan, hbody.take_drop, hdedent, List.getElem?_map, ← hlength]
      nth_rewrite 1 [hsplit]
      simp
    rcases hkind with hkind | hkind <;> rw [hkind] at hhead <;> exact hhead ⟨_, hat, hflush⟩
  · intro hkind
    rw [← Bool.not_eq_true]
    rcases hkind with hkind | hkind <;> rw [hkind] at hhead <;> exact hhead

/-- A later section writes the same place. -/
def IsOverwritten (sections : List SectionSpan) (span : SectionSpan) : Prop :=
  ∃ later ∈ sections, span.first < later.first ∧
    ∃ place ∈ span.kind.written, place ∈ later.kind.written

end SectionSpan

theorem SectionKind.place_mem_written {kind later : SectionKind}
    (h : kind.place ∈ later.written) : kind.place ∈ kind.written := by
  cases kind <;> cases later <;> simp_all [place, written]

/-- What one section adds to its place is there at the end, if no later section writes there. -/
theorem holdsAt_of_sections {Block : Type} (add : Document → Block → ParseResult)
    (span : Block → SectionSpan) {blocks : List Block} {d d' : Document} {s : SectionSpan}
    {line : Line}
    (hkeeps : ∀ d b d', add d b = .ok d' → d.Keeps (span b).kind.written d')
    (hsections : ∀ d b d', add d b = .ok d' →
      d'.metadata.sections = d.metadata.sections ++ [span b])
    (h : blocks.foldlM add d = .ok d') (hd : d.metadata.sections = [])
    (hsorted : d'.metadata.sections.Pairwise fun a b => a.first < b.first)
    (hw : d'.metadata.warnings = []) (hs : s ∈ d'.metadata.sections)
    (hover : ¬s.IsOverwritten d'.metadata.sections)
    (hadds : ∀ b ∈ blocks, span b = s → ∀ d d', add d b = .ok d' →
      d'.metadata.warnings = [] → d'.HoldsAt s.kind.place line) :
    d'.HoldsAt s.kind.place line := by
  have hall : d'.metadata.sections = blocks.map span := by
    rw [foldlM_map (fun d => d.metadata.sections) hsections h, hd, List.nil_append]
  rw [hall] at hs hover hsorted
  obtain ⟨b, hb, rfl⟩ := List.mem_map.mp hs
  obtain ⟨above, below, rfl⟩ := List.append_of_mem hb
  refine holdsAt_of_foldlM id hkeeps h hw (hadds b hb rfl) ?_
  intro x hx hplace
  rw [List.pairwise_map, List.pairwise_append, List.pairwise_cons] at hsorted
  exact hover ⟨span x, by simp [List.mem_map_of_mem hx], hsorted.2.1.1 x hx, (span b).kind.place,
    SectionKind.place_mem_written hplace, hplace⟩

end Docstring
