-- What an annotation says about the values of an iterator. Of one subscript of an iterator type it
-- is the first argument, of everything else the annotation itself, and it closes the brackets that
-- it opens. Only an annotation that starts with such a subscript and ends in another bracket is cut
-- in two.
import Docstring.Hint
import Docstring.Proofs.Text.Bracket
import Docstring.Proofs.Text.Search
import Docstring.Proofs.Text.Words

namespace Docstring.Hint

open Text

/-! ## Subscripts -/

/-- Is this the name of an iterator type, with its module or without? -/
def namesIterator (head : Text) : Bool :=
  iteratorTypes.any fun known => known.toList = bareHead head

/-- A text that is one subscript of an iterator type as a whole. -/
structure IsSubscript (text head arguments : Text) : Prop where
  names : namesIterator head = true
  split : text = head ++ '[' :: (arguments ++ [']'])
  balanced : isBalanced arguments = true

/-- The text up to the first comma outside brackets, which is all of it if there is none. -/
structure IsFirstArgument (arguments argument : Text) : Prop where
  balanced : isBalanced argument = true
  rest : arguments = argument ∨ ∃ more, arguments = argument ++ ',' :: more
  first : ∀ before after, argument = before ++ ',' :: after → isBalanced before = false

/-- A text that starts with a subscript of an iterator type and ends in a bracket that does not
close it. -/
structure ClosesEarly (text arguments : Text) : Prop where
  split : ∃ head close rest, namesIterator head = true ∧ isClosing close = true ∧
    text = head ++ '[' :: (arguments ++ close :: (rest ++ [']']))
  balanced : isBalanced arguments = true

/-- What is said to be yielded is the first argument of a subscript of an iterator type, and else
the annotation as it is. -/
structure SaysYielded (hint yielded : Text) : Prop where
  balanced : isBalanced yielded = true
  argument : ∀ head arguments, IsSubscript (trim hint) head arguments →
    ∃ argument, IsFirstArgument arguments argument ∧ yielded = trim argument
  other : (∀ head arguments, ¬IsSubscript (trim hint) head arguments) → yielded = trim hint

/-! ## Brackets -/

theorem isSpace_of_bracket {c : Char} (h : isOpening c = true ∨ isClosing c = true) :
    isSpace c = false := by
  simp only [isOpening, isClosing, Bool.or_eq_true, beq_iff_eq] at h
  rcases h with ((rfl | rfl) | rfl) | ((rfl | rfl) | rfl) <;> decide

/-- One character further, a text that closes its brackets is as deep as it counts. -/
theorem exists_depthAfter {c : Char} {t : Text} {depth : Nat}
    (h : balancedFrom depth (c :: t) = true) :
    ∃ next : Nat, depthAfter depth c = next ∧
      ∀ s, balancedFrom depth (c :: s) = balancedFrom next s := by
  rw [balancedFrom] at h
  by_cases hopen : isOpening c = true
  · exact ⟨depth + 1, by simp [depthAfter_of_isOpening hopen],
      fun s => by simp [balancedFrom, hopen]⟩
  · by_cases hclose : isClosing c = true
    · rw [if_neg hopen, if_pos hclose, Bool.and_eq_true, decide_eq_true_eq] at h
      refine ⟨depth - 1, ?_, fun s => by simp [balancedFrom, hopen, hclose, h.1]⟩
      rw [depthAfter_of_isClosing hclose]
      omega
    · exact ⟨depth, by simp [depthAfter, hopen, hclose], fun s => by
        simp [balancedFrom, hopen, hclose]⟩

/-- Behind a text that closes its brackets, as many are open as at the start of any text. -/
theorem balancedFrom_append {t : Text} {depth : Nat} (more : Text)
    (h : balancedFrom depth t = true) : balancedFrom depth (t ++ more) = balancedFrom 0 more := by
  induction t generalizing depth with
  | nil =>
    have hzero : depth = 0 := by simpa [balancedFrom] using h
    rw [hzero, List.nil_append]
  | cons c t ih =>
    obtain ⟨next, -, hnext⟩ := exists_depthAfter h
    rw [List.cons_append, hnext, ih (hnext t ▸ h)]

theorem not_balanced_of_close {t : Text} {close : Char} (rest : Text) (h : isBalanced t = true)
    (hclose : isClosing close = true) : isBalanced (t ++ close :: rest) = false := by
  rw [isBalanced, balancedFrom_append _ h]
  simp [balancedFrom, hclose, isOpening_of_isClosing hclose]

/-- Before a bracket that closes all that is open, a text closes its own brackets, or it closes one
more on the way. -/
theorem balanced_or_closes {t : Text} {depth : Nat}
    (h : balancedFrom (depth + 1) (t ++ [']']) = true) :
    balancedFrom depth t = true ∨ ∃ before close after, t = before ++ close :: after ∧
      isClosing close = true ∧ balancedFrom depth before = true := by
  induction t generalizing depth with
  | nil =>
    left
    simpa [balancedFrom, isOpening, isClosing] using h
  | cons c t ih =>
    rw [List.cons_append, balancedFrom] at h
    -- What holds of the text behind `c` holds of the whole, where `c` leads from `depth` to `next`.
    have hgoal : ∀ next, (∀ s, balancedFrom depth (c :: s) = balancedFrom next s) →
        balancedFrom (next + 1) (t ++ [']']) = true →
        balancedFrom depth (c :: t) = true ∨ ∃ before close after,
          c :: t = before ++ close :: after ∧ isClosing close = true ∧
          balancedFrom depth before = true := by
      intro next hnext hrest
      rcases ih hrest with hbalanced | ⟨before, close, after, rfl, hclose, hbefore⟩
      · exact Or.inl ((hnext t).trans hbalanced)
      · exact Or.inr ⟨c :: before, close, after, rfl, hclose, (hnext before).trans hbefore⟩
    by_cases hopen : isOpening c = true
    · rw [if_pos hopen] at h
      exact hgoal (depth + 1) (fun s => by simp [balancedFrom, hopen]) h
    · by_cases hclose : isClosing c = true
      · rw [if_neg hopen, if_pos hclose, Bool.and_eq_true] at h
        cases depth with
        | zero => exact Or.inr ⟨[], c, t, rfl, hclose, rfl⟩
        | succ depth =>
          exact hgoal depth (fun s => by simp [balancedFrom, hopen, hclose]) (by simpa using h.2)
      · rw [if_neg hopen, if_neg hclose] at h
        exact hgoal depth (fun s => by simp [balancedFrom, hopen, hclose]) h

theorem balancedFrom_ink (depth : Nat) (t : Text) :
    balancedFrom depth (t.filter fun c => !isSpace c) = balancedFrom depth t := by
  induction t generalizing depth with
  | nil => rfl
  | cons c t ih =>
    cases hc : isSpace c with
    | true =>
      have hplain : ¬(isOpening c = true ∨ isClosing c = true) := fun h => by
        simp [isSpace_of_bracket h] at hc
      rw [not_or] at hplain
      simp [balancedFrom, hc, hplain.1, hplain.2, ih]
    | false => simp only [List.filter_cons, hc, Bool.not_false, if_true, balancedFrom, ih]

/-- White space at the ends of a text does not count. -/
theorem isBalanced_trim (t : Text) : isBalanced (trim t) = isBalanced t := by
  unfold isBalanced
  rw [← balancedFrom_ink 0 (trim t), ← flatten_words, words_trim, flatten_words, balancedFrom_ink]

/-! ## Names of iterators -/

theorem mem_trimPrefixes {start t : Text} {c : Char} (hstart : c ∉ start) (h : c ∈ t) :
    c ∈ trimPrefixes start t := by
  have hfuel : ∀ (fuel : Nat) (t : Text), c ∈ t → c ∈ dropPrefixes fuel start t := by
    intro fuel
    induction fuel with
    | zero => exact fun _ h => h
    | succ fuel ih =>
      intro t h
      rw [dropPrefixes]
      split
      · rename_i rest hrest
        rw [eq_append_of_dropPrefix? hrest, List.mem_append] at h
        exact ih rest (h.resolve_left hstart)
      · exact h
  unfold trimPrefixes
  split
  · exact h
  · exact hfuel _ t h

/-- No name of an iterator type holds a bracket. -/
theorem plain_of_namesIterator {head : Text} (h : namesIterator head = true) :
    ∀ c ∈ head, isOpening c = false ∧ isClosing c = false := by
  intro c hc
  by_contra hplain
  have hbracket : isOpening c = true ∨ isClosing c = true := by
    by_contra hneither
    simp only [not_or, Bool.not_eq_true] at hneither
    exact hplain hneither
  obtain ⟨known, hknown, hname⟩ := List.any_eq_true.mp h
  have hnames : ∀ name ∈ "typing." :: "collections.abc." :: iteratorTypes,
      (name.toList.all fun x => !isOpening x && !isClosing x) = true := by decide
  have hfree : ∀ name ∈ "typing." :: "collections.abc." :: iteratorTypes, c ∉ name.toList := by
    intro name hmem hin
    have hother := List.all_eq_true.mp (hnames name hmem) c hin
    exact hplain (by simpa using hother)
  have htrim : c ∈ trim head := by
    obtain ⟨word, hword, hin⟩ := exists_word_of_mem hc (isSpace_of_bracket hbracket)
    exact mem_of_mem_word (words_trim head ▸ hword) hin
  apply hfree known (by simp [hknown])
  rw [of_decide_eq_true hname]
  exact mem_trimPrefixes (hfree _ (by simp)) (mem_trimPrefixes (hfree _ (by simp)) htrim)

/-- Where the subscript of an iterator type starts. -/
theorem cutAt?_of_namesIterator {head : Text} (after : Text) (h : namesIterator head = true) :
    cutAt? (· == '[') (head ++ '[' :: after) = some (head, after) := by
  apply cutAt?_append after _ rfl
  intro c hc
  by_contra hbracket
  have hopen := (plain_of_namesIterator h c hc).1
  simp only [Bool.not_eq_false, beq_iff_eq] at hbracket
  simp [hbracket, isOpening] at hopen

/-- A text starts with one subscript of an iterator type at most. -/
theorem subscript_unique {head head' after after' : Text} (h : namesIterator head = true)
    (h' : namesIterator head' = true) (heq : head ++ '[' :: after = head' ++ '[' :: after') :
    head = head' ∧ after = after' := by
  have hcut := cutAt?_of_namesIterator after h
  rw [heq, cutAt?_of_namesIterator after' h'] at hcut
  simpa [eq_comm] using hcut

theorem ClosesEarly.not_isSubscript {text arguments head arguments' : Text}
    (h : ClosesEarly text arguments) : ¬IsSubscript text head arguments' := by
  intro hsub
  obtain ⟨head', close, rest, hhead, hclose, htext⟩ := h.split
  obtain ⟨-, hafter⟩ := subscript_unique hsub.names hhead (hsub.split.symm.trans htext)
  have harguments : arguments' = arguments ++ close :: rest := by
    apply (List.append_left_inj [']']).mp
    simpa using hafter
  have hnot := not_balanced_of_close rest h.balanced hclose
  rw [← harguments, hsub.balanced] at hnot
  exact Bool.noConfusion hnot

/-! ## The first argument -/

theorem firstArgument_starts (depth : Int) (t : Text) : firstArgument depth t <+: t := by
  induction t generalizing depth with
  | nil => exact List.prefix_rfl
  | cons c t ih =>
    rw [firstArgument]
    split
    · exact List.nil_prefix
    · exact (List.prefix_cons_inj c).mpr (ih _)

/-- The first argument of a text that closes its brackets stands before its first comma outside
brackets. Without such a comma it is all of the text, and goes on behind it. -/
theorem firstArgument_cases {t : Text} (depth : Nat) (h : balancedFrom depth t = true) :
    (firstArgument depth t = t ∧
      ∀ more, firstArgument depth (t ++ more) = t ++ firstArgument 0 more) ∨
    (balancedFrom depth (firstArgument depth t) = true ∧
      (∃ after, t = firstArgument depth t ++ ',' :: after) ∧
      ∀ more, firstArgument depth (t ++ more) = firstArgument depth t) := by
  induction t generalizing depth with
  | nil =>
    have hzero : depth = 0 := by simpa [balancedFrom] using h
    subst hzero
    exact Or.inl ⟨rfl, fun more => rfl⟩
  | cons c t ih =>
    by_cases hcomma : c = ',' ∧ (depth : Int) = 0
    · obtain ⟨rfl, hzero⟩ := hcomma
      have hnone : ∀ s, firstArgument depth (',' :: s) = [] := fun s => by
        simp [firstArgument, hzero]
      refine Or.inr ⟨?_, ⟨t, by rw [hnone, List.nil_append]⟩, fun more => ?_⟩
      · rw [hnone, Int.natCast_eq_zero.mp hzero]
        rfl
      · rw [List.cons_append, hnone, hnone]
    · obtain ⟨next, hdepth, hnext⟩ := exists_depthAfter h
      have hgoes : ∀ s, firstArgument depth (c :: s) = c :: firstArgument next s := fun s => by
        rw [firstArgument, if_neg hcomma, hdepth]
      simp only [List.cons_append, hgoes, hnext]
      rcases ih next (hnext t ▸ h) with ⟨hall, hmore⟩ | ⟨hbalanced, ⟨after, hafter⟩, hmore⟩
      · exact Or.inl ⟨by rw [hall], fun more => by rw [hmore]⟩
      · exact Or.inr ⟨hbalanced, ⟨after, congrArg (c :: ·) hafter⟩, fun more => by rw [hmore]⟩

/-- Every comma in the first argument stands in brackets. -/
theorem balancedFrom_before_comma {before after t : Text} (depth : Nat)
    (h : firstArgument depth t = before ++ ',' :: after) : balancedFrom depth before = false := by
  induction before generalizing t depth with
  | nil =>
    cases t with
    | nil => simp [firstArgument] at h
    | cons c t =>
      rw [firstArgument] at h
      split at h
      · simp at h
      · rename_i hcomma
        simp only [List.nil_append, List.cons.injEq] at h
        simpa [balancedFrom, h.1] using hcomma
  | cons b before ih =>
    cases t with
    | nil => simp [firstArgument] at h
    | cons c t =>
      rw [firstArgument] at h
      split at h
      · simp at h
      · rw [List.cons_append, List.cons.injEq] at h
        obtain ⟨rfl, hrest⟩ := h
        by_contra hbalanced
        obtain ⟨next, hdepth, hnext⟩ := exists_depthAfter (Bool.not_eq_false _ ▸ hbalanced)
        rw [hdepth] at hrest
        exact hbalanced ((hnext before).trans (ih next hrest))

/-- The same at the start of a text, where no bracket is open. -/
theorem firstArgument_of_balanced {t : Text} (h : isBalanced t = true) :
    (firstArgument 0 t = t ∧ ∀ more, firstArgument 0 (t ++ more) = t ++ firstArgument 0 more) ∨
    (isBalanced (firstArgument 0 t) = true ∧ (∃ after, t = firstArgument 0 t ++ ',' :: after) ∧
      ∀ more, firstArgument 0 (t ++ more) = firstArgument 0 t) :=
  firstArgument_cases 0 h

theorem isFirstArgument_firstArgument {arguments : Text} (h : isBalanced arguments = true) :
    IsFirstArgument arguments (firstArgument 0 arguments) := by
  have hfirst : ∀ before after, firstArgument 0 arguments = before ++ ',' :: after →
      isBalanced before = false := fun before after => balancedFrom_before_comma 0
  rcases firstArgument_of_balanced h with ⟨hall, -⟩ | ⟨hbalanced, hrest, -⟩
  · exact ⟨hall.symm ▸ h, Or.inl hall.symm, hfirst⟩
  · exact ⟨hbalanced, Or.inr hrest, hfirst⟩

/-! ## What is yielded -/

/-- Of a text that starts with a subscript of an iterator type and ends in a bracket, the first
argument is taken; every other text is left alone. -/
theorem yieldType_cases (hint : Text) :
    (∃ head inner, namesIterator head = true ∧ trim hint = head ++ '[' :: (inner ++ [']']) ∧
      yieldType hint = trim (firstArgument 0 inner)) ∨
    ((∀ head inner, namesIterator head = true → trim hint ≠ head ++ '[' :: (inner ++ [']'])) ∧
      yieldType hint = trim hint) := by
  cases hcut : cutAt? (· == '[') (trim hint) with
  | none =>
    refine Or.inr ⟨fun head inner hhead htext => ?_, by simp only [yieldType, hcut]⟩
    rw [htext, cutAt?_of_namesIterator _ hhead] at hcut
    exact absurd hcut (by simp)
  | some pair =>
    obtain ⟨head, after⟩ := pair
    have hyield : yieldType hint =
        if (trim hint).getLast? = some ']' && namesIterator head then
          trim (firstArgument 0 after.dropLast)
        else trim hint := by
      simp only [yieldType, hcut]
      rfl
    obtain ⟨c, hc, htext, -⟩ := eq_of_cutAt? hcut
    have hbracket : c = '[' := by simpa using hc
    subst hbracket
    by_cases hsub : (trim hint).getLast? = some ']' ∧ namesIterator head = true
    · obtain ⟨hlast, hhead⟩ := hsub
      have hafter : after = after.dropLast ++ [']'] := by
        rw [htext, List.getLast?_append_of_ne_nil _ (by simp)] at hlast
        obtain ⟨init, hinit⟩ := List.getLast?_eq_some_iff.mp hlast
        cases init with
        | nil => simp at hinit
        | cons d init =>
          rw [List.cons_append, List.cons.injEq] at hinit
          rw [hinit.2, List.dropLast_concat]
      exact Or.inl ⟨head, after.dropLast, hhead, hafter ▸ htext, by simp [hyield, hlast, hhead]⟩
    · refine Or.inr ⟨fun head' inner hhead' htext' => hsub ?_, ?_⟩
      · rw [htext', cutAt?_of_namesIterator _ hhead', Option.some.injEq, Prod.mk.injEq] at hcut
        refine ⟨?_, hcut.1 ▸ hhead'⟩
        rw [htext', ← List.cons_append, ← List.append_assoc, List.getLast?_concat]
      · simp only [hyield, Bool.and_eq_true, decide_eq_true_eq, if_neg hsub]

/-- Of a subscript with closed brackets the first argument is yielded. -/
theorem exists_argument_of_isSubscript {hint head arguments : Text}
    (h : IsSubscript (trim hint) head arguments) :
    ∃ argument, IsFirstArgument arguments argument ∧ yieldType hint = trim argument := by
  rcases yieldType_cases hint with ⟨head', inner, hhead, htext, hyield⟩ | ⟨hnone, -⟩
  · obtain ⟨-, hafter⟩ := subscript_unique h.names hhead (h.split.symm.trans htext)
    rw [← List.append_cancel_right hafter] at hyield
    exact ⟨_, isFirstArgument_firstArgument h.balanced, hyield⟩
  · exact absurd h.split (hnone head arguments h.names)

/-- An annotation that is cut in two does not stay as it is. -/
theorem yieldType_ne_of_closesEarly {hint arguments : Text}
    (h : ClosesEarly (trim hint) arguments) : yieldType hint ≠ trim hint := by
  obtain ⟨head, close, rest, hhead, -, hsplit⟩ := h.split
  rcases yieldType_cases hint with ⟨head', inner, -, htext, hyield⟩ | ⟨hnone, -⟩
  · intro hsame
    have htrim : trim (firstArgument 0 inner) <:+: firstArgument 0 inner :=
      (List.rdropWhile_prefix _ _).isInfix.trans (List.dropWhile_suffix _).isInfix
    have hlength := (htrim.trans (firstArgument_starts 0 inner).isInfix).length_le
    rw [← hyield, hsame, htext] at hlength
    simp only [List.length_append, List.length_cons] at hlength
    omega
  · refine absurd ?_ (hnone head (arguments ++ close :: rest) hhead)
    simpa using hsplit

/-- What an annotation that is cut in two says: its first subscript has one argument only, and the
rest of the annotation follows it, or it has several, and the first of them stands alone. -/
theorem yieldType_of_closesEarly {hint arguments : Text} (h : ClosesEarly (trim hint) arguments) :
    isBalanced (yieldType hint) = false ↔ IsFirstArgument arguments arguments := by
  obtain ⟨head, close, rest, hhead, hclose, hsplit⟩ := h.split
  rcases yieldType_cases hint with ⟨head', inner, hhead', htext, hyield⟩ | ⟨hnone, -⟩
  · obtain ⟨-, hafter⟩ := subscript_unique hhead hhead' (hsplit.symm.trans htext)
    have hinner : inner = arguments ++ close :: rest := by
      apply (List.append_left_inj [']']).mp
      simpa using hafter.symm
    rw [hyield, isBalanced_trim, hinner]
    rcases firstArgument_of_balanced h.balanced with
      ⟨hall, hmore⟩ | ⟨hbalanced, ⟨after, hcomma⟩, hmore⟩
    · have hnot : isBalanced (arguments ++ firstArgument 0 (close :: rest)) = false := by
        have hstays : firstArgument 0 (close :: rest) =
            close :: firstArgument (depthAfter 0 close) rest := by
          rw [firstArgument, if_neg]
          rintro ⟨rfl, -⟩
          exact absurd hclose (by decide)
        rw [hstays]
        exact not_balanced_of_close _ h.balanced hclose
      have hself := isFirstArgument_firstArgument h.balanced
      rw [hall] at hself
      rw [hmore]
      exact ⟨fun _ => hself, fun _ => hnot⟩
    · rw [hmore]
      exact ⟨fun hnot => absurd hbalanced (by simp [hnot]), fun hone => hone.first _ after hcomma⟩
  · refine absurd ?_ (hnone head (arguments ++ close :: rest) hhead)
    simpa using hsplit

/-- An annotation with closed brackets is cut in two, or what is yielded has closed brackets, too,
and no text stays as it is but one that is no subscript. -/
theorem closesEarly_or {hint : Text} (h : isBalanced hint = true) :
    (∃ arguments, ClosesEarly (trim hint) arguments) ∨ SaysYielded hint (yieldType hint) := by
  have htrim : isBalanced (trim hint) = true := (isBalanced_trim hint).trans h
  rcases yieldType_cases hint with ⟨head, inner, hhead, htext, hyield⟩ | ⟨hnone, hyield⟩
  · have hinner : balancedFrom 1 (inner ++ [']']) = true := by
      have hplain : ∀ c ∈ head, isOpening c = false ∧ isClosing c = false :=
        plain_of_namesIterator hhead
      have hhead : balancedFrom 0 head = true := by simp [balancedFrom_of_plain 0 hplain]
      rw [htext, isBalanced, balancedFrom_append _ hhead] at htrim
      simpa [balancedFrom, isOpening] using htrim
    rcases balanced_or_closes hinner with hbalanced | ⟨before, close, after, rfl, hclose, hbefore⟩
    · right
      have hsub : IsSubscript (trim hint) head inner := ⟨hhead, htext, hbalanced⟩
      have hfirst := isFirstArgument_firstArgument hbalanced
      exact ⟨by rw [hyield, isBalanced_trim, hfirst.balanced],
        fun _ _ => exists_argument_of_isSubscript, fun hnot => absurd hsub (hnot head inner)⟩
    · exact Or.inl ⟨before, ⟨head, close, after, hhead, hclose, by simpa using htext⟩, hbefore⟩
  · right
    exact ⟨hyield ▸ htrim, fun _ _ => exists_argument_of_isSubscript, fun _ => hyield⟩

/-- An annotation with closed brackets says what is yielded, unless it starts with a subscript of an
iterator type and ends in another bracket: then it is cut in two, and the brackets of what is left
are closed only if that subscript has several arguments. -/
theorem a_hint_says_what_is_yielded (hint : Text) (h : isBalanced hint = true) :
    (SaysYielded hint (yieldType hint) ↔ ¬∃ arguments, ClosesEarly (trim hint) arguments) ∧
      (isBalanced (yieldType hint) = false ↔
        ∃ arguments, ClosesEarly (trim hint) arguments ∧ IsFirstArgument arguments arguments) := by
  refine ⟨⟨?_, (closesEarly_or h).resolve_left⟩, ?_, ?_⟩
  · rintro hsaid ⟨arguments, hearly⟩
    exact yieldType_ne_of_closesEarly hearly (hsaid.other fun _ _ => hearly.not_isSubscript)
  · intro hnot
    rcases closesEarly_or h with ⟨arguments, hearly⟩ | hsaid
    · exact ⟨arguments, hearly, (yieldType_of_closesEarly hearly).mp hnot⟩
    · rw [hsaid.balanced] at hnot
      exact Bool.noConfusion hnot
  · rintro ⟨arguments, hearly, hone⟩
    exact (yieldType_of_closesEarly hearly).mpr hone

theorem a_generator_says_what_is_yielded :
    let hint := " typing.Generator [dict[str, int] , None, None]".toList
    isBalanced hint = true ∧ SaysYielded hint "dict[str, int]".toList := by
  intro hint
  have hbalanced : isBalanced hint = true := by decide +kernel
  have hyield : yieldType hint = "dict[str, int]".toList := by decide +kernel
  have hsub : IsSubscript (trim hint) "typing.Generator ".toList
      "dict[str, int] , None, None".toList :=
    ⟨by decide +kernel, by decide +kernel, by decide +kernel⟩
  refine ⟨hbalanced, hyield ▸ (a_hint_says_what_is_yielded hint hbalanced).1.mpr ?_⟩
  exact fun ⟨_, hearly⟩ => hearly.not_isSubscript hsub

/-- A union of two iterators is cut in two, and so is one of a generator and another type. -/
theorem a_union_of_iterators_is_cut_in_two :
    let hint := "Iterator[int] | Iterator[str]".toList
    let hint' := "Generator[int, None, None] | list[str]".toList
    (isBalanced hint = true ∧ yieldType hint = "int] | Iterator[str".toList ∧
      ¬SaysYielded hint (yieldType hint)) ∧
    (isBalanced hint' = true ∧ yieldType hint' = "int".toList ∧
      ¬SaysYielded hint' (yieldType hint')) := by
  refine ⟨⟨by decide +kernel, by decide +kernel, fun h => ?_⟩, by decide +kernel,
    by decide +kernel, fun h => ?_⟩
  · exact absurd h.balanced (by decide +kernel)
  · have hearly : ClosesEarly (trim "Generator[int, None, None] | list[str]".toList)
        "int, None, None".toList :=
      ⟨⟨"Generator".toList, ']', " | list[str".toList, by decide +kernel⟩, by decide +kernel⟩
    exact absurd (h.other fun _ _ => hearly.not_isSubscript) (by decide +kernel)

end Docstring.Hint
