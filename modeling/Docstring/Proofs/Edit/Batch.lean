-- Edits of many files: what is reported about them and what is made of them agree, file by file.
-- The report looks at every pair of edits of a file, from the first to the last; making the edits
-- looks at neighbours only, from the last to the first.
import Docstring.Edit.Batch
import Docstring.Proofs.Edit.Application
import Mathlib.Data.List.Perm.Basic

namespace Docstring

/-! ## Lists without repeats -/

section Repeats

variable {α : Type} [BEq α]

theorem eraseReps_loop (a : α) (l acc : List α) :
    List.eraseRepsBy.loop (· == ·) a l acc =
      acc.reverse ++ List.eraseRepsBy.loop (· == ·) a l [] := by
  induction l generalizing a acc with
  | nil => simp [List.eraseRepsBy.loop]
  | cons b l ih =>
    cases hab : a == b with
    | true => simp only [List.eraseRepsBy.loop, hab, ih a acc]
    | false => simp only [List.eraseRepsBy.loop, hab, ih b (a :: acc), ih b [a]]; simp

/-- Of neighbours that are equal the first one stays. -/
theorem eraseReps_cons_cons (a b : α) (l : List α) :
    (a :: b :: l).eraseReps = if a == b then (a :: l).eraseReps else a :: (b :: l).eraseReps := by
  cases hab : a == b with
  | true => simp only [List.eraseReps, List.eraseRepsBy, List.eraseRepsBy.loop, hab, if_true]
  | false =>
    simp only [List.eraseReps, List.eraseRepsBy, List.eraseRepsBy.loop, hab]
    rw [eraseReps_loop b l [a]]
    simp

end Repeats

theorem mem_eraseReps {a : Nat} {l : List Nat} : a ∈ l.eraseReps ↔ a ∈ l := by
  induction l with
  | nil => rfl
  | cons b l ih =>
    cases l with
    | nil => rfl
    | cons c l =>
      rw [eraseReps_cons_cons]
      by_cases hbc : b = c
      · subst hbc
        simp [ih]
      · simp [hbc, ih]

theorem pairwise_lt_eraseReps {l : List Nat} (h : l.Pairwise (· ≤ ·)) :
    l.eraseReps.Pairwise (· < ·) := by
  induction l with
  | nil => exact .nil
  | cons b l ih =>
    cases l with
    | nil => exact List.pairwise_singleton ..
    | cons c l =>
      rw [eraseReps_cons_cons]
      have htail := ih h.of_cons
      by_cases hbc : b = c
      · subst hbc
        simpa using htail
      · rw [if_neg (by simpa using hbc), List.pairwise_cons]
        refine ⟨fun x hx => ?_, htail⟩
        have hhead := List.pairwise_cons.mp h
        have hrest := List.pairwise_cons.mp hhead.2
        have hc : b ≤ c := hhead.1 c (by simp)
        rcases List.mem_cons.mp (mem_eraseReps.mp hx) with rfl | hx
        · omega
        · have hcx : c ≤ x := hrest.1 x hx
          omega

/-! ## Pairs -/

/-- Every element of a list with every later one. -/
def pairs {α : Type} : List α → List (α × α)
  | [] => []
  | a :: l => l.map (fun b => (a, b)) ++ pairs l

section Pairs

variable {α β : Type} {l l' : List α}

theorem mem_pairs {a b : α} : (a, b) ∈ pairs l ↔ [a, b].Sublist l := by
  induction l with
  | nil => simp [pairs]
  | cons c l ih =>
    rw [pairs, List.mem_append, ih, List.sublist_cons_iff, or_comm]
    simp [eq_comm, and_comm]

/-- What is said about pairs without regard to their order does not depend on the order of the
list. -/
theorem pairs_perm {f : α → α → Option β} (hf : ∀ a b, f a b = f b a) (h : l.Perm l') :
    ((pairs l).filterMap fun p => f p.1 p.2).Perm ((pairs l').filterMap fun p => f p.1 p.2) := by
  have hcons : ∀ (a : α) (l : List α), ((pairs (a :: l)).filterMap fun p => f p.1 p.2) =
      l.filterMap (f a) ++ (pairs l).filterMap fun p => f p.1 p.2 := by
    intro a l
    rw [pairs, List.filterMap_append, List.filterMap_map]
    rfl
  induction h with
  | nil => exact .refl _
  | cons a hperm ih =>
    rw [hcons, hcons]
    exact (hperm.filterMap _).append ih
  | swap a b l =>
    simp only [hcons, List.filterMap_cons, hf a b]
    cases f b a with
    | none =>
      simp only [← List.append_assoc]
      exact List.perm_append_comm.append_right _
    | some c =>
      simp only [List.cons_append, ← List.append_assoc]
      exact (List.perm_append_comm.append_right _).cons c
  | trans _ _ ih ih' => exact ih.trans ih'

end Pairs

namespace EditBatch

open Edit

variable {batch : EditBatch} {texts : FileTexts} {file : Nat}

/-! ## Files -/

theorem mem_files : file ∈ batch.files ↔ ∃ e ∈ batch.edits, e.file = file := by
  rw [files, mem_eraseReps, List.mem_mergeSort, List.mem_map]

theorem files_ascend (batch : EditBatch) : batch.files.Pairwise (· < ·) := by
  apply pairwise_lt_eraseReps
  have hsorted : ((batch.edits.map Edit.file).mergeSort fun a b => a ≤ b).Pairwise
      fun a b => decide (a ≤ b) = true :=
    List.pairwise_mergeSort (fun a b c => by simpa using Nat.le_trans)
      (fun a b => by simpa using Nat.le_total a b) _
  simpa using hsorted

theorem mem_editsOf {e : Edit} : e ∈ batch.editsOf file ↔ e ∈ batch.edits ∧ e.file = file := by
  rw [editsOf, (perm_ascending _).mem_iff, List.mem_filter, decide_eq_true_eq]

/-- The files that were edited are those with a text. -/
theorem map_fst_apply (batch : EditBatch) (texts : FileTexts) :
    (batch.apply texts).map Prod.fst =
      batch.files.filter fun file => (texts.lookup file).isSome := by
  rw [apply]
  induction batch.files with
  | nil => rfl
  | cons file files ih =>
    rw [List.filterMap_cons, List.filter_cons]
    cases texts.lookup file with
    | none => exact ih
    | some t => exact congrArg (file :: ·) ih

/-- What becomes of one file is said by its text and its edits. -/
theorem lookup_apply (batch : EditBatch) (texts : FileTexts) (file : Nat) :
    (batch.apply texts).lookup file =
      if file ∈ batch.files then
        (texts.lookup file).map fun t => applyAll t (batch.editsOf file)
      else none := by
  rw [apply]
  induction batch.files with
  | nil => rfl
  | cons x files ih =>
    by_cases hx : file = x
    · subst hx
      cases htext : texts.lookup file with
      | none => simp [htext, ih]
      | some t => simp [htext]
    · cases htext : texts.lookup x with
      | none => simp [htext, ih, hx]
      | some t => simp [htext, ih, hx, List.lookup_cons, beq_false_of_ne hx]

/-- Edited and missing files, each once and in increasing order, are the files with edits. -/
structure Splits (batch : EditBatch) (texts : FileTexts) (edited missing : List Nat) : Prop where
  edited_ascend : edited.Pairwise (· < ·)
  missing_ascend : missing.Pairwise (· < ·)
  disjoint : edited.Disjoint missing
  covered : ∀ file, (∃ e ∈ batch.edits, e.file = file) ↔ file ∈ edited ∨ file ∈ missing
  known : ∀ file ∈ edited, (texts.lookup file).isSome = true
  unknown : ∀ file ∈ missing, texts.lookup file = none

theorem splits_files (batch : EditBatch) (texts : FileTexts) :
    batch.Splits texts ((batch.apply texts).map Prod.fst)
      (batch.files.filter fun file => (texts.lookup file).isNone) := by
  rw [map_fst_apply]
  refine ⟨batch.files_ascend.filter _, batch.files_ascend.filter _, ?_, ?_, ?_, ?_⟩
  · intro file hedited hmissing
    have hsome := (List.mem_filter.mp hedited).2
    have hnone := (List.mem_filter.mp hmissing).2
    cases hlookup : texts.lookup file with
    | none => simp [hlookup] at hsome
    | some t => simp [hlookup] at hnone
  · intro file
    rw [← mem_files, List.mem_filter, List.mem_filter]
    cases texts.lookup file <;> simp
  · exact fun file hedited => (List.mem_filter.mp hedited).2
  · intro file hmissing
    simpa using (List.mem_filter.mp hmissing).2

/-! ## Conflicts -/

/-- The conflict of two edits: that they overlap in one file. The span that comes first is named
first. -/
def conflict? (e f : Edit) : Option Conflict :=
  if e.file = f.file ∧ e.span.overlaps f.span = true then
    some (if before e.span f.span then .overlapping e.file e.span f.span
      else .overlapping e.file f.span e.span)
  else none

/-- The conflicts of the pairs of a list. -/
def conflictsAmong (edits : List Edit) : List Conflict :=
  (pairs edits).filterMap fun p => conflict? p.1 p.2

variable {e f : Edit} {edits edits' : List Edit}

theorem conflict?_comm (e f : Edit) : conflict? e f = conflict? f e := by
  have hoverlaps := Span.overlaps_comm f.span e.span
  have htotal := before_total e.span f.span
  by_cases hfile : e.file = f.file
  · simp only [conflict?, hfile, hoverlaps]
    cases hef : before e.span f.span with
    | false =>
      have hfe : before f.span e.span = true := by simpa [hef] using htotal
      simp [hfe]
    | true =>
      cases hfe : before f.span e.span with
      | false => simp
      | true => simp [before_antisymm hef hfe]
  · simp [conflict?, hfile, Ne.symm hfile]

theorem conflictsAmong_perm (h : edits.Perm edits') :
    (conflictsAmong edits).Perm (conflictsAmong edits') :=
  pairs_perm conflict?_comm h

theorem conflict?_of_file_ne (h : e.file ≠ f.file) : conflict? e f = none :=
  if_neg fun hclash => h hclash.1

theorem conflictsAmong_cons (e : Edit) (edits : List Edit) :
    conflictsAmong (e :: edits) = edits.filterMap (conflict? e) ++ conflictsAmong edits := by
  rw [conflictsAmong, pairs, List.filterMap_append, List.filterMap_map]
  rfl

/-- On sorted edits of one file, each is compared with the later ones. -/
theorem clashes_eq (hfile : ∀ e ∈ edits, e.file = file)
    (hsorted : edits.Pairwise fun a b => before a.span b.span = true) :
    clashes file edits = conflictsAmong edits := by
  induction edits with
  | nil => rfl
  | cons e edits ih =>
    rw [List.pairwise_cons] at hsorted
    have he : e.file = file := hfile e (by simp)
    have hhead : ∀ f ∈ edits, conflict? e f =
        if e.span.overlaps f.span then some (.overlapping file e.span f.span) else none := by
      intro f hf
      have hsame : e.file = f.file := he.trans (hfile f (by simp [hf])).symm
      simp only [conflict?, hsame, hsorted.1 f hf, true_and, if_true, ← he]
    rw [conflictsAmong_cons, clashes, ih (fun f hf => hfile f (by simp [hf])) hsorted.2,
      List.filterMap_congr hhead, ← List.filterMap_eq_map, List.filterMap_filter]
    simp only [Function.comp_apply]

theorem clashes_editsOf (batch : EditBatch) (file : Nat) :
    (clashes file (batch.editsOf file)).Perm
      (conflictsAmong (batch.edits.filter fun e => e.file = file)) := by
  rw [clashes_eq (fun e he => (mem_editsOf.mp he).2) (sorted_ascending _)]
  exact conflictsAmong_perm (perm_ascending _)

theorem flatMap_ite_eq {α : Type} {files : List Nat} {l : List α} (h : files.Nodup)
    (hmem : file ∈ files) : (files.flatMap fun x => if file = x then l else []) = l := by
  induction files with
  | nil => simp at hmem
  | cons x files ih =>
    rw [List.nodup_cons] at h
    rw [List.flatMap_cons]
    by_cases hx : file = x
    · subst hx
      have hrest : ∀ x ∈ files, (if file = x then l else []) = [] := by
        intro x hx
        have hne : file ≠ x := fun hsame => h.1 (hsame ▸ hx)
        exact if_neg hne
      rw [if_pos rfl, List.flatMap_eq_nil_iff.mpr hrest, List.append_nil]
    · rw [if_neg hx, List.nil_append, ih h.2 (List.mem_of_ne_of_mem hx hmem)]

/-- The conflicts of a list, file by file. -/
theorem flatMap_conflictsAmong {files : List Nat} (hfiles : files.Nodup)
    (h : ∀ e ∈ edits, e.file ∈ files) :
    (files.flatMap fun file => conflictsAmong (edits.filter fun e => e.file = file)).Perm
      (conflictsAmong edits) := by
  induction edits with
  | nil => simp [conflictsAmong, pairs]
  | cons e edits ih =>
    -- only in its own file does the first edit meet others
    have hothers : ∀ file, conflictsAmong ((e :: edits).filter fun e => e.file = file) =
        (if e.file = file then edits.filterMap (conflict? e) else []) ++
          conflictsAmong (edits.filter fun e => e.file = file) := by
      intro file
      by_cases hfile : e.file = file
      · have hkept : (edits.filter fun e => e.file = file).filterMap (conflict? e) =
            edits.filterMap (conflict? e) := by
          rw [List.filterMap_filter]
          refine List.filterMap_congr fun f _ => ?_
          by_cases hf : f.file = file
          · simp [hf]
          · have hne : e.file ≠ f.file := fun hsame => hf (hsame.symm.trans hfile)
            simp [hf, conflict?_of_file_ne hne]
        rw [List.filter_cons_of_pos (by simpa using hfile), conflictsAmong_cons, hkept,
          if_pos hfile]
      · rw [List.filter_cons_of_neg (by simpa using hfile), if_neg hfile, List.nil_append]
    simp only [hothers]
    refine (List.flatMap_append_perm _ _ _).symm.trans ?_
    rw [flatMap_ite_eq hfiles (h e (by simp)), conflictsAmong_cons]
    exact (ih fun f hf => h f (by simp [hf])).append_left _

/-- Every overlapping pair is reported once. -/
theorem conflicts_perm (batch : EditBatch) :
    batch.conflicts.Perm (conflictsAmong batch.edits) := by
  have hfiles : batch.files.Nodup := batch.files_ascend.imp fun h => Nat.ne_of_lt h
  refine .trans ?_ (flatMap_conflictsAmong hfiles fun e he => mem_files.mpr ⟨e, he, rfl⟩)
  exact List.Perm.flatMap_left _ fun file _ => clashes_editsOf batch file

theorem of_conflict?_eq_some {a b : Span} (h : conflict? e f = some (.overlapping file a b)) :
    e.file = file ∧ e.span.overlaps f.span = true := by
  unfold conflict? at h
  split at h
  · rename_i hclash
    have hfile : e.file = file := by split at h <;> simp_all
    exact ⟨hfile, hclash.2⟩
  · exact absurd h (by simp)

theorem mem_conflictsAmong {c : Conflict} :
    c ∈ conflictsAmong edits ↔ ∃ e f, [e, f].Sublist edits ∧ conflict? e f = some c := by
  simp [conflictsAmong, mem_pairs]

/-- The conflicts of one file are those among its edits. -/
theorem mem_conflicts {a b : Span} : .overlapping file a b ∈ batch.conflicts ↔
    .overlapping file a b ∈ conflictsAmong (batch.editsOf file) := by
  have hclashes : ∀ x, clashes x (batch.editsOf x) = conflictsAmong (batch.editsOf x) :=
    fun x => clashes_eq (fun e he => (mem_editsOf.mp he).2) (sorted_ascending _)
  simp only [conflicts, hclashes, List.mem_flatMap]
  -- a conflict is of the file that its first edit is of
  have hedit : ∀ x, .overlapping file a b ∈ conflictsAmong (batch.editsOf x) →
      x = file ∧ x ∈ batch.files := by
    intro x hreport
    obtain ⟨e, f, hpair, hconflict⟩ := mem_conflictsAmong.mp hreport
    have he := mem_editsOf.mp (hpair.subset (by simp : e ∈ [e, f]))
    exact ⟨he.2.symm.trans (of_conflict?_eq_some hconflict).1, mem_files.mpr ⟨e, he⟩⟩
  constructor
  · rintro ⟨x, _, hreport⟩
    obtain ⟨rfl, _⟩ := hedit x hreport
    exact hreport
  · intro hreport
    exact ⟨file, (hedit file hreport).2, hreport⟩

/-- Edits of one file keep apart exactly when there are no conflicts among them. -/
theorem noneOverlap_iff (hfile : ∀ e ∈ edits, e.file = file) :
    NoneOverlap edits ↔ ∀ a b, .overlapping file a b ∉ conflictsAmong edits := by
  rw [NoneOverlap, List.pairwise_iff_forall_sublist]
  constructor
  · intro hapart a b hreport
    obtain ⟨e, f, hpair, hconflict⟩ := mem_conflictsAmong.mp hreport
    have hclash := (of_conflict?_eq_some hconflict).2
    rw [hapart hpair] at hclash
    exact absurd hclash (by simp)
  · intro hnone e f hpair
    by_contra hclash
    rw [Bool.not_eq_false] at hclash
    have he : e.file = file := hfile e (hpair.subset (by simp))
    have hf : f.file = file := hfile f (hpair.subset (by simp))
    obtain ⟨a, b, hconflict⟩ : ∃ a b, conflict? e f = some (.overlapping file a b) := by
      rw [conflict?, if_pos ⟨he.trans hf.symm, hclash⟩, he]
      split
      · exact ⟨_, _, rfl⟩
      · exact ⟨_, _, rfl⟩
    exact hnone a b (mem_conflictsAmong.mpr ⟨e, f, hpair, hconflict⟩)

/-- The clash that stops an application is a conflict. -/
theorem mem_conflictsAmong_of_clash? {a b : Span} (hfile : ∀ e ∈ edits, e.file = file)
    (hsorted : edits.Pairwise fun later earlier => before earlier.span later.span = true)
    (h : clash? edits = some (.overlapping a b)) :
    .overlapping file a b ∈ conflictsAmong edits := by
  induction edits with
  | nil => simp [clash?] at h
  | cons later rest ih =>
    cases rest with
    | nil => simp [clash?] at h
    | cons earlier rest =>
      cases hclash : later.span.overlaps earlier.span with
      | false =>
        rw [clash?, hclash, if_neg (by simp)] at h
        have hrest := ih (fun e he => hfile e (by simp [he])) hsorted.of_cons h
        rw [conflictsAmong_cons]
        exact List.mem_append_right _ hrest
      | true =>
        rw [clash?, hclash, if_pos rfl, Option.some.injEq, EditError.overlapping.injEq] at h
        obtain ⟨rfl, rfl⟩ := h
        have hlater : later.file = file := hfile later (by simp)
        have hearlier : earlier.file = file := hfile earlier (by simp)
        have hbefore : before earlier.span later.span = true :=
          (List.pairwise_cons.mp hsorted).1 earlier (by simp)
        have hconflict : conflict? later earlier =
            some (.overlapping file earlier.span later.span) := by
          rw [conflict?_comm, conflict?, Span.overlaps_comm,
            if_pos ⟨hearlier.trans hlater.symm, hclash⟩, if_pos hbefore, hearlier]
        exact mem_conflictsAmong.mpr ⟨later, earlier, by simp, hconflict⟩

/-! ## Report and application -/

theorem clash?_eq_overlapping {edits : List Edit} {error : EditError}
    (h : clash? edits = some error) : ∃ a b, error = .overlapping a b := by
  induction edits with
  | nil => simp [clash?] at h
  | cons later rest ih =>
    cases rest with
    | nil => simp [clash?] at h
    | cons earlier rest =>
      rw [clash?] at h
      split at h
      · exact ⟨_, _, (Option.some.inj h).symm⟩
      · exact ih h

/-- Edits that fit are made, or two of them are in conflict and named. -/
theorem applyAll_of_conflicts {t : Text} (hfile : ∀ e ∈ edits, e.file = file)
    (hfits : ∀ e ∈ edits, e.span.Fits t) :
    (∃ new, applyAll t edits = .ok new ∧ ∀ a b, .overlapping file a b ∉ conflictsAmong edits) ∨
      ∃ a b, applyAll t edits = .error (.overlapping a b) ∧
        .overlapping file a b ∈ conflictsAmong edits := by
  by_cases hapart : NoneOverlap edits
  · obtain ⟨new, hnew⟩ := applyAll_eq_ok_iff.mpr ⟨hfits, hapart⟩
    exact .inl ⟨new, hnew, (noneOverlap_iff hfile).mp hapart⟩
  · have hperm := perm_descending edits
    have hsorted := isDescending_descending fun e he => (hfits e he).ordered
    rw [← pairwise_follows_iff fun e he => (hfits e he).ordered,
      ← hsorted.clash?_eq_none_iff, ← ne_eq, Option.ne_none_iff_exists'] at hapart
    obtain ⟨error, herror⟩ := hapart
    obtain ⟨a, b, rfl⟩ := clash?_eq_overlapping herror
    refine .inr ⟨a, b, ?_, ?_⟩
    · rw [applyAll_of_fits hfits, herror]
    · rw [← (conflictsAmong_perm hperm).mem_iff]
      exact mem_conflictsAmong_of_clash? (fun e he => hfile e (hperm.mem_iff.mp he))
        hsorted.sorted herror

/-- What is reported about a batch and what is made of it agree. Each file with edits has a result
or is missing; the result depends on that file alone; every overlapping pair of edits of one file
is reported once; and where all spans fit the text, an application fails exactly over a reported
pair. -/
theorem report_and_results_agree (batch : EditBatch) (texts : FileTexts) :
    (∃ absent, batch.missing texts = absent.map Conflict.missing ∧
      batch.Splits texts ((batch.apply texts).map Prod.fst) absent) ∧
    (∀ (batch' : EditBatch) (texts' : FileTexts) file, texts'.lookup file = texts.lookup file →
      (batch'.edits.filter fun e => e.file = file) = (batch.edits.filter fun e => e.file = file) →
        (batch'.apply texts').lookup file = (batch.apply texts).lookup file) ∧
    batch.conflicts.Perm ((pairs batch.edits).filterMap fun p => conflict? p.1 p.2) ∧
    ∀ file t, (∃ e ∈ batch.edits, e.file = file) → texts.lookup file = some t →
      (∀ e ∈ batch.edits, e.file = file → e.span.Fits t) →
        let result := (batch.apply texts).lookup file
        ((∃ a b, result = some (.error (.overlapping a b))) ↔
          ∃ a b, .overlapping file a b ∈ batch.conflicts) ∧
        ((∃ new, result = some (.ok new)) ↔ ∀ a b, .overlapping file a b ∉ batch.conflicts) ∧
        ∀ a b, result = some (.error (.overlapping a b)) →
          .overlapping file a b ∈ batch.conflicts := by
  refine ⟨⟨_, rfl, batch.splits_files texts⟩, ?_, batch.conflicts_perm, ?_⟩
  · intro batch' texts' file htext hedits
    have hfiles : file ∈ batch'.files ↔ file ∈ batch.files := by
      have hmem : ∀ b : EditBatch, file ∈ b.files ↔ (b.edits.filter fun e => e.file = file) ≠ [] :=
        fun b => by simp [mem_files]
      rw [hmem, hmem, hedits]
    simp only [lookup_apply, htext, hfiles, editsOf, hedits]
  · intro file t hfile htext hfits result
    have hresult : result = some (applyAll t (batch.editsOf file)) := by
      rw [show result = (batch.apply texts).lookup file from rfl, lookup_apply,
        if_pos (mem_files.mpr hfile), htext]
      rfl
    simp only [hresult, Option.some.injEq, mem_conflicts]
    have hof : ∀ e ∈ batch.editsOf file, e.file = file := fun e he => (mem_editsOf.mp he).2
    have hfit : ∀ e ∈ batch.editsOf file, e.span.Fits t := fun e he =>
      hfits e (mem_editsOf.mp he).1 (mem_editsOf.mp he).2
    rcases applyAll_of_conflicts hof hfit with ⟨new, hnew, hnone⟩ | ⟨a, b, herror, hreport⟩
    · simp [hnew, hnone]
    · simp only [herror, Except.error.injEq, EditError.overlapping.injEq, reduceCtorEq,
        exists_false, false_iff]
      refine ⟨⟨fun _ => ⟨a, b, hreport⟩, fun _ => ⟨a, b, rfl, rfl⟩⟩,
        fun hnone => hnone a b hreport, ?_⟩
      rintro a' b' ⟨rfl, rfl⟩
      exact hreport

/-- Edits of three files, listed in no order. Those of file 2 are a replacement, another one that
starts inside it, and an insertion inside the second. -/
def specimen : EditBatch where
  edits :=
    [{ file := 2, span := ⟨4, 4⟩, text := "x".toList },
      { file := 0, span := ⟨2, 2⟩, text := "b".toList },
      { file := 1, span := ⟨0, 1⟩, text := [] },
      { file := 2, span := ⟨0, 3⟩, text := "y".toList },
      { file := 0, span := ⟨0, 2⟩, text := "a".toList },
      { file := 2, span := ⟨2, 6⟩, text := "z".toList }]

theorem one_file_is_edited_one_missing_and_one_in_conflict :
    let texts : FileTexts := [(0, "éc".toList), (2, "abcdefgh".toList)]
    specimen.conflicts.Perm [.overlapping 2 ⟨2, 6⟩ ⟨4, 4⟩, .overlapping 2 ⟨0, 3⟩ ⟨2, 6⟩] ∧
      .missing 1 ∈ specimen.missing texts ∧
      (∃ new, (specimen.apply texts).lookup 0 = some (.ok new)) ∧
      ∃ a b, (specimen.apply texts).lookup 2 = some (.error (.overlapping a b)) := by
  intro texts
  obtain ⟨⟨absent, hmissing, hsplits⟩, -, hconflicts, hresults⟩ :=
    report_and_results_agree specimen texts
  have hpairs : ((pairs specimen.edits).filterMap fun p => conflict? p.1 p.2) =
      [.overlapping 2 ⟨2, 6⟩ ⟨4, 4⟩, .overlapping 2 ⟨0, 3⟩ ⟨2, 6⟩] := by decide
  rw [hpairs] at hconflicts
  refine ⟨hconflicts, ?_, ?_, ?_⟩
  · have habsent : 1 ∈ absent := by
      refine ((hsplits.covered 1).mp (by decide)).resolve_left fun hedited => ?_
      exact absurd (hsplits.known 1 hedited) (by decide)
    rw [hmissing]
    exact List.mem_map_of_mem habsent
  · refine (hresults 0 "éc".toList (by decide) rfl (by decide)).2.1.mpr fun a b hreport => ?_
    simpa using hconflicts.mem_iff.mp hreport
  · refine (hresults 2 "abcdefgh".toList (by decide) rfl (by decide)).1.mpr ?_
    exact ⟨_, _, hconflicts.mem_iff.mpr List.mem_cons_self⟩

end EditBatch

end Docstring
