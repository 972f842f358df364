-- The diff of a list of edits against what making them writes. Replaying the hunks on the old lines
-- gives the new lines, with one exception: text that is inserted below whole lines at the end of
-- the file gets a hunk of its own, although it goes on the last line if another edit took the
-- newline of that line away.
import Docstring.Proofs.Edit.Window
import Docstring.Proofs.Text.Position

namespace Docstring

open Text

namespace Hunk

open Edit

/-! ## Replaying hunks -/

/-- Hunks with the numbers of the lines where their new lines start, after earlier hunks have added
`delta` lines. -/
def place (delta : Int) : List Hunk → List (Hunk × Nat)
  | [] => []
  | h :: rest =>
    (h, ((h.start : Int) + delta).toNat) :: place (delta + h.added.length - h.removed.length) rest

/-- `Replayed n m lines hunks new`: from line `n` of a file on stand `lines`, and the hunks turn
them into `new`, which stand from line `m` on. Each hunk finds its old lines where it says, and its
new lines come to stand where it says. -/
inductive Replayed : Nat → Nat → List Line → List (Hunk × Nat) → List Line → Prop
  | rest (n m : Nat) (lines : List Line) : Replayed n m lines [] lines
  | hunk {n m newStart : Nat} {gap below new : List Line} {h : Hunk} {hunks : List (Hunk × Nat)}
      (hold : n + gap.length = h.start)
      (hnew : m + gap.length = newStart)
      (hrest : Replayed (h.start + h.removed.length) (newStart + h.added.length) below hunks new) :
      Replayed n m (gap ++ h.removed ++ below) ((h, newStart) :: hunks) (gap ++ h.added ++ new)

/-- Hunks can be replayed in one way only. -/
theorem Replayed.unique {n m : Nat} {lines new new' : List Line} {hunks : List (Hunk × Nat)}
    (h : Replayed n m lines hunks new) (h' : Replayed n m lines hunks new') : new = new' := by
  induction h generalizing new' with
  | rest => cases h'; rfl
  | @hunk n m newStart gap below new h hunks hold hnew _ ih =>
    generalize hlines : gap ++ h.removed ++ below = lines at h'
    cases h' with
    | @hunk _ _ _ gap' below' new' _ _ hold' _ hrest' =>
      rw [List.append_assoc, List.append_assoc] at hlines
      obtain ⟨rfl, htail⟩ := List.append_inj hlines (by omega)
      obtain rfl := List.append_cancel_left htail
      rw [ih hrest']

/-- Lines above those that change stay. -/
theorem Replayed.shift {n m : Nat} {above lines new : List Line} {hunks : List (Hunk × Nat)}
    (h : Replayed (n + above.length) (m + above.length) lines hunks new) :
    Replayed n m (above ++ lines) hunks (above ++ new) := by
  cases h with
  | rest => exact .rest _ _ _
  | @hunk _ _ newStart gap below new h hunks hold hnew hrest =>
    have hshift : Replayed n m (above ++ gap ++ h.removed ++ below) ((h, newStart) :: hunks)
        (above ++ gap ++ h.added ++ new) :=
      .hunk (by rw [List.length_append]; omega) (by rw [List.length_append]; omega) hrest
    simpa using hshift

/-- A last hunk that adds lines below all others. -/
theorem Replayed.concat {n m : Nat} {delta : Int} {lines new : List Line} {hunks : List Hunk}
    (added : List Line) (h : Replayed n m lines (place delta hunks) new) (hm : n + delta = m) :
    Replayed n m lines (place delta (hunks ++ [⟨n + lines.length, [], added⟩])) (new ++ added) := by
  induction hunks generalizing n m delta lines new with
  | nil =>
    cases h
    have hnew : m + lines.length = (((n + lines.length : Nat) : Int) + delta).toNat := by omega
    have hadded : Replayed n m (lines ++ [] ++ [])
        (place delta [⟨n + lines.length, [], added⟩]) (lines ++ added ++ []) :=
      .hunk (h := ⟨n + lines.length, [], added⟩) rfl hnew (.rest _ _ _)
    simpa using hadded
  | cons hunk hunks ih =>
    rw [place] at h
    cases h with
    | @hunk _ _ _ gap below new _ _ hold hnew hrest =>
      have hrest' := ih hrest (by push_cast; omega)
      have hlength : n + (gap ++ hunk.removed ++ below).length =
          hunk.start + hunk.removed.length + below.length := by
        simp only [List.length_append]
        omega
      rw [List.cons_append, place, hlength, List.append_assoc (gap ++ hunk.added)]
      exact .hunk hold hnew hrest'

/-! ## What the diff prints -/

/-- The lines of one hunk: where it stands in the old and in the new lines, how many lines it
replaces by how many, then the old lines and the new ones. -/
def placedLines (p : Hunk × Nat) : List String :=
  ("@@ -" ++ Nat.repr p.1.start ++ "," ++ Nat.repr p.1.removed.length ++ " +" ++ Nat.repr p.2 ++
      "," ++ Nat.repr p.1.added.length ++ " @@") ::
    ((p.1.removed.map fun line => "-" ++ line.asString) ++
      p.1.added.map fun line => "+" ++ line.asString)

/-- A unified diff with the given hunks. -/
def printed (file : String) (hunks : List (Hunk × Nat)) : String :=
  if hunks.isEmpty then ""
  else
    String.join ((("--- a/" ++ file) :: ("+++ b/" ++ file) :: hunks.flatMap placedLines).map
      fun line => line ++ "\n")

theorem diffAll_eq (delta : Int) (hunks : List Hunk) :
    diffAll delta hunks = (place delta hunks).flatMap placedLines := by
  induction hunks generalizing delta with
  | nil => rfl
  | cons h hunks ih =>
    rw [diffAll, ih, place, List.flatMap_cons]
    rfl

theorem unifiedDiff_eq (file : String) (hunks : List Hunk) :
    unifiedDiff file hunks = printed file (place 0 hunks) := by
  unfold unifiedDiff printed
  rw [diffAll_eq]
  cases hunks <;> rfl

theorem unifiedDiff_eq_empty_iff {file : String} {hunks : List Hunk} :
    unifiedDiff file hunks = "" ↔ hunks = [] := by
  cases hunks with
  | nil => simp [unifiedDiff]
  | cons h hunks =>
    simp only [unifiedDiff, List.isEmpty_cons, Bool.false_eq_true, if_false, reduceCtorEq,
      iff_false]
    intro hnil
    have hlength := congrArg String.length hnil
    simp at hlength

/-! ## The hunk of a window -/

/-- The hunk of a block that starts at a line, unless nothing changes in it. -/
def hunkOf? (start : Nat) (old block : Text) : Option Hunk :=
  if block = old then none else some ⟨start, terminatedLines old, terminatedLines block⟩

theorem newBlock?_of_replaced {t above old below block : Text} {cursor last : Nat}
    {edits : List Edit} (h : Replaced cursor old edits block) (ht : t = above ++ old ++ below)
    (habove : byteLength above = cursor) (hlast : cursor + byteLength old = last) :
    newBlock? t last cursor edits = some block := by
  induction h generalizing above with
  | rest cursor old =>
    rw [newBlock?, ht, ← hlast, ← habove]
    exact slice?_append above old below
  | @edit cursor gap within rest new e edits hfirst hend _ ih =>
    have hgap : byteLength (above ++ gap ++ within) = e.span.last := by
      simp only [byteLength_append]
      omega
    have hslice : slice? t cursor e.span.first = some gap := by
      have hcut := slice?_append above gap (within ++ rest ++ below)
      rw [habove, hfirst] at hcut
      rw [ht, ← hcut]
      simp
    have hrest : newBlock? t last e.span.last edits = some new := by
      refine ih ?_ hgap ?_
      · rw [ht]
        simp
      · simp only [byteLength_append] at hlast
        omega
    simp [newBlock?, hslice, hrest]

theorem ofWindow?_of_replaced {t above old below block : Text} {w : Window}
    (h : Replaced w.first old w.edits block) (ht : t = above ++ old ++ below)
    (hfirst : byteLength above = w.first) (hlast : w.first + byteLength old = w.last) :
    ofWindow? t w = some (hunkOf? (1 + above.count '\n') old block) := by
  have hold := slice?_append above old below
  rw [hfirst, hlast, ← ht] at hold
  have hnew := newBlock?_of_replaced h ht hfirst hlast
  have hline := line_position_append above (old ++ below)
  rw [← List.append_assoc, ← ht, hfirst] at hline
  simp only [ofWindow?, hold, hnew, hline, hunkOf?, Option.bind_eq_bind, Option.bind_some]
  split <;> rfl

theorem filterMap_id_cons {α : Type} (x : Option α) (xs : List (Option α)) :
    (x :: xs).filterMap id = x.toList ++ xs.filterMap id := by
  cases x <;> rfl

/-- A block of whole lines, and what is left to replay below it. -/
theorem Replayed.block {n m : Nat} {delta : Int} {old block : Text} {below new : List Line}
    {hunks : List Hunk} (hm : n + delta = m)
    (h : ∀ delta' : Int,
      (n + (terminatedLines old).length : Nat) + delta' =
        (m + (terminatedLines block).length : Nat) →
      Replayed (n + (terminatedLines old).length) (m + (terminatedLines block).length) below
        (place delta' hunks) new) :
    Replayed n m (terminatedLines old ++ below)
      (place delta ((hunkOf? n old block).toList ++ hunks)) (terminatedLines block ++ new) := by
  unfold hunkOf?
  split
  · rename_i hsame
    rw [hsame] at h ⊢
    exact (h delta (by push_cast; omega)).shift
  · have hrest := h (delta + (terminatedLines block).length - (terminatedLines old).length)
      (by push_cast; omega)
    have hnew : ((n : Int) + delta).toNat = m := by omega
    rw [Option.toList_some, List.singleton_append, place, hnew]
    change Replayed n m ([] ++ terminatedLines old ++ below) _ ([] ++ terminatedLines block ++ new)
    exact .hunk (h := ⟨n, terminatedLines old, terminatedLines block⟩) rfl (by rfl) hrest

/-- Where a block and what is below it are cut, their lines are cut, too. -/
theorem terminatedLines_of_ends {old below : Text} (h : IsWhole old ∨ below = []) :
    terminatedLines (old ++ below) = terminatedLines old ++ terminatedLines below := by
  rcases h with hwhole | rfl
  · exact terminatedLines_append below hwhole
  · simp

theorem line_of_isWhole {t : Text} (h : IsWhole t) : t.count '\n' = (terminatedLines t).length := by
  rw [length_terminatedLines, if_pos h, Nat.add_zero]

/-- From line `n` on, some windows of a text have hunks that turn the lines of `body` into those of
`new`, however many lines were added above. -/
def Replays (t : Text) (n : Nat) (windows : List Window) (body new : Text) : Prop :=
  ∃ hunks, windows.mapM (ofWindow? t) = some hunks ∧
    (hunks.filterMap id = [] → new = body) ∧
    ∀ m : Nat, ∀ delta : Int, n + delta = m →
      Replayed n m (terminatedLines body) (place delta (hunks.filterMap id)) (terminatedLines new)

theorem Replays.nil (t : Text) (n : Nat) (body : Text) : Replays t n [] body body :=
  ⟨[], rfl, fun _ => rfl, fun _ _ _ => .rest _ _ _⟩

/-- One window more, above the others. -/
theorem Replays.cons {t gap old block below new : Text} {n : Nat} {w : Window}
    {windows : List Window} (hgap : IsWhole gap) (hold : IsWhole old ∨ below = [])
    (hnew : IsWhole block ∨ new = [])
    (hhunk : ofWindow? t w = some (hunkOf? (n + (terminatedLines gap).length) old block))
    (h : Replays t (n + (terminatedLines gap).length + (terminatedLines old).length) windows below
      new) :
    Replays t n (w :: windows) (gap ++ old ++ below) (gap ++ block ++ new) := by
  obtain ⟨hunks, hhunks, hnone, hreplayed⟩ := h
  refine ⟨hunkOf? (n + (terminatedLines gap).length) old block :: hunks,
    by simp [hhunk, hhunks], ?_, ?_⟩
  · intro hall
    rw [filterMap_id_cons, List.append_eq_nil_iff] at hall
    have hsame : block = old := by
      by_contra hne
      simp [hunkOf?, hne] at hall
    rw [hsame, hnone hall.2]
  · intro m delta hm
    rw [List.append_assoc, List.append_assoc, terminatedLines_append _ hgap,
      terminatedLines_append _ hgap, terminatedLines_of_ends hold, terminatedLines_of_ends hnew,
      filterMap_id_cons]
    apply Replayed.shift
    apply Replayed.block
    · push_cast
      omega
    · exact fun delta' => hreplayed _ delta'

/-- The windows of a text have hunks that replay what the windows say. -/
theorem Windowed.replays {t above body new : Text} {cursor : Nat} {windows : List Window}
    (h : Windowed cursor body windows new) (ht : t = above ++ body) (habove : IsWhole above)
    (hcursor : byteLength above = cursor) :
    Replays t (1 + (terminatedLines above).length) windows body new := by
  induction h generalizing above with
  | rest cursor body => exact .nil t _ body
  | @window cursor gap old block below new w windows hgap hfirst hlast hblock hends h ih =>
    have hwhole : IsWhole (above ++ gap) := habove.append hgap
    have hlines : 1 + (terminatedLines above).length + (terminatedLines gap).length =
        1 + (terminatedLines (above ++ gap)).length := by
      rw [terminatedLines_append gap habove, List.length_append, Nat.add_assoc]
    have ht' : t = above ++ gap ++ old ++ below := by
      rw [ht]
      simp
    have hbyte : byteLength (above ++ gap) = w.first := by
      rw [byteLength_append, hcursor, hfirst]
    have hnew : IsWhole block ∨ new = [] := by
      refine hends.imp And.right ?_
      rintro ⟨rfl, rfl⟩
      exact h.eq_of_nil
    apply Replays.cons hgap (hends.imp And.left And.left) hnew
    · rw [hlines, ← line_of_isWhole hwhole]
      exact ofWindow?_of_replaced hblock ht' hbyte hlast
    · rw [hlines]
      rcases hends with ⟨hold, _⟩ | ⟨rfl, rfl⟩
      · have hnext := ih ht' (hwhole.append hold) (by rw [byteLength_append, hbyte, hlast])
        rwa [terminatedLines_append old hwhole, List.length_append, ← Nat.add_assoc] at hnext
      · rw [h.eq_of_nil]
        exact .nil t _ []

/-! ## The hunks of sorted edits -/

/-- The hunks of edits that are sorted and end inside the text. -/
def hunksOf? (t : Text) (sorted : List Edit) : Option (List Hunk) := do
  let windows ← sorted.mapM (window? t)
  let hunks ← (windows.foldl addWindow []).mapM (ofWindow? t)
  return hunks.filterMap id

theorem collect?_eq {t : Text} {edits : List Edit} (h : ∀ e ∈ edits, e.span.last ≤ byteLength t) :
    collect? t edits = hunksOf? t (ascending edits) := by
  have hinside : (edits.filter fun e => e.span.last ≤ byteLength t) = edits := by
    rw [List.filter_eq_self]
    exact fun e he => decide_eq_true (h e he)
  simp only [collect?, windows?, hunksOf?, hinside]
  cases (ascending edits).mapM (window? t) <;> rfl

variable {t new : Text} {edits : List Edit}

theorem exists_of_mem_mapM {α β : Type} {f : α → Option β} {as : List α} {bs : List β}
    (h : as.mapM f = some bs) : ∀ b ∈ bs, ∃ a, f a = some b := by
  induction as generalizing bs with
  | nil =>
    obtain rfl : [] = bs := Option.some.inj h
    simp
  | cons a as ih =>
    rw [List.mapM_cons] at h
    obtain ⟨b, hb, h⟩ := Option.bind_eq_some_iff.mp h
    obtain ⟨bs, hbs, h⟩ := Option.bind_eq_some_iff.mp h
    obtain rfl := Option.some.inj h
    exact List.forall_mem_cons.mpr ⟨⟨a, hb⟩, ih hbs⟩

/-- A hunk starts at the line of an offset. -/
theorem exists_start_of_collect? {hunks : List Hunk} (h : collect? t edits = some hunks) :
    ∀ hunk ∈ hunks, ∃ offset, hunk.start = (position t offset).line := by
  intro hunk hmem
  obtain ⟨windows, -, h⟩ := Option.bind_eq_some_iff.mp h
  obtain ⟨found, hfound, h⟩ := Option.bind_eq_some_iff.mp h
  obtain rfl := Option.some.inj h
  obtain ⟨w, hw⟩ := exists_of_mem_mapM hfound (some hunk) (by simpa using hmem)
  obtain ⟨old, -, hw⟩ := Option.bind_eq_some_iff.mp hw
  obtain ⟨new, -, hw⟩ := Option.bind_eq_some_iff.mp hw
  split at hw
  · cases hw
  · obtain rfl := Option.some.inj (Option.some.inj hw)
    exact ⟨w.first, rfl⟩

theorem hunksOf?_of_windowed {windows : List Window}
    (hwindows : edits.mapM (window? t) = some windows)
    (h : Windowed 0 t (windows.foldl addWindow []) new) :
    ∃ hunks, hunksOf? t edits = some hunks ∧ (hunks = [] → new = t) ∧
      Replayed 1 1 (terminatedLines t) (place 0 hunks) (terminatedLines new) := by
  obtain ⟨hunks, hhunks, hnone, hreplayed⟩ := h.replays (List.nil_append t).symm isWhole_nil rfl
  refine ⟨hunks.filterMap id, ?_, hnone, hreplayed 1 0 rfl⟩
  simp [hunksOf?, hwindows, hhunks]

/-! ## An insertion at the end -/

theorem window?_end {e : Edit} (ht : IsWhole t) (he : e.span = .point (byteLength t)) :
    window? t e = some ⟨byteLength t, byteLength t, [e]⟩ := by
  obtain ⟨whole, part, hsplit, _, hline, hstart⟩ := lineStart?_append t []
  have hpart : part = [] := by
    by_contra hne
    rw [hsplit, isWhole_append_iff whole hne] at ht
    rcases ht.cases with hnil | ⟨s, rfl⟩
    · exact hne hnil
    · simp at hline
  have hend := lineEnd?_append t []
  rw [hpart, List.append_nil] at hsplit
  rw [List.append_nil] at hstart hend
  rw [← hsplit] at hstart
  simp [window?, he, Span.point, hstart, hend, lineTail]

theorem addWindow_of_le {windows : List Window} {w : Window} (h : ∀ x ∈ windows, x.last ≤ w.first) :
    addWindow windows w = windows ++ [w] := by
  unfold addWindow
  split
  · rename_i current hcurrent
    have hle := h current (List.mem_of_getLast? hcurrent)
    rw [if_neg (by omega)]
  · rfl

theorem hunksOf?_snoc {windows : List Window} {w : Window} {hunks : List (Option Hunk)}
    {hunk : Option Hunk} {e : Edit} (hwindows : edits.mapM (window? t) = some windows)
    (hhunks : (windows.foldl addWindow []).mapM (ofWindow? t) = some hunks)
    (hw : window? t e = some w) (hle : ∀ x ∈ windows.foldl addWindow [], x.last ≤ w.first)
    (hhunk : ofWindow? t w = some hunk) :
    hunksOf? t (edits ++ [e]) = some (hunks.filterMap id ++ hunk.toList) := by
  have hall : (edits ++ [e]).mapM (window? t) = some (windows ++ [w]) := by simp [hwindows, hw]
  have hjoined : (windows ++ [w]).foldl addWindow [] = windows.foldl addWindow [] ++ [w] := by
    rw [List.foldl_append]
    exact addWindow_of_le hle
  have hmade : (windows.foldl addWindow [] ++ [w]).mapM (ofWindow? t) = some (hunks ++ [hunk]) := by
    simp [hhunks, hhunk]
  simp only [hunksOf?, hall, hjoined, hmade, Option.bind_eq_bind, Option.bind_some,
    List.filterMap_append, filterMap_id_cons, List.filterMap_nil, List.append_nil]
  rfl

/-- An insertion at the end of whole lines gets a hunk of its own. -/
theorem hunksOf?_concat {windows : List Window} {e : Edit} {above : Text}
    (hwindows : edits.mapM (window? t) = some windows)
    (h : Windowed 0 t (windows.foldl addWindow []) above)
    (ht : IsWhole t) (he : e.span = .point (byteLength t)) :
    ∃ hunks, hunksOf? t edits = some hunks ∧
      hunksOf? t (edits ++ [e]) =
        some (hunks ++ (hunkOf? (1 + (terminatedLines t).length) [] e.text).toList) := by
  obtain ⟨hunks, hhunks, _⟩ := h.replays (List.nil_append t).symm isWhole_nil rfl
  have hmade : Replaced (byteLength t) ([] ++ [] ++ []) [e] ([] ++ e.text ++ []) :=
    .edit (by simp [he, Span.point]) (by simp [he, Span.point]) (.rest _ _)
  have hcut : t = t ++ ([] ++ [] ++ []) ++ [] := by simp
  have hlast := ofWindow?_of_replaced (w := ⟨byteLength t, byteLength t, [e]⟩) hmade hcut rfl rfl
  rw [line_of_isWhole ht, List.nil_append e.text, List.append_nil e.text] at hlast
  refine ⟨hunks.filterMap id, by simp [hunksOf?, hwindows, hhunks], ?_⟩
  exact hunksOf?_snoc hwindows hhunks (window?_end ht he)
    (fun w hw => by simpa using h.last_le w hw) hlast

/-! ## The diff of edits that are made -/

/-- An insertion at the end of whole lines goes on with a line: another edit took the newline away
that ended it. -/
def Glues (t : Text) (edits : List Edit) (new : Text) : Prop :=
  IsWhole t ∧ ∃ e ∈ edits, e.span = .point (byteLength t) ∧ e.text ≠ [] ∧
    ¬IsWhole (new.rdrop e.text.length)

instance (t : Text) (edits : List Edit) (new : Text) : Decidable (Glues t edits new) :=
  inferInstanceAs (Decidable (_ ∧ _))

/-- Text after a line that is not ended does not get a line of its own. -/
theorem terminatedLines_append_iff {s t : Text} (ht : t ≠ []) :
    terminatedLines (s ++ t) = terminatedLines s ++ terminatedLines t ↔ IsWhole s := by
  refine ⟨?_, terminatedLines_append t⟩
  intro h
  by_contra hs
  have hlength := congrArg List.length h
  simp only [List.length_append, length_terminatedLines, isWhole_append_iff s ht, hs, if_false,
    List.count_append] at hlength
  omega

/-- The insertion at the end of the text is the last one of sorted edits. -/
theorem exists_concat_of_mem {e : Edit} (hfits : ∀ x ∈ edits, x.span.Fits t)
    (hapart : edits.Pairwise fun a b => a.span.Apart b.span) (he : e ∈ edits)
    (hend : e.span = .point (byteLength t)) :
    ∃ above, edits = above ++ [e] ∧ ∀ x ∈ above, x.span ≠ .point (byteLength t) := by
  obtain ⟨above, below, rfl⟩ := List.append_of_mem he
  rw [List.pairwise_append, List.pairwise_cons] at hapart
  have hbelow : below = [] := by
    rw [List.eq_nil_iff_forall_not_mem]
    intro x hx
    have hx' := hapart.2.1.1 x hx
    have hinside := (hfits x (by simp [hx])).inside
    have hlast := hx'.last_le
    have hordered := hx'.ordered'
    simp only [hend, Span.point] at hlast
    apply hx'.ne
    rw [hend, Span.eq_point (s := x.span) (by omega)]
    congr 1
    omega
  refine ⟨above, by rw [hbelow], ?_⟩
  intro x hx
  rw [← hend]
  exact (hapart.2.2 x hx e (by simp)).ne

/-- The hunks of sorted edits against the lines that the edits make. -/
theorem exists_hunksOf? (h : Replaced 0 t edits new) (hfits : ∀ x ∈ edits, x.span.Fits t)
    (hapart : edits.Pairwise fun a b => a.span.Apart b.span) :
    ∃ hunks, hunksOf? t edits = some hunks ∧ (hunks = [] → new = t) ∧
      (Replayed 1 1 (terminatedLines t) (place 0 hunks) (terminatedLines new) ↔
        ¬Glues t edits new) := by
  by_cases hend : IsWhole t ∧ ∃ e ∈ edits, e.span = .point (byteLength t)
  · obtain ⟨ht, e, he, hspan⟩ := hend
    obtain ⟨first, rfl, hfirst⟩ := exists_concat_of_mem hfits hapart he hspan
    obtain ⟨above, rfl, habove⟩ := h.unsnoc (by rw [hspan, Nat.zero_add])
    obtain ⟨windows, hwindows, hcut⟩ := exists_windowed habove fun x hx _ => hfirst x hx
    obtain ⟨hunks, hhunks, hconcat⟩ := hunksOf?_concat hwindows hcut ht hspan
    obtain ⟨hunks', hhunks', hnone, hreplayed⟩ := hunksOf?_of_windowed hwindows hcut
    obtain rfl : hunks = hunks' := Option.some.inj (hhunks.symm.trans hhunks')
    have hglues : Glues t (first ++ [e]) (above ++ e.text) ↔ e.text ≠ [] ∧ ¬IsWhole above := by
      constructor
      · rintro ⟨_, x, hx, hxspan, hne, hopen⟩
        obtain rfl : x = e := by
          rcases List.mem_append.mp hx with hx | hx
          · exact absurd hxspan (hfirst x hx)
          · exact List.mem_singleton.mp hx
        rw [List.rdrop_append_length] at hopen
        exact ⟨hne, hopen⟩
      · rintro ⟨hne, hopen⟩
        exact ⟨ht, e, by simp, hspan, hne, by rwa [List.rdrop_append_length]⟩
    refine ⟨_, hconcat, ?_⟩
    rw [hglues]
    by_cases hne : e.text = []
    · simpa [hunkOf?, hne] using And.intro hnone hreplayed
    · have hadded := hreplayed.concat (terminatedLines e.text) (by rfl)
      rw [hunkOf?, if_neg hne, Option.toList_some, terminatedLines_nil]
      refine ⟨by simp, ?_⟩
      rw [not_and_not_right, ← terminatedLines_append_iff hne]
      exact ⟨fun hnew _ => hnew.unique hadded, fun hlines => hlines hne ▸ hadded⟩
  · obtain ⟨windows, hwindows, hcut⟩ := exists_windowed h fun e he ht hspan =>
      hend ⟨ht, e, he, hspan⟩
    obtain ⟨hunks, hhunks, hnone, hreplayed⟩ := hunksOf?_of_windowed hwindows hcut
    refine ⟨hunks, hhunks, hnone, iff_of_true hreplayed ?_⟩
    rintro ⟨ht, e, he, hspan, _⟩
    exact hend ⟨ht, e, he, hspan⟩

/-- The diff of edits that are made shows hunks, with their places in the old and in the new lines,
that replay to the new lines: all edits apart from an insertion at the end that goes on with a line.
If nothing is shown, nothing changes. The numbers of the old lines fit words of 32 bits, unless the
text is longer than those can count. -/
theorem the_diff_shows_what_the_edits_make (file : String) {t new : Text} {edits : List Edit}
    (h : applyAll t edits = .ok new) :
    ∃ hunks, collect? t edits = some hunks ∧
      unifiedDiff file hunks = printed file (place 0 hunks) ∧
      (Replayed 1 1 (terminatedLines t) (place 0 hunks) (terminatedLines new) ↔
        ¬Glues t edits new) ∧
      (unifiedDiff file hunks = "" → new = t) ∧
      (byteLength t + 1 < UInt32.size → ∀ hunk ∈ hunks, hunk.start < UInt32.size) := by
  obtain ⟨hfits, hd⟩ := applyAll_eq_ok_iff.mp ⟨new, h⟩
  have hmem : ∀ e, e ∈ ascending edits ↔ e ∈ edits := fun e => (perm_ascending edits).mem_iff
  obtain ⟨hunks, hhunks, hnone, hreplayed⟩ := exists_hunksOf? (replaced_of_applyAll h)
    (fun e he => hfits e ((hmem e).mp he))
    (pairwise_apart_ascending (fun e he => (hfits e he).ordered) hd)
  have hcollect : collect? t edits = some hunks := by
    rw [collect?_eq fun e he => (hfits e he).inside, hhunks]
  refine ⟨hunks, hcollect, unifiedDiff_eq file hunks, ?_, ?_, fun hshort hunk hmem => ?_⟩
  · simpa only [Glues, hmem] using hreplayed
  · rw [unifiedDiff_eq_empty_iff]
    exact hnone
  · obtain ⟨offset, hstart⟩ := exists_start_of_collect? hcollect hunk hmem
    exact hstart ▸ (position_fitsWords hshort offset).1

/-- Two edits of one line share a hunk, lines that are taken away and lines that are added move the
places of later hunks, and an insertion below whole lines has lines of its own. -/
theorem edits_of_one_line_share_a_hunk :
    let t := "a\nb\nc\n".toList
    let edits : List Edit :=
      [{ span := ⟨6, 6⟩, text := "z".toList }, { span := ⟨4, 6⟩, text := [] },
        { span := ⟨1, 1⟩, text := "!".toList }, { span := ⟨0, 1⟩, text := "p\nq".toList }]
    let new := "p\nq!\nb\nz".toList
    let hunks : List Hunk :=
      [⟨1, ["a".toList], ["p".toList, "q!".toList]⟩, ⟨3, ["c".toList], []⟩, ⟨4, [], ["z".toList]⟩]
    applyAll t edits = .ok new ∧ ¬Glues t edits new ∧ collect? t edits = some hunks ∧
      unifiedDiff "m.py" hunks = "--- a/m.py\n+++ b/m.py\n@@ -1,1 +1,2 @@\n-a\n+p\n+q!\n" ++
        "@@ -3,1 +4,0 @@\n-c\n@@ -4,0 +4,1 @@\n+z\n" ∧
      Replayed 1 1 (terminatedLines t) (place 0 hunks) (terminatedLines new) ∧
      byteLength t + 1 < UInt32.size ∧ ∀ hunk ∈ hunks, hunk.start < UInt32.size := by
  intro t edits new hunks
  have hfits : ∀ e ∈ edits, e.span.Fits t := by decide
  have hsorted : descending edits = edits := List.mergeSort_of_pairwise (by decide)
  have hmade : applyAll t edits = .ok new := by
    rw [applyAll_of_fits hfits, hsorted]
    decide
  have hreverse := reverse_ascending (fun e he => (hfits e he).ordered)
    (applyAll_eq_ok_iff.mp ⟨new, hmade⟩).2
  rw [hsorted, List.reverse_eq_iff] at hreverse
  have hhunks : collect? t edits = some hunks := by
    rw [collect?_eq fun e he => (hfits e he).inside, hreverse]
    decide
  have hglues : ¬Glues t edits new := by decide
  have hshort : byteLength t + 1 < UInt32.size := by decide
  obtain ⟨hunks', hhunks', _, hreplayed, _, hstarts⟩ := the_diff_shows_what_the_edits_make "m.py" hmade
  obtain rfl : hunks' = hunks := Option.some.inj (hhunks'.symm.trans hhunks)
  exact ⟨hmade, hglues, hhunks, by decide, hreplayed.mpr hglues, hshort, hstarts hshort⟩

/-- Where one edit takes the newline of the last line away and another one inserts text at the end,
the text makes one line, and the diff shows two. -/
theorem a_line_that_is_gone_on_with_is_shown_as_two :
    let t := "a\n".toList
    let edits : List Edit :=
      [{ span := ⟨2, 2⟩, text := "y".toList }, { span := ⟨0, 2⟩, text := "x".toList }]
    let hunks : List Hunk := [⟨1, ["a".toList], ["x".toList]⟩, ⟨2, [], ["y".toList]⟩]
    applyAll t edits = .ok "xy".toList ∧ collect? t edits = some hunks ∧
      Replayed 1 1 (terminatedLines t) (place 0 hunks) ["x".toList, "y".toList] ∧
      ¬Replayed 1 1 (terminatedLines t) (place 0 hunks) (terminatedLines "xy".toList) := by
  intro t edits hunks
  have hfits : ∀ e ∈ edits, e.span.Fits t := by decide
  have hsorted : descending edits = edits := List.mergeSort_of_pairwise (by decide)
  have hmade : applyAll t edits = .ok "xy".toList := by
    rw [applyAll_of_fits hfits, hsorted]
    decide
  have hreverse := reverse_ascending (fun e he => (hfits e he).ordered)
    (applyAll_eq_ok_iff.mp ⟨_, hmade⟩).2
  rw [hsorted, List.reverse_eq_iff] at hreverse
  have hhunks : collect? t edits = some hunks := by
    rw [collect?_eq fun e he => (hfits e he).inside, hreverse]
    decide
  have hfirst :
      Replayed 1 1 ["a".toList] (place 0 [⟨1, ["a".toList], ["x".toList]⟩]) ["x".toList] :=
    @Replayed.hunk 1 1 1 [] [] [] ⟨1, ["a".toList], ["x".toList]⟩ [] rfl rfl (.rest _ _ _)
  have hreplayed : Replayed 1 1 (terminatedLines t) (place 0 hunks) ["x".toList, "y".toList] :=
    hfirst.concat ["y".toList] rfl
  refine ⟨hmade, hhunks, hreplayed, fun h => ?_⟩
  exact absurd (hreplayed.unique h) (by decide)

end Hunk

end Docstring
