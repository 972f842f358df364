-- The windows of a sorted list of edits: they cut the text at line bounds, and the edits of each
-- window replace only what the window holds.
import Docstring.Edit.Hunk
import Docstring.Proofs.Edit.Application
import Docstring.Proofs.Text.Whole

namespace Docstring

open Text

namespace Hunk

open Edit

/-! ## Grouping -/

/-- The windows that come of the open window and those after it. -/
def windowsFrom (current : Window) : List Window → List Window
  | [] => [current]
  | w :: rest =>
    if w.first < current.last then
      windowsFrom ⟨current.first, max current.last w.last, current.edits ++ w.edits⟩ rest
    else current :: windowsFrom w rest

theorem foldl_addWindow (done : List Window) (current : Window) (rest : List Window) :
    rest.foldl addWindow (done ++ [current]) = done ++ windowsFrom current rest := by
  induction rest generalizing done current with
  | nil => rfl
  | cons w rest ih =>
    rw [List.foldl_cons, windowsFrom]
    split
    · rename_i hjoin
      have hadd : addWindow (done ++ [current]) w =
          done ++ [⟨current.first, max current.last w.last, current.edits ++ w.edits⟩] := by
        simp [addWindow, hjoin]
      rw [hadd, ih]
    · rename_i hjoin
      have hadd : addWindow (done ++ [current]) w = (done ++ [current]) ++ [w] := by
        simp [addWindow, hjoin]
      rw [hadd, ih, List.append_assoc]
      rfl

/-! ## Cutting a text into windows -/

/-- `Windowed cursor t windows new`: the windows cut `t`, which starts at the byte `cursor`, between
whole lines, and making the edits of each one in what it holds turns `t` into `new`. Only the last
window may hold a line that is not ended, or leave one. -/
inductive Windowed : Nat → Text → List Window → Text → Prop
  | rest (cursor : Nat) (t : Text) : Windowed cursor t [] t
  | window {cursor : Nat} {gap old block below new : Text} {w : Window} {windows : List Window}
      (hgap : IsWhole gap)
      (hfirst : cursor + byteLength gap = w.first)
      (hlast : w.first + byteLength old = w.last)
      (hblock : Replaced w.first old w.edits block)
      (hends : IsWhole old ∧ IsWhole block ∨ below = [] ∧ windows = [])
      (h : Windowed w.last below windows new) :
      Windowed cursor (gap ++ old ++ below) (w :: windows) (gap ++ block ++ new)

/-- Without windows nothing changes. -/
theorem Windowed.eq_of_nil {cursor : Nat} {t new : Text} (h : Windowed cursor t [] new) :
    new = t := by
  cases h
  rfl

/-- No window reaches beyond the end of the text. -/
theorem Windowed.last_le {cursor : Nat} {t new : Text} {windows : List Window}
    (h : Windowed cursor t windows new) : ∀ w ∈ windows, w.last ≤ cursor + byteLength t := by
  induction h with
  | rest => simp
  | window _ hfirst hlast _ _ _ ih =>
    intro w hw
    simp only [byteLength_append]
    rcases List.mem_cons.mp hw with rfl | hw
    · omega
    · have hle := ih w hw
      omega

/-- Whole lines may be put before the first window. -/
theorem Windowed.shift {cursor : Nat} {above t new : Text} {windows : List Window}
    (h : Windowed (cursor + byteLength above) t windows new) (ha : IsWhole above) :
    Windowed cursor (above ++ t) windows (above ++ new) := by
  cases h with
  | rest => exact .rest _ _
  | @window _ gap old block below new w windows hgap hfirst hlast hblock hends h =>
    have hsplit : Windowed cursor (above ++ gap ++ old ++ below) (w :: windows)
        (above ++ gap ++ block ++ new) :=
      .window (ha.append hgap) (by rw [byteLength_append]; omega) hlast hblock hends h
    simpa using hsplit

/-- The open window at some place of a text: the text above the window, what it holds up to the
place, what is left of the text, and what the edits of the window made. -/
structure Opened (t above old body block : Text) (w : Window) : Prop where
  text : t = above ++ old ++ body
  whole : IsWhole above
  first : byteLength above = w.first
  last : w.last = byteLength (above ++ old) + byteLength (lineTail body)
  /-- Further edits that are made below those of the window can be made with them. -/
  grows : ∀ x edits new, Replaced (byteLength (above ++ old)) x edits new →
    Replaced w.first (old ++ x) (w.edits ++ edits) (block ++ new)

/-- The window of an edit is open where the edit ends. -/
theorem exists_opened {t left old body : Text} {e : Edit} (ht : t = left ++ old ++ body)
    (hfirst : byteLength left = e.span.first)
    (hlast : e.span.first + byteLength old = e.span.last) :
    ∃ above part w, left = above ++ part ∧ window? t e = some w ∧ w.edits = [e] ∧
      Opened t above (part ++ old) body (part ++ e.text) w := by
  obtain ⟨above, part, hleft, hwhole, _, hstart⟩ := lineStart?_append left (old ++ body)
  have hend := lineEnd?_append (left ++ old) body
  have hlength : byteLength (left ++ old) = e.span.last := by rw [byteLength_append, hfirst, hlast]
  rw [← List.append_assoc, ← ht, hfirst] at hstart
  rw [← ht, hlength] at hend
  have habove : above ++ (part ++ old) = left ++ old := by rw [hleft, List.append_assoc]
  refine ⟨above, part, ⟨byteLength above, e.span.last + byteLength (lineTail body), [e]⟩, hleft,
    by simp [window?, hstart, hend], rfl, ?_, hwhole, rfl, ?_, ?_⟩
  · rw [habove, ht]
  · rw [habove, hlength]
  · intro x edits new h
    rw [habove, hlength] at h
    refine .edit ?_ hlast h
    rw [← hfirst, hleft, byteLength_append]

/-- The next edit joins the open window if its own starts before the end of that one. -/
theorem Opened.join {t above old block gap within below : Text} {w : Window} {e : Edit}
    (last : Nat) (h : Opened t above old (gap ++ within ++ below) block w)
    (hfirst : byteLength (above ++ old) + byteLength gap = e.span.first)
    (hlast : e.span.first + byteLength within = e.span.last)
    (hend : last = e.span.last + byteLength (lineTail below)) :
    Opened t above (old ++ gap ++ within) below (block ++ gap ++ e.text)
      ⟨w.first, max w.last last, w.edits ++ [e]⟩ := by
  have hlength : byteLength (above ++ (old ++ gap ++ within)) = e.span.last := by
    rw [← hlast, ← hfirst]
    simp only [byteLength_append]
    omega
  refine ⟨by rw [h.text]; simp, h.whole, h.first, ?_, ?_⟩
  · have hle := byteLength_lineTail_append_le (gap ++ within) below
    rw [byteLength_append] at hle
    have hw := h.last
    rw [hlength]
    change max w.last last = _
    omega
  · intro x edits new hx
    rw [hlength] at hx
    have hgrown := h.grows _ _ _ (.edit hfirst hlast hx)
    simpa using hgrown

/-- The open window ends with the line that it is open in. -/
theorem Opened.close {t above old block tail below new : Text} {w : Window} {windows : List Window}
    (h : Opened t above old (tail ++ below) block w)
    (hlast : w.last = byteLength (above ++ old) + byteLength tail)
    (hends : IsWhole (old ++ tail) ∧ IsWhole (block ++ tail) ∨ below = [] ∧ windows = [])
    (hbelow : Windowed w.last below windows new) :
    Windowed w.first (old ++ (tail ++ below)) (w :: windows) (block ++ (tail ++ new)) := by
  have hmade := h.grows tail [] tail (.rest _ _)
  rw [List.append_nil] at hmade
  rw [byteLength_append, h.first] at hlast
  have hwindow : Windowed w.first ([] ++ (old ++ tail) ++ below) (w :: windows)
      ([] ++ (block ++ tail) ++ new) :=
    .window isWhole_nil rfl (by rw [byteLength_append]; omega) hmade hends hbelow
  simpa using hwindow

/-- A window below the open one stands below whole lines. If it is at the end of a text of whole
lines, it must hold something. -/
theorem Opened.follow {t above old body block above' old' below block' new : Text} {w w' : Window}
    {windows : List Window} (h : Opened t above old body block w)
    (h' : Opened t above' old' below block' w') (hle : w.last ≤ w'.first)
    (hcut : Windowed w'.first (old' ++ below) windows new)
    (hheld : IsWhole t → old' ++ below ≠ []) :
    ∃ lines, body = lines ++ (old' ++ below) ∧
      Windowed w.first (old ++ body) (w :: windows) (block ++ (lines ++ new)) := by
  obtain ⟨rest, hbody, hends⟩ := exists_lineTail body
  have hlast := h.last
  rw [← byteLength_append] at hlast
  have htext : above ++ old ++ lineTail body ++ rest = above' ++ (old' ++ below) := by
    rw [List.append_assoc, ← hbody, ← h.text, h'.text, List.append_assoc]
  obtain ⟨lines, habove, rfl⟩ := exists_between htext (by rw [← hlast, h'.first]; exact hle)
  have hlines : IsWhole lines := by
    have hwhole := h'.whole
    rw [habove] at hwhole
    exact hwhole.of_append
  have hshift : Windowed w.last (lines ++ (old' ++ below)) windows (lines ++ new) := by
    refine Windowed.shift ?_ hlines
    rw [hlast, ← byteLength_append, ← habove, h'.first]
    exact hcut
  refine ⟨lineTail body ++ lines, by rw [List.append_assoc, ← hbody], ?_⟩
  have hopened := h
  rw [hbody] at hopened
  have hclosed := hopened.close (by rw [hlast, byteLength_append]) ?_ hshift
  · rw [← hbody] at hclosed
    simpa using hclosed
  · rcases hends with hnone | hwhole
    · simp only [List.append_eq_nil_iff] at hnone
      have ht : t = above' := by
        rw [h'.text, hnone.2.1, hnone.2.2, List.append_nil, List.append_nil]
      exact absurd (by simp [hnone.2]) (hheld (ht ▸ h'.whole))
    · exact Or.inl ⟨hwhole old, hwhole block⟩

/-- From an open window on, edits fall into windows. No edit may insert below whole lines at the
end of the text: it would be alone in a window of its own. -/
theorem Opened.windowed {t above old body block new : Text} {w : Window} {edits : List Edit}
    (h : Opened t above old body block w)
    (hr : Replaced (byteLength (above ++ old)) body edits new)
    (hend : ∀ e ∈ edits, IsWhole t → e.span ≠ .point (byteLength t)) :
    ∃ windows, edits.mapM (window? t) = some windows ∧
      Windowed w.first (old ++ body) (windowsFrom w windows) (block ++ new) := by
  generalize hcursor : byteLength (above ++ old) = cursor at hr
  induction hr generalizing above old block w with
  | rest cursor body =>
    obtain ⟨below, hbody, hends⟩ := exists_lineTail body
    have hopened := h
    rw [hbody] at hopened
    have hclosed := hopened.close h.last
      (hends.symm.imp (fun hwhole => ⟨hwhole old, hwhole block⟩) fun hnil => ⟨hnil, rfl⟩)
      (.rest _ _)
    rw [← hbody] at hclosed
    exact ⟨[], rfl, hclosed⟩
  | @edit cursor gap within below new e edits hfirst hlast hr ih =>
    have htext : t = above ++ old ++ gap ++ within ++ below := by rw [h.text]; simp
    have hleft : byteLength (above ++ old ++ gap) = e.span.first := by
      rw [byteLength_append, hcursor, hfirst]
    obtain ⟨whole, part, w', hsplit, hw', hedits, hopened⟩ := exists_opened htext hleft hlast
    have hwhole : byteLength (whole ++ (part ++ within)) = e.span.last := by
      rw [← List.append_assoc, ← hsplit, byteLength_append, hleft, hlast]
    have hend' : ∀ x ∈ edits, IsWhole t → x.span ≠ .point (byteLength t) :=
      fun x hx => hend x (by simp [hx])
    by_cases hjoin : w'.first < w.last
    · have hnext := h.join w'.last (by rw [hcursor, hfirst]) hlast
        (by rw [hopened.last, hwhole])
      obtain ⟨windows, hwindows, hcut⟩ := ih hnext hend' (by
        simp only [byteLength_append] at hwhole hleft ⊢
        omega)
      refine ⟨w' :: windows, by simp [hw', hwindows], ?_⟩
      rw [windowsFrom, if_pos hjoin, hedits]
      simpa using hcut
    · obtain ⟨windows, hwindows, hcut⟩ := ih hopened hend' hwhole
      have hheld : IsWhole t → part ++ within ++ below ≠ [] := by
        intro ht hnil
        simp only [List.append_eq_nil_iff] at hnil
        apply hend e (by simp) ht
        have hall : byteLength t = e.span.last := by
          rw [← hwhole, hopened.text, hnil.2, List.append_nil]
        have hsame : e.span.first = e.span.last := by
          rw [← hlast, hnil.1.2, byteLength_nil, Nat.add_zero]
        rw [hall]
        exact Span.eq_point hsame
      obtain ⟨lines, hlines, hcut'⟩ := h.follow hopened (not_lt.mp hjoin) hcut hheld
      have hcancel : gap ++ (within ++ below) = lines ++ part ++ (within ++ below) := by
        simpa using hlines
      have hgap : gap = lines ++ part := List.append_cancel_right hcancel
      refine ⟨w' :: windows, by simp [hw', hwindows], ?_⟩
      rw [windowsFrom, if_neg hjoin]
      simpa [hgap] using hcut'

/-- Edits that do not insert below whole lines at the end of the text fall into windows. -/
theorem exists_windowed {t new : Text} {edits : List Edit} (h : Replaced 0 t edits new)
    (hend : ∀ e ∈ edits, IsWhole t → e.span ≠ .point (byteLength t)) :
    ∃ windows, edits.mapM (window? t) = some windows ∧
      Windowed 0 t (windows.foldl addWindow []) new := by
  cases h with
  | rest => exact ⟨[], rfl, .rest _ _⟩
  | @edit _ gap old below new e edits hfirst hlast h =>
    rw [Nat.zero_add] at hfirst
    obtain ⟨above, part, w, rfl, hw, _, hopened⟩ := exists_opened rfl hfirst hlast
    have hlength : byteLength (above ++ (part ++ old)) = e.span.last := by
      rw [← List.append_assoc, byteLength_append, hfirst, hlast]
    rw [← hlength] at h
    obtain ⟨windows, hwindows, hcut⟩ := hopened.windowed h fun x hx => hend x (by simp [hx])
    have hfold : (w :: windows).foldl addWindow [] = windowsFrom w windows :=
      foldl_addWindow [] w windows
    rw [← hopened.first, ← Nat.zero_add (byteLength above)] at hcut
    refine ⟨w :: windows, by rw [List.mapM_cons, hw, hwindows]; rfl, ?_⟩
    rw [hfold]
    simpa using hcut.shift hopened.whole

end Hunk

end Docstring
