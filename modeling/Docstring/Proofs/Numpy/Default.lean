-- The type and the default of a parameter are told apart again, as long as the word that marks
-- defaults is in neither of them.
import Docstring.Numpy.Parser
import Docstring.Proofs.Document.Tidy
import Docstring.Proofs.Text.Bracket
import Docstring.Proofs.Text.Search

namespace Docstring

open Text

/-! ## Defaults -/

namespace Numpy

/-- The word that marks a default. -/
def marker : Text := "default".toList

/-- No default starts where the marker is not in the text, whatever follows after a comma. -/
theorem bareDefault?_append_comma {t : Text} (rest : Text) (h : contains t marker = false) :
    bareDefault? (trimStart (t ++ ',' :: rest)) = none := by
  have hcut : trimStart (t ++ ',' :: rest) = trimStart t ++ ',' :: rest := by
    unfold trimStart
    rw [List.dropWhile_append]
    split
    · rename_i hnil
      rw [List.isEmpty_iff] at hnil
      rw [hnil]
      exact trimStart_of_opensWithInk rfl
    · rfl
  have hnone : dropPrefix? (trimStart t ++ ',' :: rest) marker = none :=
    dropPrefix?_append_of_notMem rest (dropPrefix?_of_contains (contains_trimStart h)) (by decide)
  rw [hcut, bareDefault?]
  change (dropPrefix? _ marker).bind defaultValue? = none
  rw [hnone]
  rfl

theorem bareDefault?_of_contains {t : Text} (h : contains t marker = false) :
    bareDefault? t = none := by
  have hnone : dropPrefix? t marker = none := dropPrefix?_of_contains h
  rw [bareDefault?]
  change (dropPrefix? t marker).bind defaultValue? = none
  rw [hnone]
  rfl

theorem cutAtDefault?_of_contains {t : Text} (h : contains t marker = false) :
    cutAtDefault? t = none := by
  induction t with
  | nil => rfl
  | cons c t ih =>
    have hrest := contains_cons h
    have hhere : (if c = ',' then bareDefault? (trimStart t) else none) = none := by
      rw [bareDefault?_of_contains (contains_trimStart hrest)]
      simp
    simp [cutAtDefault?, hhere, ih hrest]

/-- Commas of a type are passed over up to the one that the default follows. -/
theorem cutAtDefault?_append {t value rest : Text} (h : contains t marker = false)
    (hvalue : bareDefault? (trimStart rest) = some value) :
    cutAtDefault? (t ++ ',' :: rest) = some (t, value) := by
  induction t with
  | nil => simp [cutAtDefault?, hvalue]
  | cons c t ih =>
    have hrest := contains_cons h
    have hhere :
        (if c = ',' then bareDefault? (trimStart (t ++ ',' :: rest)) else none) = none := by
      rw [bareDefault?_append_comma rest hrest]
      simp
    simp [cutAtDefault?, hhere, ih hrest]

theorem cutAtDefault?_of_notMem {s t : Text} (hs : ',' ∉ s) (h : cutAtDefault? t = none) :
    cutAtDefault? (s ++ t) = none := by
  induction s with
  | nil => exact h
  | cons c s ih =>
    simp only [List.mem_cons, not_or] at hs
    simp [cutAtDefault?, Ne.symm hs.1, ih hs.2]

theorem nonEmpty?_of_ne {t : Text} (h : t ≠ []) : nonEmpty? t = some t := by
  simp [nonEmpty?, h]

/-- A written default is read with the space before it. -/
theorem bareDefault?_written (value : Text) :
    bareDefault? ("default: ".toList ++ value) = some (' ' :: value) := by
  have hdrop : dropPrefix? ("default: ".toList ++ value) marker = some (':' :: ' ' :: value) :=
    dropPrefix?_append marker (':' :: ' ' :: value)
  have hcolon : trimStart (':' :: ' ' :: value) = ':' :: ' ' :: value :=
    trimStart_of_opensWithInk rfl
  rw [bareDefault?]
  change (dropPrefix? _ marker).bind defaultValue? = _
  rw [hdrop]
  simp [defaultValue?, hcolon, nonEmpty?]

section SplitDefault

variable {type default : Text}

theorem splitDefault_type (ht : IsOneLine type) (h : contains type marker = false) :
    splitDefault type = (some type, none) := by
  rw [splitDefault, cutAtDefault?_of_contains h]
  simp [bareDefault?_of_contains h, nonEmpty?_of_ne ht.nonempty]

theorem splitDefault_default (hd : IsOneLine default) (h : contains default marker = false) :
    splitDefault ("default: ".toList ++ default) = (none, some default) := by
  have hcut : cutAtDefault? ("default: ".toList ++ default) = none :=
    cutAtDefault?_of_notMem (by decide) (cutAtDefault?_of_contains h)
  rw [splitDefault, hcut]
  simp only [bareDefault?_written, trim_space_cons default isSpace_space, hd.trimmed]

theorem splitDefault_both (ht : IsOneLine type) (hd : IsOneLine default)
    (h : contains type marker = false) :
    splitDefault (type ++ ", default: ".toList ++ default) = (some type, some default) := by
  have hvalue : bareDefault? (trimStart (" default: ".toList ++ default)) =
      some (' ' :: default) := by
    have htrim : trimStart (" default: ".toList ++ default) = "default: ".toList ++ default := rfl
    rw [htrim, bareDefault?_written]
  have hcut : cutAtDefault? (type ++ ", default: ".toList ++ default) =
      some (type, ' ' :: default) := by
    have hshape : type ++ ", default: ".toList ++ default =
        type ++ ',' :: (" default: ".toList ++ default) := by simp
    rw [hshape, cutAtDefault?_append h hvalue]
  rw [splitDefault, hcut]
  simp only [trim_space_cons default isSpace_space, hd.trimmed, ht.trimmed,
    nonEmpty?_of_ne ht.nonempty]

end SplitDefault

end Numpy

end Docstring
