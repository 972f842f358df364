-- What the operation on return types does to one docstring, step by step: which text it writes, and
-- that it reports text exactly when it writes some.
import Docstring.Fix.ReturnType
import Mathlib.Data.List.Basic

namespace Docstring.Fix

open Text

/-! ## One document -/

/-- The section on the value of a symbol. -/
def valueSection (symbol : SymbolFact) : SectionKind :=
  if symbol.isGenerator then .yields else .returns

/-- The type that the section on the value is to have. -/
def wantedType (symbol : SymbolFact) (hint : Text) : Text :=
  if symbol.isGenerator then Hint.yieldType hint else trim hint

/-- The document with the section on the value that the symbol calls for, and what is said of it. -/
def routed (current : Document) (symbol : SymbolFact) : Document × List Diagnostic :=
  if symbol.isGenerator then Enriched.routeReturns current symbol else (current, [])

/-- The document with a type in the section on the value. -/
def typed (current : Document) (symbol : SymbolFact) (hint : Text) : Document :=
  if (documentedType (routed current symbol).1 (valueSection symbol)).isSome then
    (routed current symbol).1
  else withType (routed current symbol).1 (valueSection symbol) (wantedType symbol hint)

variable {literal : Literal} {symbol : SymbolFact} {hint : Text} {style : Style}
  {confidence : Binary64} {width : Nat} {warnings : List Diagnostic} {current : Document}
  {options : ConvertOptions} {default : Style}

/-- A document is left as it is when the type is there already, in the section where it belongs. -/
theorem fixDocument_text :
    (fixDocument literal symbol hint style confidence width warnings current).2 =
      if (documentedType (routed current symbol).1 (valueSection symbol)).isSome &&
          (routed current symbol).2.isEmpty then none
      else writeChange? literal current (typed current symbol hint) (valueSection symbol) style
        (!(routed current symbol).2.isEmpty) width := by
  unfold fixDocument typed routed valueSection wantedType
  dsimp only
  generalize (if symbol.isGenerator = true then SectionKind.yields else .returns) = kind
  generalize (if symbol.isGenerator = true then Hint.yieldType hint else trim hint) = wanted
  generalize (if symbol.isGenerator = true then Enriched.routeReturns current symbol
    else (current, [])) = pair
  obtain ⟨document, moves⟩ := pair
  dsimp only
  rw [Bool.not_not]
  split
  · rfl
  · split <;> rename_i htext <;> exact htext.symm

/-- An outcome is about its symbol, and it counts as applied exactly when there is text. -/
structure SymbolFix.IsOf (fix : SymbolFix) (s : SymbolFact) : Prop where
  symbol : fix.1.symbol = s.qualifiedName
  line : fix.1.line = s.line
  applied : fix.1.outcome = .applied ↔ fix.2.isSome = true

theorem isOf_fixDocument :
    SymbolFix.IsOf
      (fixDocument literal symbol hint style confidence width warnings current) symbol := by
  unfold fixDocument
  dsimp only
  generalize (if symbol.isGenerator = true then SectionKind.yields else .returns) = kind
  generalize (if symbol.isGenerator = true then Hint.yieldType hint else trim hint) = wanted
  generalize (if symbol.isGenerator = true then Enriched.routeReturns current symbol
    else (current, [])) = pair
  obtain ⟨document, moves⟩ := pair
  dsimp only
  split
  · exact ⟨rfl, rfl, by simp [outcomeOf]⟩
  · split <;> exact ⟨rfl, rfl, by simp [outcomeOf]⟩

/-! ## One docstring -/

theorem isOf_fixLiteral (literal : Literal) (symbol : SymbolFact) (hint : Text)
    (options : ConvertOptions) (default : Style) :
    SymbolFix.IsOf (fixLiteral literal symbol hint options default) symbol := by
  unfold fixLiteral
  dsimp only
  generalize (if (Detection.ofText literal.body).style = .plain then default
    else (Detection.ofText literal.body).style) = style
  split
  · exact ⟨rfl, rfl, by simp [outcomeOf]⟩
  · split
    · exact ⟨rfl, rfl, by simp [outcomeOf]⟩
    · split
      · exact ⟨rfl, rfl, by simp [outcomeOf]⟩
      · exact isOf_fixDocument

end Docstring.Fix
