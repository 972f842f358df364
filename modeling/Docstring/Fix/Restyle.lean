-- Converting every docstring of a file.
import Docstring.Conversion
import Docstring.Literal

namespace Docstring.Fix

def restyleName : String := "convert"

/-- The outcome for a docstring that is no plain string literal. -/
def notPlain (symbol : SymbolFact) : SymbolOutcome :=
  { symbol := symbol.qualifiedName, line := symbol.line, outcome := .unsafeEdit,
    warnings := [⟨.unsafeLiteral, "docstring is not a plain string literal"⟩] }

def conversionOutcome (symbol : SymbolFact) (c : Conversion) : SymbolOutcome :=
  { symbol := symbol.qualifiedName, line := symbol.line, outcome := c.outcome,
    style := some c.style, confidence := some c.confidence, warnings := c.warnings }

/-- The edit that puts a new literal in place of a docstring. -/
def literalEdit (file : Nat) (operation : String) (symbol : SymbolFact) (site : DocstringSite)
    (reason : Option Reason) (text : Text) : Edit :=
  { file := file, span := site.span, text := text,
    labels :=
      { operation := some operation, symbol := some symbol.qualifiedName.asString,
        reason := reason.map Reason.code } }

/-- Writes the new text of a docstring back into its literal. -/
def writeBack (file : Nat) (source : Text) (symbol : SymbolFact) (site : DocstringSite)
    (literal : Literal) (outcome : SymbolOutcome) (newBody : Text) : FixReport :=
  match literal.wrap? newBody with
  | none =>
    let warning : Diagnostic :=
      ⟨.unsafeLiteral, "converted text cannot be written into the original literal"⟩
    { file := file,
      outcomes :=
        [{ outcome with outcome := .unsafeEdit, warnings := outcome.warnings ++ [warning] }] }
  | some text =>
    if Text.slice? source site.span.first site.span.last = some text then
      { file := file, outcomes := [{ outcome with outcome := .alreadyCanonical }] }
    else
      { file := file, edits := [literalEdit file restyleName symbol site none text],
        outcomes := [outcome] }

/-- Converts the docstring of one symbol. Its lines may be as wide as the margin leaves room
for. -/
def restyleSymbol (file : Nat) (source : Text) (target : Style) (origin : StyleSource)
    (options : ConvertOptions) (symbol : SymbolFact) : FixReport :=
  if !options.scope.includes symbol.kind then { file := file }
  else
    match symbol.docstring with
    | none => { file := file }
    | some site =>
      match Literal.ofSource? source site with
      | none => { file := file, outcomes := [notPlain symbol] }
      | some literal =>
        let width := options.maxLineWidth - literal.marginWidth
        let result := Conversion.convert literal.body origin target (some symbol)
          { options with maxLineWidth := width }
        let outcome := conversionOutcome symbol result
        match result.text with
        | some newBody => writeBack file source symbol site literal outcome newBody
        | none => { file := file, outcomes := [outcome] }

/-- Converts the docstrings of a file to a style. -/
def restyle (file : Nat) (source : Text) (facts : FileFacts) (target : Style)
    (origin : StyleSource) (options : ConvertOptions) : FixReport :=
  facts.symbols.foldl
    (fun report symbol => report.append (restyleSymbol file source target origin options symbol))
    { file := file }

end Docstring.Fix
