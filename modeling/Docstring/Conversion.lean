-- Converting one docstring to another style, when that can be trusted.
import Docstring.Codec
import Docstring.Detection
import Docstring.Enrichment
import Docstring.Number.Decimal
import Docstring.Outcome

namespace Docstring

/-- What became of one docstring. -/
structure Conversion where
  outcome : Outcome
  /-- The new text of a docstring that is to be changed. -/
  text : Option Text := none
  warnings : List Diagnostic := []
  style : Style
  confidence : Binary64
deriving DecidableEq, Repr

namespace Conversion

/-- The style of a docstring in normal form and how sure it is. -/
def styleOf (source : StyleSource) (text : Text) : Style × Binary64 :=
  match source with
  | .named style => (style, .one)
  | .auto =>
    let found := Detection.ofText text
    (found.style, found.confidence)

/-- The warning about a style that is not sure enough. -/
def lowConfidence (style : Style) (confidence floor : Binary64) : Diagnostic :=
  ⟨.lowConfidence, "detected " ++ style.name ++ " with confidence " ++ confidence.fixed 2 ++
    " below " ++ floor.fixed 2⟩

/-- The warning about a document that plain text cannot hold. -/
def noSections : Diagnostic :=
  ⟨.unsupportedSection, "plain text cannot hold structured sections"⟩

/-- Writes a document that was read from `normal`. -/
def write (normal : Text) (d : Document) (style target : Style) (confidence : Binary64)
    (symbol : Option SymbolFact) (options : ConvertOptions) (warnings : List Diagnostic) :
    Conversion :=
  if target = .plain && !d.isProse then
    { outcome := .unsafeEdit, warnings := warnings ++ [noSections], style := style,
      confidence := confidence }
  else
    let enriched : Enriched :=
      match symbol with
      | some symbol =>
        if target = .plain then ⟨d, []⟩ else enrich d symbol options.types
      | none => ⟨d, []⟩
    let warnings := warnings ++ enriched.warnings
    let rendered := target.render enriched.document options.maxLineWidth
    if rendered = normal then
      { outcome := .alreadyCanonical, warnings := warnings, style := style,
        confidence := confidence }
    else
      { outcome := .applied, text := some rendered, warnings := warnings, style := style,
        confidence := confidence }

/-- Reads a docstring in normal form and writes it in the target style. -/
def readAndWrite (normal : Text) (style target : Style) (confidence : Binary64)
    (symbol : Option SymbolFact) (options : ConvertOptions) (warnings : List Diagnostic) :
    Conversion :=
  match style.parse normal with
  | .ok d =>
    write normal d style target confidence symbol options (warnings ++ d.metadata.warnings)
  | .error failure =>
    let warnings := warnings ++ [failure.error.diagnostic]
    if options.unsafeMode then
      write normal failure.document style target confidence symbol options
        (warnings ++ failure.document.metadata.warnings)
    else
      { outcome := .parseFailure, warnings := warnings, style := style, confidence := confidence }

/-- Converts a docstring to a style. A style that is not sure enough, or text that does not parse,
is left alone unless the options say otherwise. -/
def convert (text : Text) (source : StyleSource) (target : Style) (symbol : Option SymbolFact)
    (options : ConvertOptions) : Conversion :=
  let normal := normalText text
  let (style, confidence) := styleOf source normal
  if Binary64.less confidence options.minConfidence then
    let low := lowConfidence style confidence options.minConfidence
    if options.unsafeMode then
      readAndWrite normal style target confidence symbol options [low]
    else { outcome := .lowConfidence, warnings := [low], style := style, confidence := confidence }
  else readAndWrite normal style target confidence symbol options []

end Conversion

end Docstring
