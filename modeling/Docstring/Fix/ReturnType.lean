-- Writing missing return and yield types into docstrings.
import Docstring.Fix.Restyle

namespace Docstring.Fix

def returnTypeName : String := "fix-rtype"

/-! ## Placing a section -/

def spansOf (d : Document) (kind : SectionKind) : List SectionSpan :=
  d.metadata.sections.filter fun span => span.kind = kind

/-- Puts the section on yielded values where the one on returned values was. -/
def spliceOverReturns? (literal : Literal) (current changed : Document) (style : Style)
    (width : Nat) : Option Text :=
  if !(spansOf current .yields).isEmpty then none
  else
    match spansOf current .returns with
    | [span] => literal.splice? span.first span.last (style.sectionLines changed .yields width)
    | _ => none

/-- Of two spans, the one that ends later; the second one on a tie. -/
def laterEnd (a b : SectionSpan) : SectionSpan := if a.last ≤ b.last then b else a

/-- Of two spans, the one that starts earlier; the first one on a tie. -/
def earlierStart (a b : SectionSpan) : SectionSpan := if b.first < a.first then b else a

/-- The last section of those that rank lower. -/
def previousSpan? (spans : List SectionSpan) (kind : SectionKind) : Option SectionSpan :=
  match spans.filter fun span => span.kind.rank < kind.rank with
  | [] => none
  | first :: rest => some (rest.foldl laterEnd first)

/-- The first section of those that rank higher. -/
def nextSpan? (spans : List SectionSpan) (kind : SectionKind) : Option SectionSpan :=
  match spans.filter fun span => kind.rank < span.kind.rank with
  | [] => none
  | first :: rest => some (rest.foldl earlierStart first)

/-- Do two sections stand in one field list, without a line between them? -/
def joinsFields (style : Style) (kind neighbour : SectionKind) : Bool :=
  style = .rest && neighbour ∈ Rest.fieldSections && kind ∈ Rest.fieldSections

/-- Writes one section where it was, or where it belongs: after the sections that rank lower, else
before those that rank higher, else at the end. -/
def spliceSection? (literal : Literal) (current changed : Document) (kind : SectionKind)
    (style : Style) (width : Nat) : Option Text :=
  let lines := style.sectionLines changed kind width
  let spans := current.metadata.sections
  match spansOf current kind with
  | [span] => literal.splice? span.first span.last lines
  | _ :: _ => none
  | [] =>
    match previousSpan? spans kind, nextSpan? spans kind with
    | some before, _ =>
      let gap := if joinsFields style kind before.kind then [] else [[]]
      literal.splice? before.last before.last (gap ++ lines)
    | none, some after =>
      let gap := if joinsFields style kind after.kind then [] else [[]]
      literal.splice? after.first after.first (lines ++ gap)
    | none, none =>
      let count := (Text.splitLines literal.body).length
      let gap := if literal.body.isEmpty then [] else [[]]
      literal.splice? count count (gap ++ lines)

/-! ## One symbol -/

/-- An outcome and the new literal, if there is one. -/
abbrev SymbolFix := SymbolOutcome × Option Text

def outcomeOf (symbol : SymbolFact) (style : Style) (confidence : Binary64) (outcome : Outcome)
    (warnings : List Diagnostic) : SymbolOutcome :=
  { symbol := symbol.qualifiedName, line := symbol.line, outcome := outcome, style := some style,
    confidence := some confidence, warnings := warnings }

/-- A document whose section on the value has a type: the type, and whether it was there. -/
def documentedType (d : Document) (kind : SectionKind) : Option Text :=
  ((if kind = .yields then d.yields else d.returns).getD {}).type

def withType (d : Document) (kind : SectionKind) (type : Text) : Document :=
  if kind = .yields then { d with yields := some { d.yields.getD {} with type := some type } }
  else { d with returns := some { d.returns.getD {} with type := some type } }

/-- Writes the changed document back: as a whole when the docstring is canonical already, and else
only the section that changed. -/
def writeChange? (literal : Literal) (current changed : Document) (kind : SectionKind)
    (style : Style) (moved : Bool) (width : Nat) : Option Text :=
  if style.render current width = literal.body then literal.wrap? (style.render changed width)
  else if moved then spliceOverReturns? literal current changed style width
  else spliceSection? literal current changed kind style width

/-- Adds the annotated type to a document that was read from a literal. -/
def fixDocument (literal : Literal) (symbol : SymbolFact) (hint : Text) (style : Style)
    (confidence : Binary64) (width : Nat) (warnings : List Diagnostic) (current : Document) :
    SymbolFix :=
  let done := outcomeOf symbol style confidence
  let kind : SectionKind := if symbol.isGenerator then .yields else .returns
  let wanted :=
    if symbol.isGenerator then Hint.yieldType hint else Text.trim hint
  let (routed, moves) :=
    if symbol.isGenerator then Enriched.routeReturns current symbol else (current, [])
  let moved := !moves.isEmpty
  let warnings := warnings ++ moves
  let existing := documentedType routed kind
  let mismatch := existing.toList.filterMap fun type =>
    if Hint.same type wanted then none
    else
      some (⟨.typeMismatch, "docstring says `" ++ type.asString ++ "`, annotation says `" ++
        wanted.asString ++ "`"⟩ : Diagnostic)
  let warnings := warnings ++ mismatch
  if existing.isSome && !moved then (done .alreadyCanonical warnings, none)
  else
    let changed := if existing.isSome then routed else withType routed kind wanted
    match writeChange? literal current changed kind style moved width with
    | some text => (done .applied warnings, some text)
    | none =>
      let warning : Diagnostic :=
        ⟨.unsafeLiteral, "cannot place the type without disturbing the docstring"⟩
      (done .unsafeEdit (warnings ++ [warning]), none)

/-- The warning about a docstring with signature lines of several styles. -/
def mixedStyles (found : Detection) : Diagnostic :=
  ⟨.lowConfidence, "mixed docstring styles (" ++ "; ".intercalate found.reasons ++ ")"⟩

/-- Adds the annotated type to the docstring of a symbol, in the docstring's own style; prose gets
the default style. -/
def fixLiteral (literal : Literal) (symbol : SymbolFact) (hint : Text)
    (options : ConvertOptions) (defaultStyle : Style) : SymbolFix :=
  let found := Detection.ofText literal.body
  if found.hasConflicts && !options.unsafeMode then
    (outcomeOf symbol found.style found.confidence .lowConfidence [mixedStyles found], none)
  else
    let warnings := if found.hasConflicts then [mixedStyles found] else []
    let style := if found.style = .plain then defaultStyle else found.style
    if style = .plain then
      let warning : Diagnostic :=
        ⟨.unsupportedSection, "plain text has no place for a return type"⟩
      (outcomeOf symbol style found.confidence .unsafeEdit (warnings ++ [warning]), none)
    else
      match style.parse literal.body with
      | .error failure =>
        (outcomeOf symbol style found.confidence .parseFailure
          (warnings ++ [failure.error.diagnostic]), none)
      | .ok current =>
        fixDocument literal symbol hint style found.confidence
          (options.maxLineWidth - literal.marginWidth) warnings current

/-! ## A file -/

/-- Adds the annotated type to one docstring. -/
def fixReturnType (file : Nat) (source : Text) (options : ConvertOptions) (defaultStyle : Style)
    (symbol : SymbolFact) : FixReport :=
  match symbol.docstring, symbol.returnHint with
  | some site, some hint =>
    if !symbol.kind.isCallable || Hint.isNoValue hint then { file := file }
    else
      match Literal.ofSource? source site with
      | none => { file := file, outcomes := [notPlain symbol] }
      | some literal =>
        let (outcome, text) := fixLiteral literal symbol hint options defaultStyle
        let edits := text.toList.map
          (literalEdit file returnTypeName symbol site (some .missingReturnType))
        { file := file, edits := edits, outcomes := [outcome] }
  | _, _ => { file := file }

/-- Adds missing return and yield types to the docstrings of a file. -/
def fixReturnTypes (file : Nat) (source : Text) (facts : FileFacts) (options : ConvertOptions)
    (defaultStyle : Style) : FixReport :=
  facts.symbols.foldl
    (fun report symbol => report.append (fixReturnType file source options defaultStyle symbol))
    { file := file }

end Docstring.Fix
