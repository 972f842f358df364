-- Why a docstring does not fit the grammar of a style, and what was read until then.
import Docstring.Document.Basic

namespace Docstring

/-- Why a docstring cannot be read in a style. Line numbers count from one. -/
inductive ParseError where
  | proseAfterFields (line : Nat)
  | directiveAfterFields (name : Text)
  | unknownField (field : Text)
  | namelessParameter (argument : Text)
  | missingException
  | proseOutsideSection (line : Nat)
  | unsupportedSection (title : Text)
  | textBeforeEntry (line : Text)
  | textBeforeParameter
  | textBeforeException
  | malformedParameter (line : Text)
  | malformedException (line : Text)
  | severalReturns (count : Nat) (kind : SectionKind)
deriving DecidableEq, Repr

namespace ParseError

def reason : ParseError → Reason
  | .proseAfterFields _ | .directiveAfterFields _ | .proseOutsideSection _ => .trailingProse
  | .unknownField _ => .unknownSection
  | .unsupportedSection _ => .unsupportedSection
  | .severalReturns _ _ => .multipleReturns
  | .namelessParameter _ | .missingException | .textBeforeEntry _ | .textBeforeParameter
  | .textBeforeException | .malformedParameter _ | .malformedException _ => .malformedEntry

def message : ParseError → String
  | .proseAfterFields line => "prose after field list at line " ++ Nat.repr line
  | .directiveAfterFields name => "directive '.. " ++ name.asString ++ "::' after field list"
  | .unknownField field => "unknown field ':" ++ field.asString ++ ":'"
  | .namelessParameter argument =>
    "parameter field without a name: ':" ++ argument.asString ++ ":'"
  | .missingException => "raises field without an exception type"
  | .proseOutsideSection line => "unindented text outside a section at line " ++ Nat.repr line
  | .unsupportedSection title => "section '" ++ title.asString ++ "' is not supported"
  | .textBeforeEntry line => "indented text before the first entry: '" ++ line.asString ++ "'"
  | .textBeforeParameter => "indented text before the first parameter"
  | .textBeforeException => "indented text before the first exception"
  | .malformedParameter line => "cannot parse parameter entry '" ++ line.asString ++ "'"
  | .malformedException line => "cannot parse raises entry '" ++ line.asString ++ "'"
  | .severalReturns count kind =>
    let title := if kind = .yields then "Yields" else "Returns"
    Nat.repr count ++ " entries in " ++ title ++ " section"

def diagnostic (e : ParseError) : Diagnostic := ⟨e.reason, e.message⟩

end ParseError

/-- A docstring that cannot be read, with the document as far as it got. -/
structure ParseFailure where
  error : ParseError
  document : Document
deriving DecidableEq, Repr

/-- What reading a docstring gives. -/
abbrev ParseResult := Except ParseFailure Document

end Docstring
