-- The marker lines of field lists: `:field:` and `.. directive::` at the first column.
import Docstring.Document.Basic

namespace Docstring.Rest

/-! ## Markers -/

/-- What a marker line means. -/
inductive Marker where
  | param (kind : ParamKind) (argument : Text)
  | paramType (name : Text)
  | returns
  | returnType
  | yields
  | yieldType
  | raises (exception : Option Text)
  /-- A field that opens a section. -/
  | block (kind : SectionKind)
  /-- A directive that opens a section. -/
  | directive (kind : SectionKind)
  | unknownField (field : Text)
  | unknownDirective (name : Text)
deriving DecidableEq, Repr

namespace Marker

def sectionKind? : Marker → Option SectionKind
  | .param _ _ | .paramType _ => some .params
  | .returns | .returnType => some .returns
  | .yields | .yieldType => some .yields
  | .raises _ => some .raises
  | .block kind | .directive kind => some kind
  | .unknownField _ | .unknownDirective _ => none

end Marker

/-! ## Fields -/

/-- The text after a marker: nothing, or white space and then the text. -/
def markerBody? : Text → Option Text
  | [] => some []
  | c :: rest => if isSpace c then some (Text.trimStart rest) else none

/-- Reads `:field: text`. White space must follow the second colon, so that a role in running text
is no field. -/
def field? : Line → Option (Text × Text)
  | ':' :: c :: rest =>
    if c = ':' || isSpace c then none
    else
      match Text.cutAt? (· == ':') (c :: rest) with
      | some (name, after) => (markerBody? after).map fun body => (Text.trim name, body)
      | none => none
  | _ => none

/-- The fields that open a section, by their names in lower case. -/
def blockFields : List (String × SectionKind) :=
  [("examples", .examples), ("example", .examples), ("notes", .notes), ("note", .notes),
    ("warnings", .warnings), ("warning", .warnings), ("see also", .seeAlso),
    ("seealso", .seeAlso), ("references", .references)]

def isOneOf (t : Text) (words : List String) : Bool := words.any fun word => word.toList = t

def fieldWithArgument (field keyword argument : Text) : Marker :=
  if isOneOf keyword ["param", "parameter", "arg", "argument"] then .param .positional argument
  else if isOneOf keyword ["key", "keyword"] then .param .keywordOnly argument
  else if isOneOf keyword ["type"] then .paramType argument
  else if isOneOf keyword ["raises", "raise", "except", "exception"] then .raises (some argument)
  else .unknownField field

def fieldAlone (field : Text) : Marker :=
  if isOneOf field ["returns", "return"] then .returns
  else if isOneOf field ["rtype"] then .returnType
  else if isOneOf field ["yields", "yield"] then .yields
  else if isOneOf field ["ytype"] then .yieldType
  else if isOneOf field ["raises", "raise", "except", "exception"] then .raises none
  else .unknownField field

def classifyField (field : Text) : Marker :=
  match blockFields.find? fun entry => entry.1.toList = Text.lower field with
  | some (_, kind) => .block kind
  | none =>
    match Text.cutAt? isSpace field with
    | some (keyword, argument) => fieldWithArgument field keyword (Text.trim argument)
    | none => fieldAlone field

/-! ## Directives -/

def isDirectiveChar (c : Char) : Bool := c.isAlpha || c == '-'

/-- Reads `.. name:: text`. -/
def directive? : Line → Option (Text × Text)
  | '.' :: '.' :: c :: rest =>
    if !isSpace c then none
    else
      let named := Text.trimStart rest
      let name := named.takeWhile isDirectiveChar
      if name.isEmpty then none
      else
        match named.dropWhile isDirectiveChar with
        | ':' :: ':' :: after => (markerBody? after).map fun body => (name, body)
        | _ => none
  | _ => none

def classifyDirective (name : Text) : Marker :=
  let name := Text.lower name
  if isOneOf name ["note"] then .directive .notes
  else if isOneOf name ["warning"] then .directive .warnings
  else if isOneOf name ["seealso"] then .directive .seeAlso
  else .unknownDirective name

/-! ## Lines -/

/-- Reads a marker line: the marker and the text beside it. -/
def classify (line : Line) : Option (Marker × Text) :=
  match field? line with
  | some (field, body) => some (classifyField field, body)
  | none => (directive? line).map fun (name, body) => (classifyDirective name, body)

end Docstring.Rest
