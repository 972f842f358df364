-- Reading field lists in reStructuredText.
import Docstring.Document.Failure
import Docstring.Document.Head
import Docstring.Normal
import Docstring.Rest.Marker

namespace Docstring.Rest

/-! ## Fields -/

/-- A marker line with the text beside it and the lines below it. -/
structure Field where
  marker : Marker
  text : Text
  /-- The number of the marker line, from zero. -/
  first : Nat
  body : List Line
deriving DecidableEq, Repr

namespace Field

def push (f : Field) (line : Line) : Field := { f with body := f.body ++ [line] }

/-- The field without the blank lines at its end. -/
def close (f : Field) : Field := { f with body := Text.dropBlankEnd f.body }

/-- The number of the line after a closed field. -/
def last (f : Field) : Nat := f.first + 1 + f.body.length

/-- Does a line belong to this field? An example takes every line up to the next field, other
fields only blank and indented ones. -/
def takes (f : Field) (line : Line) : Bool :=
  if f.marker = .block .examples then (field? line).isNone
  else Text.isBlank line || 0 < Text.indentWidth line

end Field

/-- Cuts the lines from line `n` on into fields, `current` being the open one, and says what stops
it. -/
def outlineFrom (n : Nat) (current : Option Field) : List Line → List Field × Option ParseError
  | [] => (current.toList, none)
  | line :: rest =>
    if current.any fun f => f.takes line then
      outlineFrom (n + 1) (current.map fun f => f.push line) rest
    else if Text.isBlank line then outlineFrom (n + 1) current rest
    else
      match classify line with
      | some (marker, text) =>
        let (fields, stop) := outlineFrom (n + 1) (some ⟨marker, text, n, []⟩) rest
        (current.toList ++ fields, stop)
      | none => (current.toList, some (.proseAfterFields (n + 1)))

/-- The closed fields of the lines from line `n` on, and what stops the reading. -/
def outline (n : Nat) (lines : List Line) : List Field × Option ParseError :=
  let (fields, stop) := outlineFrom n none lines
  (fields.map Field.close, stop)

/-! ## What fields say -/

def bodyIndent : Nat := 4

/-- Adds a parameter field. The last word names the parameter and what stands before is its
type. -/
def addParam (d : Document) (kind : ParamKind) (argument : Text) (text : Option Text) :
    Except ParseError Document :=
  let (type, raw) :=
    match Text.cutAtLast? isSpace argument with
    | some (type, raw) => (some (Text.trim type), raw)
    | none => (none, argument)
  let (starKind, name) := ParamKind.splitName raw
  if name.isEmpty then .error (.namelessParameter argument)
  else
    let kind := if starKind = .positional then kind else starKind
    .ok (d.addParameter
      { name := name, type := type, description := some (text.getD []), kind := kind })

/-- Sets the type of a parameter, which may not have been named yet. -/
def setParamType (d : Document) (raw : Text) (type : Option Text) : Document :=
  let (kind, name) := ParamKind.splitName raw
  match d.parameter? name with
  | some _ => d.modifyParameter name fun p => { p with type := type }
  | none =>
    { d with parameters := d.parameters ++ [{ name := name, type := type, kind := kind }] }

/-- Sets the description in a section on the returned or yielded value. -/
def setDescription (doc : Option ReturnDoc) (text : Option Text) : Option ReturnDoc :=
  some { doc.getD {} with description := some (text.getD []) }

/-- Sets the type in a section on the returned or yielded value. -/
def setType (doc : Option ReturnDoc) (type : Option Text) : Option ReturnDoc :=
  some { doc.getD {} with type := type }

/-- Reads an exception that is named by the first word of its description. -/
def namedRaise (text : Text) : RaiseEntry :=
  match Text.cutAt? isSpace text with
  | some (type, rest) => ⟨type, Text.joinProse? [Text.trim rest]⟩
  | none => ⟨text, none⟩

def addField (d : Document) (f : Field) : Except ParseError Document :=
  let body := Text.dedentBy bodyIndent f.body
  let text := Text.description? f.text body
  match f.marker with
  | .param kind argument => addParam d kind argument text
  | .paramType name => .ok (setParamType d name text)
  | .returns => .ok { d with returns := setDescription d.returns text }
  | .returnType => .ok { d with returns := setType d.returns text }
  | .yields => .ok { d with yields := setDescription d.yields text }
  | .yieldType => .ok { d with yields := setType d.yields text }
  | .raises (some type) => .ok { d with raises := d.raises ++ [⟨type, text⟩] }
  | .raises none =>
    match text with
    | some text => .ok { d with raises := d.raises ++ [namedRaise text] }
    | none => .error .missingException
  | .block .examples => .ok (d.addExample text)
  | .block kind | .directive kind => .ok (d.addFreeText? kind text)
  | .unknownField field => .error (.unknownField field)
  | .unknownDirective name => .error (.directiveAfterFields name)

/-! ## Documents -/

/-- A document and the lines of the run of fields of one kind that is still open. -/
structure Progress where
  document : Document
  group : Option SectionSpan
deriving DecidableEq, Repr

namespace Progress

def finish (p : Progress) : Document :=
  match p.group with
  | some span => p.document.recordSection span
  | none => p.document

/-- Opens a run for a field, unless the open one is of its kind. -/
def enter (p : Progress) (f : Field) : Progress :=
  match f.marker.sectionKind? with
  | none => p
  | some kind =>
    if p.group.any fun span => span.kind = kind then p
    else ⟨p.finish, some ⟨kind, f.first, f.first⟩⟩

/-- Adds a field and extends the open run over it. -/
def add (p : Progress) (f : Field) : Except ParseFailure Progress :=
  let p := p.enter f
  match addField p.document f with
  | .ok d => .ok ⟨d, p.group.map fun span => { span with last := f.last }⟩
  | .error error => .error ⟨error, p.finish⟩

end Progress

def atMarker (lines : List Line) : Bool := (lines.head?.bind classify).isSome

/-- Does a marker stand here that opens the field list? Unknown directives are prose there. -/
def atField (lines : List Line) : Bool :=
  match lines.head?.bind classify with
  | some (.unknownDirective _, _) => false
  | some _ => true
  | none => false

def parse (text : Text) : ParseResult :=
  let head := Head.cut atMarker atField (normalLines text)
  let (fields, stop) := outline head.length head.rest
  match fields.foldlM Progress.add ⟨head.document .rest, none⟩ with
  | .error failure => .error failure
  | .ok progress =>
    match stop with
    | some error => .error ⟨error, progress.document⟩
    | none => .ok progress.finish

end Docstring.Rest
