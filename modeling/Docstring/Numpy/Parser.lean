-- Reading NumPy-style docstrings: underlined sections, entries at the first column.
import Docstring.Document.Entry
import Docstring.Document.Failure
import Docstring.Document.Head
import Docstring.Normal
import Docstring.Numpy.Header

namespace Docstring.Numpy

/-! ## Sections -/

/-- A section as it stands in the text: the line of its title and the lines below its underline. -/
structure Block where
  kind : SectionKind
  first : Nat
  body : List Line
deriving DecidableEq, Repr

namespace Block

def push (b : Block) (line : Line) : Block := { b with body := b.body ++ [line] }

/-- The lines of a section without the blank ones at its end. -/
def span (b : Block) : SectionSpan :=
  ⟨b.kind, b.first, b.first + 2 + (Text.dropBlankEnd b.body).length⟩

end Block

/-- Cuts the lines from line `n` on into sections, `current` being the open one, and says what
stops it. Every line up to the next header belongs to the open section. -/
def outlineFrom (n : Nat) (current : Option Block) : List Line → List Block × Option ParseError
  | [] => (current.toList, none)
  | [line] => ((current.map fun b => b.push line).toList, none)
  | title :: underline :: rest =>
    match header? title underline with
    | some (.opens kind) =>
      let (blocks, stop) := outlineFrom (n + 2) (some ⟨kind, n, []⟩) rest
      (current.toList ++ blocks, stop)
    | some (.unsupported title) => (current.toList, some (.unsupportedSection title))
    | none => outlineFrom (n + 1) (current.map fun b => b.push title) (underline :: rest)

/-- The sections of the lines from line `n` on, and what stops the reading. -/
def outline (n : Nat) (lines : List Line) : List Block × Option ParseError :=
  outlineFrom n none lines

/-! ## Entries -/

/-- A line at the first column and the description below it. Text before the first such line has
no head. -/
structure Entry where
  head : Option Line
  body : List Line
deriving DecidableEq, Repr

/-- Adds a line to the last entry, or opens the next one. -/
def addLine (entries : List Entry) (line : Line) : List Entry :=
  if !Text.isBlank line && Text.indentWidth line = 0 then entries ++ [⟨some line, []⟩]
  else
    match entries.getLast? with
    | some last => entries.dropLast ++ [{ last with body := last.body ++ [line] }]
    | none => [⟨none, [line]⟩]

def entries (body : List Line) : List Entry := body.foldl addLine []

def bodyIndent : Nat := 4

def Entry.description? (e : Entry) : Option Text :=
  Text.joinProse? (Text.dedentBy bodyIndent e.body)

/-! ## Defaults -/

/-- A text, unless it is empty. -/
def nonEmpty? (t : Text) : Option Text := if t.isEmpty then none else some t

/-- What follows the word `default`: a colon or an equals sign with white space around it, or just
white space. The value must not be empty. -/
def defaultValue? (t : Text) : Option Text :=
  let rest := Text.trimStart t
  let marked :=
    match rest with
    | ':' :: after => nonEmpty? after
    | '=' :: after => nonEmpty? after
    | _ => none
  match marked with
  | some value => some value
  | none => if rest.length < t.length then nonEmpty? rest else none

/-- Reads `default: value` without a type. -/
def bareDefault? (t : Text) : Option Text :=
  (Text.dropPrefix? t "default".toList).bind defaultValue?

/-- Cuts at the first comma that a default follows. -/
def cutAtDefault? : Text → Option (Text × Text)
  | [] => none
  | c :: rest =>
    let here := if c = ',' then bareDefault? (Text.trimStart rest) else none
    match here with
    | some value => some ([], value)
    | none => (cutAtDefault? rest).map fun (left, value) => (c :: left, value)

/-- Splits `type, default: value` into the type and the default. -/
def splitDefault (t : Text) : Option Text × Option Text :=
  match cutAtDefault? t with
  | some (type, value) => (nonEmpty? (Text.trim type), some (Text.trim value))
  | none =>
    match bareDefault? t with
    | some value => (none, some (Text.trim value))
    | none => (nonEmpty? t, none)

/-! ## Parameters -/

def splitCommas : Text → List Text
  | [] => [[]]
  | c :: rest =>
    if c = ',' then [] :: splitCommas rest
    else
      match splitCommas rest with
      | [] => [[c]]
      | piece :: more => (c :: piece) :: more

/-- Adds one of the parameters that an entry names. -/
def addParam (head : Line) (type default : Option Text) (text : Text) (d : Document)
    (raw : Text) : ParseResult :=
  let (kind, name) := ParamKind.splitName raw
  if Text.isIdentifier name then
    .ok (d.addParameter
      { name := name, type := type, default := default, description := some text, kind := kind })
  else .error ⟨.malformedParameter head, d⟩

def addParams (d : Document) (e : Entry) : ParseResult :=
  match e.head with
  | none => .error ⟨.textBeforeParameter, d⟩
  | some head =>
    let text := e.description?.getD []
    match Text.cutAtColon? head with
    | some (names, after) =>
      let (type, default) := splitDefault (Text.trim after)
      (splitCommas names).foldlM (addParam head type default text) d
    | none => (splitCommas head).foldlM (addParam head none none text) d

/-! ## Returns and exceptions -/

/-- The value that the only entry of a section documents, and a warning when its name is lost. -/
def returnEntry (e : Entry) : ReturnDoc × Option Diagnostic :=
  match e.head with
  | none => ({ description := e.description? }, none)
  | some head =>
    match Text.cutAtColon? head with
    | some (name, type) =>
      ({ type := nonEmpty? (Text.trim type), description := e.description? },
        some ⟨.returnNameDropped,
          "return name '" ++ (Text.trim name).asString ++ "' dropped"⟩)
    | none => ({ type := nonEmpty? (Text.trim head), description := e.description? }, none)

def setReturn (kind : SectionKind) (d : Document) (doc : ReturnDoc) : Document :=
  if kind = .yields then { d with yields := some doc } else { d with returns := some doc }

/-- Adds a section on the returned or yielded value, which has one entry at most. -/
def addReturn (kind : SectionKind) (d : Document) (body : List Line) : ParseResult :=
  match entries body with
  | [] => .ok (setReturn kind d .opened)
  | [e] =>
    let (doc, warning) := returnEntry e
    .ok (setReturn kind (d.warnAll warning.toList) doc)
  | several => .error ⟨.severalReturns several.length kind, d⟩

def addRaise (d : Document) (e : Entry) : ParseResult :=
  match e.head with
  | none => .error ⟨.textBeforeException, d⟩
  | some head =>
    let entry : RaiseEntry := ⟨Text.trim head, e.description?⟩
    .ok { d with raises := d.raises ++ [entry] }

/-! ## Documents -/

def addBlock (d : Document) (b : Block) : ParseResult :=
  let body := Text.trimBlankLines b.body
  let d := d.recordSection b.span
  match b.kind with
  | .params => (entries body).foldlM addParams d
  | .returns => addReturn .returns d body
  | .yields => addReturn .yields d body
  | .raises => (entries body).foldlM addRaise d
  | .examples => .ok (d.addExample (Text.joinProse? body))
  | kind => .ok (d.addFreeText? kind (Text.joinProse? (Text.dedent body)))

def parse (text : Text) : ParseResult :=
  let head := Head.cut atHeader atHeader (normalLines text)
  let (blocks, stop) := outline head.length head.rest
  match blocks.foldlM addBlock (head.document .numpy) with
  | .error failure => .error failure
  | .ok d =>
    match stop with
    | some error => .error ⟨error, d⟩
    | none => .ok d

end Docstring.Numpy
