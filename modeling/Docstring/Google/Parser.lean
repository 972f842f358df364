-- Reading Google-style docstrings: sections under headers, entries under sections.
import Docstring.Document.Entry
import Docstring.Document.Failure
import Docstring.Document.Head
import Docstring.Normal

namespace Docstring.Google

/-! ## Sections -/

/-- A section as it stands in the text: the line of its header and the lines below it. -/
structure Block where
  kind : SectionKind
  keywordOnly : Bool
  first : Nat
  body : List Line
deriving DecidableEq, Repr

namespace Block

def push (b : Block) (line : Line) : Block := { b with body := b.body ++ [line] }

/-- The section without the blank lines at its end. -/
def close (b : Block) : Block := { b with body := Text.dropBlankEnd b.body }

def span (b : Block) : SectionSpan := ⟨b.kind, b.first, b.first + 1 + b.body.length⟩

/-- Does a line that is no header belong to this section? Examples take every line, other
sections only blank and indented ones. -/
def takes (b : Block) (line : Line) : Bool :=
  b.kind = .examples || Text.isBlank line || 0 < Text.indentWidth line

end Block

/-- Cuts the lines from line `n` on into sections, `current` being the open one, and says what
stops it. -/
def outlineFrom (n : Nat) (current : Option Block) : List Line → List Block × Option ParseError
  | [] => (current.toList, none)
  | line :: rest =>
    match header? line with
    | some (.opens kind keywordOnly) =>
      let (blocks, stop) := outlineFrom (n + 1) (some ⟨kind, keywordOnly, n, []⟩) rest
      (current.toList ++ blocks, stop)
    | some (.unsupported title) => (current.toList, some (.unsupportedSection title))
    | none =>
      match current with
      | some block =>
        if block.takes line then outlineFrom (n + 1) (some (block.push line)) rest
        else ([block], some (.proseOutsideSection (n + 1)))
      | none =>
        if Text.isBlank line then outlineFrom (n + 1) none rest
        else ([], some (.proseOutsideSection (n + 1)))

/-- The closed sections of the lines from line `n` on, and what stops the reading. -/
def outline (n : Nat) (lines : List Line) : List Block × Option ParseError :=
  let (blocks, stop) := outlineFrom n none lines
  (blocks.map Block.close, stop)

/-! ## Entries -/

/-- A line at the first column of a section and the deeper lines below it. -/
structure Entry where
  head : Line
  continuation : List Line
deriving DecidableEq, Repr

/-- Adds a line to the last entry, or opens the next one. -/
def addLine (entries : List Entry) (line : Line) : Except ParseError (List Entry) :=
  if !Text.isBlank line && Text.indentWidth line = 0 then .ok (entries ++ [⟨line, []⟩])
  else
    match entries.getLast? with
    | some last =>
      .ok (entries.dropLast ++ [{ last with continuation := last.continuation ++ [line] }])
    | none =>
      if Text.isBlank line then .ok entries else .error (.textBeforeEntry (Text.trim line))

/-- The entries of a section. Blank lines inside an entry separate paragraphs of it. -/
def entries (body : List Line) : Except ParseError (List Entry) :=
  (body.foldlM addLine []).map fun found =>
    found.map fun e => { e with continuation := Text.dropBlankEnd e.continuation }

/-! ## Parameters -/

/-- At most two stars, then a name in which a star may be escaped. -/
def isParamName (raw : Text) : Bool :=
  let bare := raw.dropWhile (· = '*')
  raw.length - bare.length ≤ 2 &&
    match bare with
    | [] => false
    | c :: _ =>
      (isLetter c || c == '_') && bare.all fun d => isLetterOrDigit d || d == '_' || d == '\\'

/-- Cuts at the parenthesis that closes `depth` open brackets; any other bracket there is wrong. The
depth never grows beyond the number of characters, so a word of 32 bits holds it in any text that fits
one. -/
def cutAtClose? (depth : Nat) : Text → Option (Text × Text)
  | [] => none
  | c :: rest =>
    if Text.isClosing c && depth ≤ 1 then if c = ')' then some ([], rest) else none
    else
      let next :=
        if Text.isOpening c then depth + 1 else if Text.isClosing c then depth - 1 else depth
      (cutAtClose? next rest).map fun (left, right) => (c :: left, right)

/-- The name, the type and the start of the description of a parameter. -/
structure ParamHead where
  name : Text
  type : Option Text
  first : Text
deriving DecidableEq, Repr

/-- Is this the end of a parameter name? -/
def endsName (c : Char) : Bool := isSpace c || c == '(' || c == ':'

/-- Reads `name (type): text` or `name: text`. -/
def paramHead? (line : Line) : Option ParamHead :=
  let name := line.takeWhile fun c => !endsName c
  if !isParamName name then none
  else
    match Text.trimStart (line.dropWhile fun c => !endsName c) with
    | '(' :: inner =>
      match cutAtClose? 1 inner with
      | some (type, after) =>
        match Text.trimStart after with
        | ':' :: first => some ⟨name, some (Text.trim type), first⟩
        | _ => none
      | none => none
    | ':' :: first => some ⟨name, none, first⟩
    | _ => none

def addParam (keywordOnly : Bool) (d : Document) (e : Entry) : ParseResult :=
  match paramHead? e.head with
  | none => .error ⟨.malformedParameter e.head, d⟩
  | some head =>
    let (kind, name) := ParamKind.splitName head.name
    let kind := if keywordOnly && kind = .positional then .keywordOnly else kind
    let text := Text.description? head.first (Text.dedentBy bodyIndent e.continuation)
    .ok (d.addParameter
      { name := name, type := head.type, description := some (text.getD []), kind := kind })

/-! ## Returns and exceptions -/

/-- Reads a section on the returned or yielded value: `type: text`, `type:` or `text`. -/
def returnDoc (body : List Line) : ReturnDoc :=
  match Text.trimBlankLines body with
  | [] => .opened
  | first :: rest =>
    let untyped : ReturnDoc := { description := Text.joinProse? (first :: rest) }
    match Text.cutAtColon? first with
    | some (left, right) =>
      if Text.looksLikeType (Text.trim left) then
        { type := some (Text.trim left), description := Text.description? right rest }
      else untyped
    | none => untyped

def addRaise (d : Document) (e : Entry) : ParseResult :=
  let continuation := Text.dedentBy bodyIndent e.continuation
  let add := fun type first =>
    let entry : RaiseEntry := ⟨type, Text.description? first continuation⟩
    .ok { d with raises := d.raises ++ [entry] }
  match Text.cutAtColon? e.head with
  | some (left, right) => add (Text.trim left) right
  | none =>
    if (Text.trim e.head).any isSpace then .error ⟨.malformedException e.head, d⟩
    else add (Text.trim e.head) []

/-! ## Documents -/

def addEntries (add : Document → Entry → ParseResult) (d : Document) (body : List Line) :
    ParseResult :=
  match entries body with
  | .error error => .error ⟨error, d⟩
  | .ok found => found.foldlM add d

def addBlock (d : Document) (b : Block) : ParseResult :=
  let body := Text.dedentBy bodyIndent b.body
  let d := d.recordSection b.span
  match b.kind with
  | .params => addEntries (addParam b.keywordOnly) d body
  | .returns => .ok { d with returns := some (returnDoc body) }
  | .yields => .ok { d with yields := some (returnDoc body) }
  | .raises => addEntries addRaise d body
  | .examples => .ok (d.addExample (Text.joinProse? body))
  | kind => .ok (d.addFreeText? kind (Text.joinProse? body))

def atHeader (lines : List Line) : Bool := (lines.head?.map isHeader).getD false

def parse (text : Text) : ParseResult :=
  let head := Head.cut atHeader atHeader (normalLines text)
  let (blocks, stop) := outline head.length head.rest
  match blocks.foldlM addBlock (head.document .google) with
  | .error failure => .error failure
  | .ok d =>
    match stop with
    | some error => .error ⟨error, d⟩
    | none => .ok d

end Docstring.Google
