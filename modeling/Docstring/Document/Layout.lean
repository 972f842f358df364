-- How prose, entries and blocks are laid out in lines; every style is written with these.
import Docstring.Document.Basic
import Docstring.Text.Wrap

namespace Docstring.Layout

/-! ## Prose -/

/-- Lines of prose that are never wrapped: indented ones and those of interpreter sessions. -/
def isPreformatted (line : Line) : Bool :=
  (line.head?.map isSpace).getD false || Text.startsWith line ">>>".toList ||
    Text.startsWith line "...".toList

def wrapProseLine (width : Nat) (line : Line) : List Line :=
  if Text.isBlank line then [[]]
  else if isPreformatted line then [line]
  else Text.wrapLine line width width

/-- Wraps prose line by line, so that lines which fit are left alone. -/
def wrapProse (width : Nat) (text : Text) : List Line :=
  (Text.splitLines text).flatMap (wrapProseLine width)

/-- A block that is only shifted, without white space at the ends of its lines. -/
def verbatim (columns : Nat) (text : Text) : List Line :=
  Text.indent columns ((Text.splitLines text).map Text.trimEnd)

/-! ## Entries -/

/-- Shifts the first of some lines by `first` columns and the others by `rest`. -/
def indentFirst (first rest : Nat) : List Line → List Line
  | [] => []
  | line :: lines => (Text.spaces first ++ line) :: Text.indent rest lines

/-- The first line of an entry: the lead, then the start of the description beside it, wrapped
under the continuation column. -/
def hangingFirst (column : Nat) (lead text : Text) (width continuation : Nat) : List Line :=
  if text.isEmpty then [Text.spaces column ++ lead]
  else if lead.isEmpty then
    indentFirst column continuation
      (Text.wrapLine text (width - column) (width - continuation))
  else
    match Text.wrapLine text (width - (column + lead.length + 1)) (width - continuation) with
    | [] => [Text.spaces column ++ lead ++ [' ']]
    | head :: rest =>
      (Text.spaces column ++ lead ++ ' ' :: head) :: Text.indent continuation rest

/-- An entry: `lead` at a column with the description beside it, and further lines of the
description at the continuation column, all within `width` columns. -/
def hanging (column : Nat) (lead text : Text) (width continuation : Nat) : List Line :=
  match Text.splitLines text with
  | [] => [Text.spaces column ++ lead]
  | first :: rest =>
    hangingFirst column lead (Text.trim first) width continuation ++
      Text.indent continuation (rest.flatMap (wrapProseLine (width - continuation)))

/-! ## Blocks -/

/-- The blocks of the summary and the extended description. -/
def headBlocks (d : Document) (width : Nat) : List (List Line) :=
  let block := fun text => if Text.isBlank text then [] else [wrapProse width text]
  block d.summary ++ block (d.extended.getD [])

/-- Blocks with an empty line between each other; empty blocks are left out. -/
def separate : List (List Line) → List Line
  | [] => []
  | block :: rest =>
    if block.isEmpty then separate rest
    else
      match separate rest with
      | [] => block
      | more => block ++ [] :: more

def assemble (blocks : List (List Line)) : Text := Text.joinLines (separate blocks)

/-- The texts of a free-text section that are not blank. -/
def freeTexts (d : Document) (kind : SectionKind) : List Text :=
  (d.freeTexts kind).filter fun text => !Text.isBlank text

end Docstring.Layout
